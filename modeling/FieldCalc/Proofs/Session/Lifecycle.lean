import FieldCalc.Proofs.Outcome
import FieldCalc.Session

/-!
# Open and closed sessions

A session is open when it is opened, keys never close it, and committing or cancelling does. While
it is open it can always be committed.
-/

namespace FieldCalc.Session

theorem isOpen_opened {initial : Binary64} {places : Nat} {s : Session}
    (h : opened initial places = .ok s) : s.isOpen = true := by
  unfold opened at h
  split at h
  · split at h
    · cases h
    · cases h
      rfl
  · cases h
    rfl

theorem perform_of_open {s : Session} (h : s.isOpen = true) (action : Action) :
    s.perform action = (s.calculator.press action).map s.withCalculator := by
  simp only [perform, h, if_true]

theorem isOpen_perform (s : Session) (action : Action) :
    (s.perform action).state.isOpen = s.isOpen := by
  unfold perform
  split <;> rfl

theorem isOpen_performAll {s : Session} (h : s.isOpen = true) (actions : List Action) :
    (s.performAll actions).state.isOpen = true :=
  Outcome.forEach_keeps (fun s : Session => s.isOpen = true)
    (fun s action hs => (s.isOpen_perform action).trans hs) h actions

theorem commit_of_open {s : Session} (h : s.isOpen = true) :
    s.commit = .ok ({ s with state := .committed s.resultValue }, s.resultValue) := by
  simp only [commit, h, if_true]

theorem abandoned_closed (s : Session) : s.abandoned.isOpen = false := rfl

/-- Keys that are all known do what their actions do. -/
theorem pressAll_eq {keys : List LooseText} {actions : List Action}
    (h : Action.ofKeys keys = .ok actions) (s : Session) :
    s.pressAll keys = s.performAll actions := by
  unfold Action.ofKeys at h
  induction keys generalizing actions s with
  | nil =>
      cases h
      rfl
  | cons key rest ih =>
      rw [List.mapM_cons] at h
      simp only [bind, Except.bind, pure, Except.pure] at h
      split at h
      · cases h
      · next action hkey =>
          split at h
          · cases h
          · next others hrest =>
              cases h
              have hfirst : s.press key = s.perform action := by simp only [press, hkey]
              simp only [pressAll, performAll, Outcome.forEach_cons, hfirst] at ih ⊢
              simp only [ih hrest]

end FieldCalc.Session
