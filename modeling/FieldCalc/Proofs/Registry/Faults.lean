import FieldCalc.Proofs.Calculator.Showable
import FieldCalc.Proofs.Registry.RejectedOpen

/-!
# Operations that fail

An operation that fails leaves the registry as it was, but for two. An opening that is rejected has
let idle sessions go and made room by then. And keys on a session whose results cannot be shown
are pressed up to the one that would show a result.
-/

namespace FieldCalc

namespace Session

variable {places : Nat} {s : Session}

theorem Steady.performAll (h : s.Steady places) (actions : List Action) :
    (s.performAll actions).state.Steady places :=
  Outcome.forEach_keeps (Steady places) (fun _ action hs => hs.perform action) h actions

theorem Steady.own (h : s.Steady places) : s.Steady s.places := ⟨h.isOpen, h.typable, rfl⟩

end Session

namespace Registry

variable {r : Registry}

/-- The session of every registered ticket has come from an opening by keys alone. -/
theorem InUse.steady (h : InUse r) : ∀ t ∈ r.tickets, t.session.Steady t.session.places := by
  induction h with
  | empty =>
      intro t ht
      cases ht
  | @taken r before call ih =>
      intro t ht
      have turn := turn_take before.issued.toProper before.orderly call
      cases turn.present before.orderly ht with
      | kept registered => exact ih t registered
      | @pressed _ _ t _ actions registered => exact ((ih t registered).performAll actions).own
      | opened field start =>
          obtain ⟨precision, -, hopened⟩ := sessionOn_eq_ok start
          exact (Session.steady_opened hopened).own

/-! ## What stops an operation -/

def reason? {α : Type} : Except Fault α → Option Fault
  | .ok _ => none
  | .error fault => some fault

theorem reason?_eq_some {α : Type} {x : Except Fault α} {fault : Fault} :
    reason? x = some fault ↔ x = .error fault := by
  cases x <;> simp [reason?]

/-- The fault that an operation fails with, if it fails. -/
def fault? (r : Registry) : Operation → Option Fault
  | .setField name value => reason? (r.setField name value)
  | .submitText name text => reason? (r.submitText name text)
  | .openSession name places => reason? (r.openSession name places).2
  | .press id keys => reason? (r.press id keys).2
  | .finish id => reason? (r.finish id)
  | .cancel id => reason? (r.cancel id)
  | .expire | .setClock _ => none

/-- All that an operation that fails can do. -/
inductive Failed (r : Registry) : Operation → Registry → Prop where
  | unchanged {op : Operation} : Failed r op r
  | rejected {name : String} {places : Option Int} :
      Failed r (.openSession name places) (r.dismiss r.crowd)
  | cutShort {t : Ticket} {keys : List LooseText} {actions : List Action}
      (registered : t ∈ r.tickets) (known : Action.ofKeys keys = .ok actions)
      (unshown : Display.maxShownPlaces < t.session.places) :
      Failed r (.press t.id keys) (r.update (t.pressed actions r.now))

private theorem settled_of_reason? {α : Type} {answer : Except Fault (Registry × α)} {fault : Fault}
    (h : reason? answer = some fault) : r.settled answer = r := by
  rw [reason?_eq_some.mp h]
  rfl

private theorem failed_openSession (h : r.Orderly) {name : String} {places : Option Int}
    {fault : Fault} (rejected : (r.openSession name places).2 = .error fault) :
    Failed r (.openSession name places) (r.openSession name places).1 := by
  rcases rejected_open_cases h rejected with ⟨-, hsame⟩ | ⟨-, hroomy⟩
  · rw [hsame]
    exact .unchanged
  · rw [hroomy, ← cleared_eq h, cleared_eq_dismiss h]
    exact .rejected

private theorem failed_press (h : InUse r) {id : String} {keys : List LooseText} {fault : Fault}
    (hfault : (r.press id keys).2 = .error fault) :
    Failed r (.press id keys) (r.press id keys).1 := by
  cases hkeys : Action.ofKeys keys with
  | error unknown =>
      rw [press_unknownKey hkeys]
      exact .unchanged
  | ok actions =>
      rcases registered_or_gone r id with ⟨t, ht, rfl⟩ | hid
      · rw [press_registered h.orderly hkeys ht] at hfault ⊢
        -- Where results can be shown no known key fails.
        refine .cutShort ht hkeys (Nat.lt_of_not_le fun hshown => ?_)
        rw [(h.steady t ht).fault_performAll hshown actions] at hfault
        cases hfault
      · rw [press_gone hkeys hid]
        exact .unchanged

theorem failed_apply (h : InUse r) {op : Operation} {fault : Fault}
    (hfault : r.fault? op = some fault) : Failed r op (r.apply op) := by
  cases op with
  | setField | submitText | finish | cancel =>
      simp only [apply, settled_of_reason? hfault]
      exact .unchanged
  | openSession => exact failed_openSession h.orderly (reason?_eq_some.mp hfault)
  | press => exact failed_press h (reason?_eq_some.mp hfault)
  | expire | setClock => cases hfault

end Registry

end FieldCalc
