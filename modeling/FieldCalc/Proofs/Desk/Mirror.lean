import FieldCalc.Desk.Keypad
import FieldCalc.Desk.Popup
import FieldCalc.Proofs.Calculator.Effects
import FieldCalc.Proofs.Calculator.Unfailing

/-!
# Popups and their sessions

The buttons of a popup and the keyboard name actions, and an action is all that they do. A popup
that has carried one out without trouble shows its session as it is. Trouble there is only where a
number is to be shown with more places than a text may have.
-/

namespace FieldCalc

theorem Tape.lines_iff {places : Nat} {tape : Tape} :
    (∃ lines, tape.lines places = .ok lines) ↔
      ∀ step ∈ tape.steps, ∃ t, Display.format places step.result = .ok t := by
  have hline : ∀ step, (∃ text, line places step = .ok text) ↔
      ∃ t, Display.format places step.result = .ok t := by
    intro step
    simp only [line, bind, Except.bind, pure, Except.pure]
    cases Display.format places step.result <;> simp
  simp only [lines, exists_mapM_eq_ok, hline]

/-- Each button presses the key it shows, and neither closes the popup. -/
theorem Keypad.button_presses : ∀ b ∈ bar ++ rows.flatten, keyOf? b.label = some b.key ∧
    (Action.ofKey? b.key).isSome ∧ b.label ≠ "Done" ∧ b.label ≠ "Cancel" := by
  decide +kernel

namespace Popup

/-- The display and the list of the window are those of the session. -/
structure Mirrors (p : Popup) : Prop where
  display : p.display = p.session.display
  lines : p.tape.lines p.session.places = .ok p.lines

variable {p : Popup}

theorem mirrors_refresh (h : p.refresh.2 = none) : p.refresh.1.Mirrors := by
  unfold refresh at h ⊢
  split
  · next hlines => exact ⟨rfl, hlines⟩
  · next hlines =>
      rw [hlines] at h
      cases h

theorem refresh_silent (accepted : Display.Accepts p.session.places) : p.refresh.2 = none := by
  obtain ⟨lines, hlines⟩ := Tape.lines_iff.mpr fun step (_ : step ∈ p.tape.steps) =>
    accepted step.result
  rw [refresh, hlines]

theorem refresh_eq (p : Popup) :
    ∃ lines, p.refresh.1 = { p with display := p.session.display, lines } := by
  unfold refresh
  split <;> exact ⟨_, rfl⟩

/-! ## Actions -/

/-- What an action does, by whatever button or key it was named. -/
def act (p : Popup) (now : Nat) (action : Action) : Popup × Option Trouble :=
  p.settle now (p.session.perform action)

def acts (p : Popup) (now : Nat) (actions : List Action) : Popup :=
  actions.foldl (fun p action => (p.act now action).1) p

theorem keyEvent_eq (p : Popup) (now : Nat) (typed : LooseText) (keysym : String) :
    p.keyEvent now typed keysym =
      match Action.ofKey? (eventKey typed keysym) with
      | none => (p, none)
      | some action => p.act now action := rfl

theorem press_eq {key : String} {action : Action} (h : Action.ofKey? key = some action) (p : Popup)
    (now : Nat) : p.press now key = p.act now action := by
  simp only [press, act, Session.press, Action.ofKey, LooseText.toString_ofString, h]

variable {now : Nat} {action : Action}

theorem mirrors_act (h : (p.act now action).2 = none) : (p.act now action).1.Mirrors := by
  unfold act settle at h ⊢
  simp only at h ⊢
  split
  · next hfault =>
      rw [hfault] at h
      cases h
  · next hfault =>
      rw [hfault] at h
      exact mirrors_refresh h

/-- What an action changes besides what is shown. -/
theorem act_eq (p : Popup) (now : Nat) (action : Action) :
    ∃ display lines lit restores, (p.act now action).1 =
      { p with
        session := (p.session.perform action).state
        tape := p.tape.record (p.session.perform action).steps
        display, lines, lit, restores } := by
  unfold act settle
  simp only
  split
  · exact ⟨_, _, _, _, rfl⟩
  · obtain ⟨lines, hlines⟩ := refresh_eq _
    exact ⟨_, _, _, _, hlines⟩

/-! ## Popups that are in use -/

/-- A popup on a field of the given name and precision, whose session is open. -/
structure IsOn (p : Popup) (name : String) (places : Nat) : Prop where
  name : p.fieldName = name
  steady : p.session.Steady places

variable {name : String} {places : Nat}

theorem IsOn.places_eq (h : p.IsOn name places) : p.session.places = places := h.steady.places_eq

theorem IsOn.act (h : p.IsOn name places) (now : Nat) (action : Action) :
    (p.act now action).1.IsOn name places := by
  obtain ⟨display, lines, lit, restores, heq⟩ := p.act_eq now action
  rw [heq]
  exact ⟨h.name, h.steady.perform action⟩

theorem IsOn.acts (h : p.IsOn name places) (now : Nat) (actions : List Action) :
    (p.acts now actions).IsOn name places := by
  induction actions generalizing p with
  | nil => exact h
  | cons action rest ih => exact ih (h.act now action)

theorem IsOn.act_silent (h : p.IsOn name places) (accepted : Display.Accepts places) (now : Nat)
    (action : Action) : (p.act now action).2 = none := by
  have hplaces : (p.act now action).1.session.places = places := (h.act now action).places_eq
  unfold Popup.act settle at hplaces ⊢
  simp only [h.steady.fault_perform (Display.accepts_iff.mp accepted) action] at hplaces ⊢
  refine refresh_silent ?_
  obtain ⟨lines, hlines⟩ := refresh_eq _
  rw [hlines] at hplaces
  rw [hplaces]
  exact accepted

theorem IsOn.mirrors_acts (h : p.IsOn name places) (shown : p.Mirrors)
    (accepted : Display.Accepts places) (now : Nat) (actions : List Action) :
    (p.acts now actions).Mirrors := by
  induction actions generalizing p with
  | nil => exact shown
  | cons action rest ih =>
      exact ih (h.act now action) (mirrors_act (h.act_silent accepted now action))

/-! ## A sum that cannot be shown -/

theorem session_acts (p : Popup) (now : Nat) (actions : List Action) :
    (p.acts now actions).session =
      actions.foldl (fun s action => (s.perform action).state) p.session := by
  induction actions generalizing p with
  | nil => rfl
  | cons action rest ih =>
      obtain ⟨display, lines, lit, restores, heq⟩ := p.act_eq now action
      have hfirst : (p.act now action).1.session = (p.session.perform action).state := by rw [heq]
      exact (ih _).trans (by rw [hfirst]; rfl)

/-- Where a number has no text, no calculation can be shown. -/
theorem IsOn.unshown_equals (h : p.IsOn name places) (many : Display.maxShownPlaces < places)
    (calculation : p.session.calculator.evaluation = .evaluated) (now : Nat) :
    (p.act now .equals).2 ≠ none ∧ ¬ (p.act now .equals).1.Mirrors := by
  obtain ⟨-, -, x, hx⟩ := Calculator.evaluation_eq_evaluated.mp calculation
  rw [← h.places_eq] at many
  obtain ⟨fault, hpress⟩ := Calculator.press_equals_unshown calculation many hx
  have hperform : p.session.perform .equals =
      ⟨p.session, [⟨p.session.display, x⟩], [], some fault⟩ := by
    rw [Session.perform_of_open h.steady.isOpen, hpress]
    rfl
  unfold Popup.act settle
  rw [hperform]
  refine ⟨nofun, fun shown => ?_⟩
  obtain ⟨t, ht⟩ := Tape.lines_iff.mp ⟨_, shown.lines⟩ ⟨p.session.display, x⟩
    (by simp [Tape.record])
  obtain ⟨reason, hreason⟩ := Display.exists_format_error many (Expression.evaluate_eq_ok hx).1
  rw [ht] at hreason
  cases hreason

def sum : List Action := [.point, .operator .plus, .point]

theorem evaluation_sum (places : Nat) :
    (sum.foldl (fun s action => (s.perform action).state)
      (⟨.fresh places, .open, .fresh⟩ : Session)).calculator.evaluation = .evaluated := by
  have hsum : (sum.foldl (fun s action => (s.perform action).state)
      (⟨.fresh places, .open, .fresh⟩ : Session)).calculator =
        ⟨places, ⟨[.number ['0', '.'], .operator ['+']], .number ['0', '.'], false, some .plus,
          false⟩, .empty⟩ := rfl
  have hbuffer : ∀ b, (⟨places, b, .empty⟩ : Calculator).evaluation =
      (⟨0, b, .empty⟩ : Calculator).evaluation := fun _ => rfl
  rw [hsum, hbuffer]
  decide +kernel

/-- A popup as it is opened. Where numbers have no text its field holds none to start from. -/
structure StartsOn (p : Popup) (name : String) (places : Nat) : Prop extends
    IsOn p name places where
  mirrors : p.Mirrors
  fresh : Display.maxShownPlaces < places → p.session = ⟨.fresh places, .open, .fresh⟩

theorem startsOn_opened {title : String} {palette : Palette} {session : Session} {x : Binary64}
    (h : Session.opened x places = .ok session) :
    (opened name title palette session).StartsOn name places where
  name := rfl
  steady := Session.steady_opened h
  mirrors := ⟨rfl, rfl⟩
  fresh many := by
    unfold Session.opened at h
    split at h
    · next hinitial =>
        simp only [Bool.and_eq_true] at hinitial
        obtain ⟨fault, hfault⟩ := Display.exists_format_error many hinitial.1
        rw [hfault] at h
        cases h
    · cases h
      rfl

theorem StartsOn.unshown_sum (h : p.StartsOn name places) (many : Display.maxShownPlaces < places)
    (now : Nat) :
    ((p.acts now sum).act now .equals).2 ≠ none ∧
      ¬ ((p.acts now sum).act now .equals).1.Mirrors := by
  refine (h.acts now sum).unshown_equals many ?_ now
  rw [session_acts, h.fresh many]
  exact evaluation_sum places

end Popup

end FieldCalc
