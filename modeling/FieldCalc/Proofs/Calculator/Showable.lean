import FieldCalc.Proofs.Calculator.Reached
import FieldCalc.Proofs.Decimal.Readable
import FieldCalc.Proofs.Session.Lifecycle

/-!
# Precisions that can be shown

The text of a number token can always be read, so that a key raises a fault only where a number
is to be shown with more places than a text may have. With fewer places no key ever does, and a
batch of keys is carried out to its end.
-/

namespace FieldCalc

namespace Calculator

variable {c c' : Calculator} {action : Action} {steps : List Step} {fault : Option Fault}

theorem Stroke.places_eq (h : Stroke c action c' steps fault) : c'.places = c.places := by
  cases h <;> rfl

theorem Stroke.fault_eq_none (h : Stroke c action c' steps fault)
    (htyped : Typable c.buffer.tokens) (hshown : c.places ≤ Display.maxShownPlaces) :
    fault = none := by
  have hformat : ∀ {x : Binary64} {reason : Fault}, Display.format c.places x ≠ .error reason := by
    intro x reason herror
    obtain ⟨t, ht⟩ := Display.format_of_showable hshown x
    rw [ht] at herror
    cases herror
  cases h with
  | notNumeral _ last read =>
      obtain ⟨x, hx⟩ := Numeral.read?_of_isNumberText (Buffer.isNumberText_last htyped last)
      rw [hx] at read
      cases read
  | percentUnshown _ _ _ _ format | resultUnshown _ _ _ format | recallUnshown _ _ format =>
      exact absurd format hformat
  | ignored | recovered | edited | noNumber | outOfRange | percent | noCalculation | failed
    | evaluated | added | subtracted | forgotten | notRecalled | recalled => rfl

end Calculator

namespace Session

theorem exists_opened {places : Nat} (hshown : places ≤ Display.maxShownPlaces)
    (initial : Binary64) : ∃ s, opened initial places = .ok s := by
  obtain ⟨t, ht⟩ := Display.format_of_showable hshown initial
  unfold opened
  split
  · rw [ht]
    exact ⟨_, rfl⟩
  · exact ⟨_, rfl⟩

/-- An open session with the given precision whose expression can be typed. -/
structure Steady (places : Nat) (s : Session) : Prop where
  isOpen : s.isOpen = true
  typable : Typable s.calculator.buffer.tokens
  places_eq : s.calculator.places = places

variable {places : Nat} {s : Session}

theorem steady_opened {initial : Binary64} (h : opened initial places = .ok s) :
    s.Steady places where
  isOpen := isOpen_opened h
  typable := (Reached.opened h).typable
  places_eq := by
    rcases opened_cases h with hfresh | ⟨text, -, -, hseeded⟩
    · rw [hfresh]
      rfl
    · rw [hseeded]
      rfl

theorem Steady.perform (h : s.Steady places) (action : Action) :
    (s.perform action).state.Steady places := by
  have stroke := Calculator.stroke_press s.calculator action
  rw [Session.perform_of_open h.isOpen]
  exact ⟨h.isOpen, stroke.typable h.typable, stroke.places_eq.trans h.places_eq⟩

theorem Steady.fault_perform (h : s.Steady places) (hshown : places ≤ Display.maxShownPlaces)
    (action : Action) : (s.perform action).fault = none := by
  have stroke := Calculator.stroke_press s.calculator action
  rw [Session.perform_of_open h.isOpen]
  exact stroke.fault_eq_none h.typable (h.places_eq ▸ hshown)

theorem Steady.press (h : s.Steady places) (key : LooseText) :
    (s.press key).state.Steady places := by
  unfold Session.press
  split
  · exact h
  · next action _ => exact h.perform action

theorem Steady.pressAll (h : s.Steady places) (keys : List LooseText) :
    (s.pressAll keys).state.Steady places :=
  Outcome.forEach_keeps (Steady places) (fun _ key hs => hs.press key) h keys

/-- Keys raise no fault where the precision can be shown. -/
theorem Steady.fault_performAll (h : s.Steady places) (hshown : places ≤ Display.maxShownPlaces)
    (actions : List Action) : (s.performAll actions).fault = none :=
  Outcome.fault_forEach (Steady places)
    (fun _ action hs => ⟨hs.perform action, hs.fault_perform hshown action⟩) h actions

end Session

end FieldCalc
