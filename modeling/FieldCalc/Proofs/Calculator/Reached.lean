import FieldCalc.Proofs.Action.Label
import FieldCalc.Proofs.Calculator.Stroke
import FieldCalc.Proofs.Display.Shape
import FieldCalc.Proofs.Expression.Grammar
import FieldCalc.Session

/-!
# The states of a calculator

A calculator is opened on some value and some precision, and then keys are pressed. A press that
raises a fault leaves a state from which more keys may be pressed. In every state that is reached
so, the tokens can be typed on a fresh calculator with the editing keys alone.
-/

namespace FieldCalc

/-- A calculator that key presses lead to from a start, and the tape it has recorded. -/
inductive Reached : Calculator → Tape → Prop where
  | opened {initial : Binary64} {places : Nat} {s : Session}
      (start : Session.opened initial places = .ok s) : Reached s.calculator .empty
  | pressed {c : Calculator} {tape : Tape} {key : LooseText} {action : Action}
      (before : Reached c tape) (valid : Action.ofKey key = .ok action) :
      Reached (c.press action).state (tape.record (c.press action).steps)

namespace Reached

theorem fresh (places : Nat) : Reached (Calculator.fresh places) .empty :=
  opened (show Session.opened .zero places = .ok _ from rfl)

theorem press {c : Calculator} {tape : Tape} (h : Reached c tape) (action : Action) :
    Reached (c.press action).state (tape.record (c.press action).steps) :=
  h.pressed (Action.ofKey_label action)

end Reached

/-! ## Starts -/

theorem Session.opened_cases {initial : Binary64} {places : Nat} {s : Session}
    (h : Session.opened initial places = .ok s) :
    s.calculator = Calculator.fresh places ∨
      ∃ text, initial.isFinite = true ∧ Display.format places initial = .ok text ∧
        s.calculator = (Calculator.fresh places).edit (·.loadNumber text) := by
  unfold Session.opened at h
  split at h
  · next hinitial =>
      split at h
      · cases h
      · next text htext =>
          cases h
          simp only [Bool.and_eq_true] at hinitial
          exact .inr ⟨text, hinitial.1, htext, rfl⟩
  · cases h
    exact .inl rfl

/-! ## What can be typed -/

namespace Calculator

theorem Stroke.typable {c c' : Calculator} {action : Action} {steps : List Step}
    {fault : Option Fault} (h : Stroke c action c' steps fault)
    (htokens : Typable c.buffer.tokens) : Typable c'.buffer.tokens := by
  cases h with
  | recovered => exact Typable.zero
  | edited ready => exact Buffer.typable_edited ready htokens _
  | percent ready last read range format =>
      exact Buffer.typable_replaceNumber c.buffer htokens last
        (Display.isNumberText_of_format range format)
  | evaluated ready calculation value format =>
      exact Typable.number
        (Display.isNumberText_of_format (Expression.evaluate_eq_ok value).1 format)
  | recalled ready range format =>
      exact Buffer.typable_typeRecalled ready htokens
        (Display.isNumberText_of_format range format)
  | ignored | noNumber | notNumeral | outOfRange | percentUnshown | noCalculation | failed
    | resultUnshown | added | subtracted | forgotten | notRecalled | recallUnshown =>
      exact htokens

end Calculator

theorem Reached.typable {c : Calculator} {tape : Tape} (h : Reached c tape) :
    Typable c.buffer.tokens := by
  induction h with
  | opened start =>
      rcases Session.opened_cases start with hfresh | ⟨text, hfinite, hformat, hseeded⟩
      · rw [hfresh]
        exact Typable.zero
      · rw [hseeded]
        exact Typable.number (Display.isNumberText_of_format hfinite hformat)
  | pressed _ _ ih => exact (Calculator.stroke_press _ _).typable ih

end FieldCalc
