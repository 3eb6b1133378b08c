import FieldCalc.Proofs.Calculator.Effects
import Mathlib.Logic.Function.Iterate

/-!
# Pressing `=` again

Whatever `=` comes to, it leaves nothing to be done by another `=`: a result is one number token
and no calculation, an error display is locked, and what was no calculation stays none. Only a
result that cannot be shown leaves the calculation where it was, and every further press records
it once more.
-/

namespace FieldCalc

namespace Calculator

/-- A key is pressed on a calculator, and a tape takes what there is to be recorded. -/
def strike (action : Action) (s : Calculator × Tape) : Calculator × Tape :=
  ((s.1.press action).state, s.2.record (s.1.press action).steps)

variable {c : Calculator}

theorem hasOperator_shownResult (b : Buffer) (t : Text) :
    (shownResult b t).hasOperator = false := rfl

theorem evaluation_shownResult (c : Calculator) (t : Text) :
    (c.edit (shownResult · t)).evaluation = .noOperation := rfl

theorem evaluation_showError (c : Calculator) :
    (c.edit Buffer.showError).evaluation = .noOperation := rfl

theorem press_equals_of_noOperation (h : c.evaluation = .noOperation) :
    c.press .equals = .quiet c := by
  rw [press_equals]
  rcases c.evaluate_cases with ⟨-, hquiet⟩ | ⟨hvalue, -⟩ | ⟨hvalue, -⟩
  · exact hquiet
  · rw [h] at hvalue
    cases hvalue
  · rw [h] at hvalue
    cases hvalue

/-- A press of `=` either leaves no calculation behind, or leaves everything as it was with the
calculation recorded and a fault raised. -/
theorem press_equals_cases (c : Calculator) :
    ((c.press .equals).fault = none ∧ (c.press .equals).state.evaluation = .noOperation) ∨
      ∃ x fault, c.evaluation = .evaluated ∧ Display.maxShownPlaces < c.places ∧
        c.press .equals = ⟨c, [⟨c.display, x⟩], [], some fault⟩ := by
  rw [press_equals]
  rcases c.evaluate_cases with
    ⟨hvalue, h⟩ | ⟨-, h⟩ | ⟨hvalue, x, -, ⟨t, -, h⟩ | ⟨fault, hformat, h⟩⟩
  · exact .inl (by rw [h]; exact ⟨rfl, hvalue⟩)
  · exact .inl (by rw [h]; exact ⟨rfl, c.evaluation_showError⟩)
  · exact .inl (by rw [h]; exact ⟨rfl, c.evaluation_shownResult t⟩)
  · refine .inr ⟨x, fault, hvalue, ?_, h⟩
    by_contra hfew
    obtain ⟨t, ht⟩ := Display.format_of_showable (Nat.le_of_not_lt hfew) x
    rw [hformat] at ht
    cases ht

theorem quiet_press_equals (hfault : (c.press .equals).fault = none) :
    (c.press .equals).state.press .equals = .quiet (c.press .equals).state := by
  rcases c.press_equals_cases with ⟨-, hnone⟩ | ⟨x, fault, -, -, h⟩
  · exact press_equals_of_noOperation hnone
  · rw [h] at hfault
    cases hfault

theorem strike_twice (hfault : (c.press .equals).fault = none) (tape : Tape) :
    strike .equals (strike .equals (c, tape)) = strike .equals (c, tape) := by
  simp only [strike, quiet_press_equals hfault, Outcome.quiet, Tape.record_nil]

theorem strike_of_fault (hfault : (c.press .equals).fault ≠ none) :
    ∃ x, ∀ tape : Tape, strike .equals (c, tape) = (c, tape.record [⟨c.display, x⟩]) := by
  rcases c.press_equals_cases with ⟨hnone, -⟩ | ⟨x, fault, -, -, h⟩
  · exact absurd hnone hfault
  · exact ⟨x, fun tape => by simp only [strike, h]⟩

/-- What a second press of `=` does, and any further one. -/
structure EqualsAgain (c : Calculator) (tape : Tape) : Prop where
  /-- Twice is once, calculator and tape, just if the press raised no fault. -/
  twice_iff : strike .equals (strike .equals (c, tape)) = strike .equals (c, tape) ↔
    (c.press .equals).fault = none
  shownError : ∀ e, Expression.evaluate c.buffer.tokens = .error e → e.IsShown
  fault_iff : (c.press .equals).fault = none ↔
    (c.evaluation = .evaluated → c.places ≤ Display.maxShownPlaces)
  quiet : (c.press .equals).fault = none →
    (c.press .equals).state.press .equals = .quiet (c.press .equals).state
  often : (c.press .equals).fault = none →
    ∀ n, (strike .equals)^[n + 1] (c, tape) = strike .equals (c, tape)
  mounts : (c.press .equals).fault ≠ none → ∃ x, ∀ n,
    (strike .equals)^[n] (c, tape) = (c, tape.record (List.replicate n ⟨c.display, x⟩))
  plain : c.evaluation = .evaluated → (c.press .equals).fault = none →
    (c.press .equals).state.buffer.hasOperator = false ∧
      ∃ t, IsNumberText t ∧ (c.press .equals).state.buffer = ⟨[], .number t, true, none, false⟩

end Calculator

open Calculator

/-- What a press of `=` has left is not changed by another one, in any state that is reached,
unless the press has raised a fault. -/
theorem Reached.equalsAgain {c : Calculator} {tape : Tape} (h : Reached c tape) :
    c.EqualsAgain tape where
  twice_iff := by
    refine ⟨fun hsame => ?_, fun hfault => strike_twice hfault tape⟩
    by_contra hfault
    obtain ⟨x, hstrike⟩ := strike_of_fault hfault
    -- The tapes would be equally long.
    have htape := congrArg (fun s => s.2.steps.length) hsame
    simp [hstrike, Tape.record] at htape
  shownError _ := h.isShown_of_evaluate
  fault_iff := by
    constructor
    · intro hnone hvalue
      by_contra hmany
      obtain ⟨-, -, x, hx⟩ := evaluation_eq_evaluated.mp hvalue
      obtain ⟨fault, h⟩ := press_equals_unshown hvalue (Nat.lt_of_not_le hmany) hx
      rw [h] at hnone
      cases hnone
    · intro hfew
      rcases c.press_equals_cases with ⟨hnone, -⟩ | ⟨x, fault, hvalue, hmany, -⟩
      · exact hnone
      · exact absurd (hfew hvalue) (Nat.not_le.mpr hmany)
  quiet := quiet_press_equals
  often hfault n := by
    rw [Function.iterate_succ_apply, Function.iterate_fixed (strike_twice hfault tape)]
  mounts hfault := by
    obtain ⟨x, hstrike⟩ := strike_of_fault hfault
    refine ⟨x, fun n => ?_⟩
    induction n with
    | zero => rw [Function.iterate_zero_apply, List.replicate_zero, Tape.record_nil]
    | succ n ih =>
        rw [Function.iterate_succ_apply', ih, hstrike, List.replicate_succ', Tape.record_append]
  plain hvalue hfault := by
    obtain ⟨-, -, x, hx⟩ := evaluation_eq_evaluated.mp hvalue
    rw [press_equals] at hfault ⊢
    rcases evaluate_of_ok hvalue hx with ⟨t, ht, h⟩ | ⟨fault, -, h⟩
    · rw [h]
      exact ⟨hasOperator_shownResult _ t, t,
        Display.isNumberText_of_format (Expression.evaluate_eq_ok hx).1 ht, rfl⟩
    · rw [h] at hfault
      cases hfault

/-- A sum that no text has the places for is recorded once for each press. -/
theorem equalsAgain_unshownSum : ∃ (c : Calculator) (tape : Tape), Reached c tape ∧
    c.display = "1+2".toList ∧
      strike .equals (strike .equals (c, tape)) ≠ strike .equals (c, tape) := by
  have sum := (((Reached.fresh 2147483648).press (.digit 1)).press (.operator .plus)).press
    (.digit 2)
  have again := sum.equalsAgain
  refine ⟨_, _, sum, by decide +kernel, fun hsame => ?_⟩
  have hfew := again.fault_iff.mp (again.twice_iff.mp hsame) (by decide +kernel)
  exact absurd hfew (by decide +kernel)

end FieldCalc
