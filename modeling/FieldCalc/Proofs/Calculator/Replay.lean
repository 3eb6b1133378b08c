import FieldCalc.Proofs.Calculator.Reached
import FieldCalc.Proofs.Expression.Relex

/-!
# Replaying the tape

A calculation goes to the tape as the text of the display and the result. Whatever keys were
pressed before, reading the text back gives the same result: the signs of the numbers come apart,
but the phrase that is read has the value of the phrase that was evaluated.
-/

namespace FieldCalc

open Expression (Phrase nestingBudget tokenize evaluateText)

/-- A recorded calculation whose text reads back to its result. The sign of a number, once it
stands apart, takes one more of the budget for nesting. -/
structure Step.Replays (step : Step) : Prop where
  finite : step.result.isFinite = true
  phrase : ∃ e : Phrase Text (.chain .sum), tokenize step.expression = .ok e.tokens ∧
    e.value = .ok step.result ∧ e.depth ≤ nestingBudget + 1 ∧
    (e.depth ≤ nestingBudget → evaluateText step.expression = .ok step.result)

namespace Calculator

theorem replays_of_evaluated {b : Buffer} {result : Binary64} (ready : b.error = false)
    (htyped : Typable b.tokens) (value : Expression.evaluate b.tokens = .ok result) :
    Step.Replays ⟨b.text, result⟩ := by
  have htext : b.text = Token.textOf b.tokens := by
    simp only [Buffer.text, ready, Bool.false_eq_true, if_false]
  refine ⟨(Expression.evaluate_eq_ok value).1, ?_⟩
  simp only [htext]
  exact Expression.evaluateText_textOf htyped value

theorem Stroke.replays {c c' : Calculator} {action : Action} {steps : List Step}
    {fault : Option Fault} (h : Stroke c action c' steps fault) (htyped : Typable c.buffer.tokens) :
    ∀ step ∈ steps, step.Replays := by
  intro step hstep
  cases h with
  -- A result that cannot be shown has been recorded all the same.
  | evaluated ready _ value | resultUnshown ready _ value =>
      rw [List.mem_singleton.mp hstep]
      exact replays_of_evaluated ready htyped value
  | ignored | recovered | edited | noNumber | notNumeral | outOfRange | percent | percentUnshown
    | noCalculation | failed | added | subtracted | forgotten | notRecalled | recalled
    | recallUnshown => cases hstep

end Calculator

/-- Every calculation on the tape of any run has a finite result, and its text reads back to that
result. -/
theorem Reached.recorded_replays {c : Calculator} {tape : Tape} (h : Reached c tape) :
    ∀ step ∈ tape.steps, step.Replays := by
  induction h with
  | opened =>
      intro step hstep
      cases hstep
  | @pressed c tape key action before _ ih =>
      intro step hstep
      rcases List.mem_append.mp hstep with hold | hnew
      · exact ih step hold
      · exact (Calculator.stroke_press c action).replays before.typable step hnew

/-- Subtracting minus three from five. -/
theorem replays_negative_subtrahend :
    ∃ (c : Calculator) (tape : Tape), Reached c tape ∧
      tape.steps = [⟨"5--3".toList, Binary64.ofNat 8⟩] ∧ ∀ step ∈ tape.steps, step.Replays := by
  have start := Reached.fresh 2
  have typed := (((start.press (.digit 5)).press (.operator .minus)).press (.digit 3)).press
    .toggleSign
  have pressed := typed.press .equals
  refine ⟨_, _, pressed, ?_, pressed.recorded_replays⟩
  decide +kernel

end FieldCalc
