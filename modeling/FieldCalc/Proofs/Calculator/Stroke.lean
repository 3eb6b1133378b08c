import FieldCalc.Calculator
import FieldCalc.Proofs.Buffer.Editing

/-!
# What one key press can do

Every key press ends in one of the ways listed here, each with what it met and what it leaves:
the calculator, the calculations for the tape, and the fault that was raised, if any. What holds
after a press is shown by going through this list, never by going through the keys again.
-/

namespace FieldCalc

namespace Calculator

/-- The buffer that shows the result of a calculation. -/
def shownResult (b : Buffer) (text : Text) : Buffer :=
  { b.loadNumber text with pending := none, waiting := true }

inductive Stroke (c : Calculator) : Action → Calculator → List Step → Option Fault → Prop where
  | ignored {action : Action} (error : c.buffer.error = true)
      (locked : action.worksOnError = false) : Stroke c action c [] none
  | recovered {action : Action} (error : c.buffer.error = true)
      (clears : action = .backspace ∨ action = .allClear) :
      Stroke c action (c.edit fun _ => Buffer.fresh) [] none
  | edited {action : Action} (ready : c.buffer.error = false) (edits : action.isEdit = true) :
      Stroke c action (c.edit (·.edited action)) [] none
  | noNumber (ready : c.buffer.error = false) (last : c.buffer.last.isNumber = false) :
      Stroke c .percent c [] none
  | notNumeral {text : Text} (ready : c.buffer.error = false)
      (last : c.buffer.last = .number text) (read : Numeral.read? text = none) :
      Stroke c .percent c [] (some (.notNumeral (.ofText text)))
  | outOfRange {text : Text} {value : Binary64} (ready : c.buffer.error = false)
      (last : c.buffer.last = .number text) (read : Numeral.read? text = some value)
      (range : (value.div (Binary64.ofNat 100)).isFinite = false) :
      Stroke c .percent (c.edit Buffer.showError) [] none
  | percent {text shown : Text} {value : Binary64} (ready : c.buffer.error = false)
      (last : c.buffer.last = .number text) (read : Numeral.read? text = some value)
      (range : (value.div (Binary64.ofNat 100)).isFinite = true)
      (format : Display.format c.places (value.div (Binary64.ofNat 100)) = .ok shown) :
      Stroke c .percent (c.edit (·.replaceLast (.number shown))) [] none
  | percentUnshown {text : Text} {value : Binary64} {fault : Fault}
      (ready : c.buffer.error = false) (last : c.buffer.last = .number text)
      (read : Numeral.read? text = some value)
      (range : (value.div (Binary64.ofNat 100)).isFinite = true)
      (format : Display.format c.places (value.div (Binary64.ofNat 100)) = .error fault) :
      Stroke c .percent c [] (some fault)
  | noCalculation (ready : c.buffer.error = false) (plain : c.buffer.hasOperator = false) :
      Stroke c .equals c [] none
  | failed {e : ExpressionError} (ready : c.buffer.error = false)
      (calculation : c.buffer.hasOperator = true)
      (value : Expression.evaluate c.buffer.tokens = .error e) :
      Stroke c .equals (c.edit Buffer.showError) [] none
  | evaluated {result : Binary64} {shown : Text} (ready : c.buffer.error = false)
      (calculation : c.buffer.hasOperator = true)
      (value : Expression.evaluate c.buffer.tokens = .ok result)
      (format : Display.format c.places result = .ok shown) :
      Stroke c .equals (c.edit (shownResult · shown)) [⟨c.buffer.text, result⟩] none
  | resultUnshown {result : Binary64} {fault : Fault} (ready : c.buffer.error = false)
      (calculation : c.buffer.hasOperator = true)
      (value : Expression.evaluate c.buffer.tokens = .ok result)
      (format : Display.format c.places result = .error fault) :
      Stroke c .equals c [⟨c.buffer.text, result⟩] (some fault)
  | added : Stroke c .memoryAdd c.memoryAdd [] none
  | subtracted : Stroke c .memorySubtract c.memorySubtract [] none
  | forgotten : Stroke c .memoryClear c.memoryClear [] none
  | notRecalled (ready : c.buffer.error = false) (range : c.memory.value.isFinite = false) :
      Stroke c .memoryRecall c [] none
  | recalled {shown : Text} (ready : c.buffer.error = false)
      (range : c.memory.value.isFinite = true)
      (format : Display.format c.places c.memory.value = .ok shown) :
      Stroke c .memoryRecall (c.edit (·.typeRecalled shown)) [] none
  | recallUnshown {fault : Fault} (ready : c.buffer.error = false)
      (range : c.memory.value.isFinite = true)
      (format : Display.format c.places c.memory.value = .error fault) :
      Stroke c .memoryRecall c [] (some fault)

/-! ## Keys that do more than edit -/

private theorem stroke_percent {c : Calculator} (ready : c.buffer.error = false) :
    Stroke c .percent c.percent.state c.percent.steps c.percent.fault := by
  unfold Calculator.percent
  split
  · next text last =>
      split
      · next read => exact .notNumeral ready last read
      · next value read =>
          simp only
          split
          · next range =>
              split
              · next fault format => exact .percentUnshown ready last read range format
              · next shown format => exact .percent ready last read range format
          · next range => exact .outOfRange ready last read (by simpa using range)
  · next last =>
      refine .noNumber ready ?_
      cases hb : c.buffer.last with
      | number text => exact absurd hb (last text)
      | operator _ | openParen _ | closeParen _ => rfl

private theorem stroke_evaluate {c : Calculator} (ready : c.buffer.error = false) :
    Stroke c .equals c.evaluate.state c.evaluate.steps c.evaluate.fault := by
  unfold Calculator.evaluate
  rw [ready, Bool.false_or]
  split
  · next plain => exact .noCalculation ready (by simpa using plain)
  · next calculation =>
      have calculation : c.buffer.hasOperator = true := by simpa using calculation
      split
      · next e value => exact .failed ready calculation value
      · next result value =>
          simp only
          split
          · next fault format => exact .resultUnshown ready calculation value format
          · next shown format => exact .evaluated ready calculation value format

private theorem stroke_memoryRecall {c : Calculator} (ready : c.buffer.error = false) :
    Stroke c .memoryRecall c.memoryRecall.state c.memoryRecall.steps c.memoryRecall.fault := by
  unfold Calculator.memoryRecall
  split
  · next range =>
      split
      · next fault format => exact .recallUnshown ready range format
      · next shown format => exact .recalled ready range format
  · next range => exact .notRecalled ready (by simpa using range)

/-! ## All keys -/

private theorem stroke_perform {c : Calculator} {action : Action}
    (h : c.buffer.error = false ∨ action.worksOnError = true) :
    Stroke c action (c.perform action).state (c.perform action).steps
      (c.perform action).fault := by
  cases herror : c.buffer.error with
  | false =>
      cases action with
      | digit _ | point | operator _ | openParen | closeParen | backspace | allClear
        | toggleSign => exact .edited herror rfl
      | percent => exact stroke_percent herror
      | equals => exact stroke_evaluate herror
      | memoryRecall => exact stroke_memoryRecall herror
      | memoryAdd => exact .added
      | memorySubtract => exact .subtracted
      | memoryClear => exact .forgotten
  | true =>
      rw [herror] at h
      have works := h.resolve_left Bool.true_eq_false.mp
      cases action with
      | backspace =>
          have hfresh : c.edit Buffer.backspace = c.edit fun _ => Buffer.fresh := by
            simp [edit, Buffer.backspace, herror]
          simp only [perform, Outcome.quiet, hfresh]
          exact .recovered herror (.inl rfl)
      | allClear => exact .recovered herror (.inr rfl)
      | memoryAdd => exact .added
      | memorySubtract => exact .subtracted
      | memoryClear => exact .forgotten
      | digit _ | point | operator _ | openParen | closeParen | toggleSign | percent | equals
        | memoryRecall => cases works

theorem stroke_press (c : Calculator) (action : Action) :
    Stroke c action (c.press action).state (c.press action).steps (c.press action).fault := by
  unfold press
  split
  · next hlocked =>
      simp only [Bool.and_eq_true, Bool.not_eq_true'] at hlocked
      exact .ignored hlocked.1 hlocked.2
  · next hfree =>
      have hfree : c.buffer.error = false ∨ action.worksOnError = true := by
        cases herror : c.buffer.error <;> simp_all
      have hdone := stroke_perform hfree
      simp only
      split <;> exact hdone

/-- A key that works, and that does nothing but lead to a state. -/
theorem press_quiet {c next : Calculator} {action : Action}
    (works : c.buffer.error = false ∨ action.worksOnError = true)
    (h : c.perform action = .quiet next) :
    c.press action = ⟨next, [], if action.wantsFeedback then [action] else [], none⟩ := by
  have hfree : (c.buffer.error && !action.worksOnError) = false := by
    rcases works with hready | hworks <;> simp [*]
  unfold press
  rw [hfree, h, if_neg Bool.false_ne_true]
  cases action.wantsFeedback <;> rfl

end Calculator

end FieldCalc
