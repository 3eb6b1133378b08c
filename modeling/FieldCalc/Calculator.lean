import FieldCalc.Buffer.Editing
import FieldCalc.Expression.Evaluate
import FieldCalc.Memory
import FieldCalc.Outcome

/-!
A calculator: an expression being edited, a memory, and the precision that results are shown and
committed with. A press of `=` evaluates the expression and shows the result; what it adds to the
tape is part of the outcome, since the calculator never reads the tape. While the display shows
an error, only the keys that recover from it and the keys that change the memory work.

Keys put only operators that have a meaning into the expression. So no error of the evaluator has
to be told from another here: each is of the kinds that are shown as an error.
-/

namespace FieldCalc

structure Calculator where
  places : Nat
  buffer : Buffer
  memory : Memory
  deriving DecidableEq

namespace Calculator

def fresh (places : Nat) : Calculator := ⟨places, .fresh, .empty⟩

def display (c : Calculator) : Text := c.buffer.text

def edit (c : Calculator) (f : Buffer → Buffer) : Calculator := { c with buffer := f c.buffer }

/-- The value of the expression: evaluated if possible, else read as a plain number, else
zero. -/
def currentValue (c : Calculator) : Binary64 :=
  if c.buffer.error then .zero
  else match Expression.evaluate c.buffer.tokens with
    | .ok value => value
    | .error _ => (Display.plainNumber? c.buffer.text).getD .zero

/-! ## Evaluation -/

inductive Evaluation where
  | evaluated
  | noOperation
  | failed
  deriving DecidableEq, Repr

/-- What pressing `=` does. A plain number is no calculation. -/
def evaluation (c : Calculator) : Evaluation :=
  if c.buffer.error || !c.buffer.hasOperator then .noOperation
  else match Expression.evaluate c.buffer.tokens with
    | .ok _ => .evaluated
    | .error _ => .failed

def evaluate (c : Calculator) : Outcome Calculator :=
  if c.buffer.error || !c.buffer.hasOperator then .quiet c
  else match Expression.evaluate c.buffer.tokens with
    | .error _ => .quiet (c.edit Buffer.showError)
    | .ok value =>
        let step : Step := ⟨c.buffer.text, value⟩
        match Display.format c.places value with
        | .error fault => ⟨c, [step], [], some fault⟩
        | .ok text =>
            let shown := { c.buffer.loadNumber text with pending := none, waiting := true }
            ⟨{ c with buffer := shown }, [step], [], none⟩

def percent (c : Calculator) : Outcome Calculator :=
  match c.buffer.last with
  | .number text =>
      match Numeral.read? text with
      | none => .refused c (.notNumeral (.ofText text))
      | some value =>
          let hundredth := value.div (Binary64.ofNat 100)
          if hundredth.isFinite then
            match Display.format c.places hundredth with
            | .error fault => .refused c fault
            | .ok shown => .quiet (c.edit (·.replaceLast (.number shown)))
          else .quiet (c.edit Buffer.showError)
  | _ => .quiet c

/-! ## Memory -/

def memoryAdd (c : Calculator) : Calculator := { c with memory := c.memory.add c.currentValue }

def memorySubtract (c : Calculator) : Calculator :=
  { c with memory := c.memory.subtract c.currentValue }

def memoryClear (c : Calculator) : Calculator := { c with memory := .empty }

/-- Recalls the memory into the expression; a memory that is not finite cannot be recalled. -/
def memoryRecall (c : Calculator) : Outcome Calculator :=
  if c.memory.value.isFinite then
    match Display.format c.places c.memory.value with
    | .error fault => .refused c fault
    | .ok text => .quiet (c.edit (·.typeRecalled text))
  else .quiet c

/-! ## Keys -/

def perform (c : Calculator) : Action → Outcome Calculator
  | .digit d => .quiet (c.edit (·.typeDigits (Action.digitText d)))
  | .point => .quiet (c.edit Buffer.typePoint)
  | .operator op => .quiet (c.edit (·.typeOperator op))
  | .openParen => .quiet (c.edit Buffer.typeOpen)
  | .closeParen => .quiet (c.edit Buffer.typeClose)
  | .backspace => .quiet (c.edit Buffer.backspace)
  | .allClear => .quiet (c.edit fun _ => Buffer.fresh)
  | .toggleSign => .quiet (c.edit Buffer.toggleSign)
  | .percent => c.percent
  | .equals => c.evaluate
  | .memoryAdd => .quiet c.memoryAdd
  | .memorySubtract => .quiet c.memorySubtract
  | .memoryRecall => c.memoryRecall
  | .memoryClear => .quiet c.memoryClear

/-- A key press: the action is ignored on an error display unless it works there, and felt
after it was carried out if it is to be felt. -/
def press (c : Calculator) (action : Action) : Outcome Calculator :=
  if c.buffer.error && !action.worksOnError then .quiet c
  else
    let done := c.perform action
    if done.fault.isNone && action.wantsFeedback then { done with feedback := [action] }
    else done

def pressAll (c : Calculator) (actions : List Action) : Outcome Calculator :=
  Outcome.forEach press c actions

end Calculator

end FieldCalc
