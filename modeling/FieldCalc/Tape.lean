import FieldCalc.Display

/-!
The tape: the calculations made so far, oldest first. Steps are only ever added.
-/

namespace FieldCalc

/-- One calculation: the display before it and its result. -/
structure Step where
  expression : Text
  result : Binary64
  deriving DecidableEq

structure Tape where
  steps : List Step
  deriving DecidableEq

namespace Tape

def empty : Tape := ⟨[]⟩

def record (tape : Tape) (steps : List Step) : Tape := ⟨tape.steps ++ steps⟩

@[simp] theorem record_nil (tape : Tape) : tape.record [] = tape := by
  simp [record]

@[simp] theorem record_append (tape : Tape) (first second : List Step) :
    tape.record (first ++ second) = (tape.record first).record second := by
  simp [record]

def last? (tape : Tape) : Option Step := tape.steps.getLast?

def length (tape : Tape) : Nat := tape.steps.length

def line (places : Nat) (step : Step) : Except Fault Text := do
  return step.expression ++ " = ".toList ++ (← Display.format places step.result)

def lines (places : Nat) (tape : Tape) : Except Fault (List Text) :=
  tape.steps.mapM (line places)

end Tape

end FieldCalc
