import FieldCalc.Proofs.Binary64.SignedZero
import FieldCalc.Proofs.Calculator.CurrentValue
import FieldCalc.Proofs.Calculator.Effects

/-!
# The error display

While the display shows an error, two keys take it away, three change the memory, and no other
does anything. What the memory keys read is zero then, and to add it or take it away leaves the
memory as it is, since the memory is never minus zero. So nothing but the memory can change until
the error is taken away, and that only to empty it.
-/

namespace FieldCalc

/-- The keys that take an error off the display. -/
def Action.recovers : Action → Bool
  | backspace | allClear => true
  | _ => false

theorem Action.worksOnError_eq (action : Action) :
    action.worksOnError = (action.recovers || action.changesMemory) := by
  cases action <;> rfl

namespace Calculator

variable {c c' : Calculator} {action : Action} {steps : List Step} {fault : Option Fault}

/-! ## The memory is never minus zero -/

theorem Stroke.memory_keeps_sign (h : Stroke c action c' steps fault)
    (hmemory : c.memory.value.isMinusZero = false) : c'.memory.value.isMinusZero = false := by
  cases hkey : action.changesMemory with
  | false =>
      rw [h.eq_edit hkey]
      exact hmemory
  | true =>
      cases h with
      | added => exact Binary64.isMinusZero_add _ hmemory
      | subtracted => exact Binary64.isMinusZero_sub _ hmemory
      | forgotten => rfl
      | ignored | recovered | edited | noNumber | notNumeral | outOfRange | percent
        | percentUnshown | noCalculation | failed | evaluated | resultUnshown | notRecalled
        | recalled | recallUnshown => exact hmemory

end Calculator

theorem Reached.memory_ne_minusZero {c : Calculator} {tape : Tape} (h : Reached c tape) :
    c.memory.value.isMinusZero = false := by
  induction h with
  | opened start =>
      rcases Session.opened_cases start with hfresh | ⟨text, -, -, hseeded⟩
      · rw [hfresh]
        rfl
      · rw [hseeded]
        rfl
  | pressed _ _ ih => exact (Calculator.stroke_press _ _).memory_keeps_sign ih

namespace Calculator

variable {c : Calculator} {action : Action}

/-! ## One key -/

/-- What a key that takes no error away does to a calculator that shows one. -/
def heldBy (c : Calculator) (action : Action) : Calculator :=
  if action = .memoryClear then c.memoryClear else c

theorem press_held (herror : c.buffer.error = true) (hmemory : c.memory.value.isMinusZero = false)
    (hkey : action.recovers = false) :
    c.press action = ⟨c.heldBy action, [], [action].filter Action.changesMemory, none⟩ := by
  have hzero := currentValue_of_showsError herror
  cases hchanges : action.changesMemory with
  | false =>
      have hlocked : (c.buffer.error && !action.worksOnError) = true := by
        rw [Action.worksOnError_eq, hkey, hchanges, herror]
        rfl
      have hclear : action ≠ .memoryClear := by
        rintro rfl
        cases hchanges
      rw [press, if_pos hlocked, heldBy, if_neg hclear, List.filter_singleton, hchanges]
      rfl
  | true =>
      rw [press_of_changesMemory hchanges, List.filter_singleton, hchanges]
      cases action with
      | memoryAdd =>
          have hadd : c.memory.add c.currentValue = c.memory := by
            rw [hzero, Memory.add, Binary64.add_zero hmemory]
          simp only [perform, Outcome.quiet, memoryAdd, hadd]
          rfl
      | memorySubtract =>
          have hsubtract : c.memory.subtract c.currentValue = c.memory := by
            rw [hzero, Memory.subtract, Binary64.sub_zero]
          simp only [perform, Outcome.quiet, memorySubtract, hsubtract]
          rfl
      | memoryClear => rfl
      | digit _ | point | operator _ | openParen | closeParen | backspace | allClear | toggleSign
        | percent | equals | memoryRecall => cases hchanges

/-! ## Any number of keys -/

theorem pressAll_held {actions : List Action} (herror : c.buffer.error = true)
    (hmemory : c.memory.value.isMinusZero = false)
    (hkeys : ∀ action ∈ actions, action.recovers = false) : c.pressAll actions =
      ⟨{ c with memory := if .memoryClear ∈ actions then .empty else c.memory }, [],
        actions.filter Action.changesMemory, none⟩ := by
  induction actions generalizing c with
  | nil => rfl
  | cons action rest ih =>
      obtain ⟨hkey, hrest⟩ := List.forall_mem_cons.mp hkeys
      have hfirst := press_held herror hmemory hkey
      have hfilter : (action :: rest).filter Action.changesMemory =
          [action].filter Action.changesMemory ++ rest.filter Action.changesMemory :=
        List.filter_append [action] rest
      rw [pressAll, Outcome.forEach_cons, hfirst, Outcome.andThen, hfilter]
      by_cases hclear : action = .memoryClear
      · subst hclear
        have hheld : c.heldBy .memoryClear = c.memoryClear := if_pos rfl
        have hempty : c.memoryClear.memory = .empty := rfl
        have hnext := ih (c := c.memoryClear) herror rfl hrest
        rw [pressAll, hempty, ite_self] at hnext
        simp only [hheld, hnext, List.mem_cons, true_or, if_true, List.nil_append]
        rfl
      · have hheld : c.heldBy action = c := if_neg hclear
        have hnext := ih herror hmemory hrest
        rw [pressAll] at hnext
        simp only [hheld, hnext, List.mem_cons, Ne.symm hclear, false_or, List.nil_append]

/-- How an error display holds until a key takes it away. -/
structure Sealed (c : Calculator) : Prop where
  /-- Whatever keys come, only the memory can change, and only the memory keys are felt. -/
  held : ∀ actions, (∀ action ∈ actions, action.recovers = false) → c.pressAll actions =
    ⟨{ c with memory := if .memoryClear ∈ actions then .empty else c.memory }, [],
      actions.filter Action.changesMemory, none⟩
  /-- After each of them the error is shown, and the memory keys read zero. -/
  shown : ∀ actions, (∀ action ∈ actions, action.recovers = false) →
    (c.pressAll actions).state.display = Display.errorText ∧
      (c.pressAll actions).state.currentValue = .zero
  cleared : ∀ actions action, (∀ action ∈ actions, action.recovers = false) →
    action.recovers = true → (c.pressAll actions).state.press action =
      .quiet { (c.pressAll actions).state with buffer := .fresh }

theorem press_recovers (herror : c.buffer.error = true) (hkey : action.recovers = true) :
    c.press action = .quiet { c with buffer := .fresh } := by
  cases action with
  | backspace =>
      have hfresh : c.buffer.backspace = Buffer.fresh := if_pos herror
      refine press_quiet (.inr rfl) ?_
      rw [perform, edit, hfresh]
  | allClear => exact press_quiet (.inr rfl) rfl
  | digit _ | point | operator _ | openParen | closeParen | toggleSign | percent | equals
    | memoryAdd | memorySubtract | memoryRecall | memoryClear => cases hkey

end Calculator

open Calculator

/-- An error display that key presses lead to stays until backspace or the clear key is pressed,
and only the memory can be emptied until then. -/
theorem Reached.isSealed {c : Calculator} {tape : Tape} (h : Reached c tape)
    (herror : c.buffer.error = true) : c.Sealed where
  held actions hkeys := pressAll_held herror h.memory_ne_minusZero hkeys
  shown actions hkeys := by
    rw [pressAll_held herror h.memory_ne_minusZero hkeys]
    exact ⟨if_pos herror, currentValue_of_showsError herror⟩
  cleared actions action hkeys hkey := by
    rw [pressAll_held herror h.memory_ne_minusZero hkeys]
    exact press_recovers herror hkey

/-- A division by zero with five in the memory. -/
theorem isSealed_division : ∃ (c : Calculator) (tape : Tape), Reached c tape ∧
    c.buffer.error = true ∧ c.memory.value = Binary64.ofNat 5 ∧
      c.pressAll [.digit 7, .memorySubtract, .equals, .memoryRecall, .memoryAdd] =
        ⟨c, [], [.memorySubtract, .memoryAdd], none⟩ := by
  have failed := (((((Reached.fresh 2).press (.digit 5)).press .memoryAdd).press
    (.operator .divide)).press (.digit 0)).press .equals
  have held : ∀ c : Calculator, c.Sealed →
      c.pressAll [.digit 7, .memorySubtract, .equals, .memoryRecall, .memoryAdd] =
        ⟨c, [], [.memorySubtract, .memoryAdd], none⟩ := by
    intro c hsealed
    rw [hsealed.held _ (by decide), if_neg (by decide)]
    rfl
  exact ⟨_, _, failed, by decide +kernel, by decide +kernel,
    held _ (failed.isSealed (by decide +kernel))⟩

end FieldCalc
