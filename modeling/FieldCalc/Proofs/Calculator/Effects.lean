import FieldCalc.Proofs.Calculator.Showable
import FieldCalc.Proofs.Calculator.Unfailing

/-!
# What a key press may touch

The tape is only ever added to, and only by an expression that has a value. An expression that has
none brings the error display up and changes nothing else. The memory is changed by three keys,
which change nothing but the memory.
-/

namespace FieldCalc

/-- The keys that change the memory. -/
def Action.changesMemory : Action → Bool
  | memoryAdd | memorySubtract | memoryClear => true
  | _ => false

namespace Calculator

variable {c c' : Calculator} {action : Action} {steps : List Step} {fault : Option Fault}

theorem press_of_changesMemory (hkey : action.changesMemory = true) :
    c.press action = ⟨(c.perform action).state, [], [action], none⟩ := by
  cases action with
  | memoryAdd | memorySubtract | memoryClear => exact press_quiet (.inr rfl) rfl
  | digit _ | point | operator _ | openParen | closeParen | backspace | allClear | toggleSign
    | percent | equals | memoryRecall => cases hkey

theorem perform_of_changesMemory (hkey : action.changesMemory = true) :
    (c.perform action).state = { c with memory := (c.perform action).state.memory } := by
  cases action with
  | memoryAdd | memorySubtract | memoryClear => rfl
  | digit _ | point | operator _ | openParen | closeParen | backspace | allClear | toggleSign
    | percent | equals | memoryRecall => cases hkey

theorem press_equals (c : Calculator) : c.press .equals = c.evaluate := by
  have hlocked : (c.buffer.error && !Action.equals.worksOnError) = c.buffer.error :=
    Bool.and_true _
  have hsilent : (c.evaluate.fault.isNone && Action.equals.wantsFeedback) = false :=
    Bool.and_false _
  unfold press
  rw [hlocked]
  split
  · next herror =>
      rw [evaluate, herror]
      rfl
  · simp only [perform, hsilent, Bool.false_eq_true, if_false]

/-- What an expression may come to, and what the key for it does then. -/
theorem evaluate_cases (c : Calculator) :
    (c.evaluation = .noOperation ∧ c.evaluate = .quiet c) ∨
    (c.evaluation = .failed ∧ c.evaluate = .quiet (c.edit Buffer.showError)) ∨
    (c.evaluation = .evaluated ∧ ∃ x, Expression.evaluate c.buffer.tokens = .ok x ∧
      ((∃ t, Display.format c.places x = .ok t ∧
          c.evaluate = ⟨c.edit (shownResult · t), [⟨c.display, x⟩], [], none⟩) ∨
        ∃ fault, Display.format c.places x = .error fault ∧
          c.evaluate = ⟨c, [⟨c.display, x⟩], [], some fault⟩)) := by
  unfold evaluation evaluate
  cases c.buffer.error || !c.buffer.hasOperator with
  | true => exact .inl ⟨rfl, rfl⟩
  | false =>
      simp only [Bool.false_eq_true, if_false]
      cases Expression.evaluate c.buffer.tokens with
      | error e => exact .inr (.inl ⟨rfl, rfl⟩)
      | ok x =>
          refine .inr (.inr ⟨rfl, x, rfl, ?_⟩)
          simp only
          cases Display.format c.places x with
          | error fault => exact .inr ⟨fault, rfl, rfl⟩
          | ok t => exact .inl ⟨t, rfl, rfl⟩

theorem Stroke.steps_eq_nil (h : Stroke c action c' steps fault) (hkey : action ≠ .equals) :
    steps = [] := by
  cases h with
  | evaluated | resultUnshown => exact absurd rfl hkey
  | ignored | recovered | edited | noNumber | notNumeral | outOfRange | percent | percentUnshown
    | noCalculation | failed | added | subtracted | forgotten | notRecalled | recalled
    | recallUnshown => rfl

theorem Stroke.eq_edit (h : Stroke c action c' steps fault)
    (hkey : action.changesMemory = false) : c' = { c with buffer := c'.buffer } := by
  cases h with
  | added | subtracted | forgotten => cases hkey
  | ignored | recovered | edited | noNumber | notNumeral | outOfRange | percent | percentUnshown
    | noCalculation | failed | evaluated | resultUnshown | notRecalled | recalled
    | recallUnshown => rfl

/-- What key presses leave alone, and what they do where they may. -/
structure TouchesOnly (c : Calculator) (tape : Tape) : Prop where
  extends_tape : ∀ action, tape.steps <+: (tape.record (c.press action).steps).steps
  grows_iff : ∀ action, (tape.record (c.press action).steps).length = tape.length + 1 ↔
    action = .equals ∧ c.evaluation = .evaluated
  otherwise : ∀ action, ¬(action = .equals ∧ c.evaluation = .evaluated) →
    tape.record (c.press action).steps = tape
  evaluated_iff : c.evaluation = .evaluated ↔ c.buffer.error = false ∧
    c.buffer.hasOperator = true ∧ ∃ x, Expression.evaluate c.buffer.tokens = .ok x
  finite : ∀ x, Expression.evaluate c.buffer.tokens = .ok x → x.isFinite = true
  /-- What has no value is malformed or has no finite one. -/
  shownError : ∀ e, Expression.evaluate c.buffer.tokens = .error e → e.IsShown
  shown : c.evaluation = .evaluated → c.places ≤ Display.maxShownPlaces →
    ∀ x, Expression.evaluate c.buffer.tokens = .ok x → ∃ t, Display.format c.places x = .ok t ∧
      c.press .equals =
        ⟨{ c with buffer := ⟨[], .number t, true, none, false⟩ }, [⟨c.display, x⟩], [], none⟩
  /-- A result that cannot be shown is recorded all the same. -/
  unshown : c.evaluation = .evaluated → Display.maxShownPlaces < c.places →
    ∀ x, Expression.evaluate c.buffer.tokens = .ok x → ∃ fault,
      c.press .equals = ⟨c, [⟨c.display, x⟩], [], some fault⟩
  failed : c.evaluation = .failed → c.press .equals =
    .quiet { c with buffer := { c.buffer with error := true, pending := none, waiting := true } }
  noOperation : c.evaluation = .noOperation → c.press .equals = .quiet c
  edits : ∀ action, action.changesMemory = false →
    (c.press action).state = { c with buffer := (c.press action).state.buffer }
  remembers : ∀ action, action.changesMemory = true → c.press action =
    ⟨{ c with memory := (c.press action).state.memory }, [], [action], none⟩

/-- The tape gains a step from a press, or is left as it is. -/
theorem steps_press (c : Calculator) (action : Action) :
    (action = .equals ∧ c.evaluation = .evaluated) ∧ (c.press action).steps.length = 1 ∨
      ¬(action = .equals ∧ c.evaluation = .evaluated) ∧ (c.press action).steps = [] := by
  by_cases hkey : action = .equals
  · subst hkey
    rw [press_equals]
    rcases c.evaluate_cases with ⟨hvalue, h⟩ | ⟨hvalue, h⟩ | ⟨hvalue, x, -, ⟨t, -, h⟩ | ⟨f, -, h⟩⟩
    all_goals rw [hvalue, h]
    · exact .inr ⟨fun hboth => (nomatch hboth.2), rfl⟩
    · exact .inr ⟨fun hboth => (nomatch hboth.2), rfl⟩
    · exact .inl ⟨⟨rfl, rfl⟩, rfl⟩
    · exact .inl ⟨⟨rfl, rfl⟩, rfl⟩
  · exact .inr ⟨fun hboth => hkey hboth.1, (c.stroke_press action).steps_eq_nil hkey⟩

theorem evaluation_eq_evaluated : c.evaluation = .evaluated ↔ c.buffer.error = false ∧
    c.buffer.hasOperator = true ∧ ∃ x, Expression.evaluate c.buffer.tokens = .ok x := by
  unfold evaluation
  cases c.buffer.error <;> cases c.buffer.hasOperator <;>
    cases Expression.evaluate c.buffer.tokens <;> simp

theorem evaluate_of_ok {x : Binary64} (hevaluated : c.evaluation = .evaluated)
    (hx : Expression.evaluate c.buffer.tokens = .ok x) :
    (∃ t, Display.format c.places x = .ok t ∧
        c.evaluate = ⟨c.edit (shownResult · t), [⟨c.display, x⟩], [], none⟩) ∨
      ∃ fault, Display.format c.places x = .error fault ∧
        c.evaluate = ⟨c, [⟨c.display, x⟩], [], some fault⟩ := by
  rcases c.evaluate_cases with ⟨hvalue, -⟩ | ⟨hvalue, -⟩ | ⟨-, y, hy, h⟩
  · rw [hevaluated] at hvalue
    cases hvalue
  · rw [hevaluated] at hvalue
    cases hvalue
  · rw [hx] at hy
    cases hy
    exact h

theorem press_equals_unshown (hevaluated : c.evaluation = .evaluated)
    (hmany : Display.maxShownPlaces < c.places) {x : Binary64}
    (hx : Expression.evaluate c.buffer.tokens = .ok x) :
    ∃ fault, c.press .equals = ⟨c, [⟨c.display, x⟩], [], some fault⟩ := by
  obtain ⟨f, hf⟩ := Display.exists_format_error hmany (Expression.evaluate_eq_ok hx).1
  rcases evaluate_of_ok hevaluated hx with ⟨t, ht, -⟩ | ⟨fault, -, h⟩
  · rw [hf] at ht
    cases ht
  · exact ⟨fault, (press_equals c).trans h⟩

end Calculator

open Calculator

/-- In every state that is reached, a key press adds to the tape and changes the calculator where
it may, and nowhere else. -/
theorem Reached.touchesOnly {c : Calculator} {tape : Tape} (h : Reached c tape) :
    c.TouchesOnly tape where
  extends_tape action := List.prefix_append _ _
  grows_iff action := by
    rw [Tape.length, Tape.record, List.length_append, Tape.length, Nat.add_left_cancel_iff]
    rcases c.steps_press action with ⟨hgrows, hone⟩ | ⟨hsame, hnone⟩
    · exact iff_of_true hone hgrows
    · rw [hnone]
      exact iff_of_false Nat.zero_ne_one hsame
  otherwise action hother := by
    rcases c.steps_press action with ⟨hgrows, -⟩ | ⟨-, hnone⟩
    · exact absurd hgrows hother
    · rw [hnone, Tape.record_nil]
  evaluated_iff := evaluation_eq_evaluated
  finite x hx := (Expression.evaluate_eq_ok hx).1
  shownError _ := h.isShown_of_evaluate
  shown hevaluated hfew x hx := by
    obtain ⟨t, ht⟩ := Display.format_of_showable hfew x
    rcases evaluate_of_ok hevaluated hx with ⟨u, hu, h⟩ | ⟨fault, hfault, -⟩
    · exact ⟨u, hu, (press_equals c).trans h⟩
    · rw [ht] at hfault
      cases hfault
  unshown hevaluated hmany _ hx := press_equals_unshown hevaluated hmany hx
  failed hfailed := by
    rw [press_equals]
    rcases c.evaluate_cases with ⟨hvalue, -⟩ | ⟨-, h⟩ | ⟨hvalue, -⟩
    · rw [hfailed] at hvalue
      cases hvalue
    · exact h
    · rw [hfailed] at hvalue
      cases hvalue
  noOperation hnone := by
    rw [press_equals]
    rcases c.evaluate_cases with ⟨-, h⟩ | ⟨hvalue, -⟩ | ⟨hvalue, -⟩
    · exact h
    · rw [hnone] at hvalue
      cases hvalue
    · rw [hnone] at hvalue
      cases hvalue
  edits action hkey := (c.stroke_press action).eq_edit hkey
  remembers action hkey := by
    rw [press_of_changesMemory hkey, ← perform_of_changesMemory hkey]

/-- A sum that no text has the places for: the step is recorded, and the display stays. -/
theorem touchesOnly_unshownSum : ∃ (c : Calculator) (tape : Tape), Reached c tape ∧
    c.display = "1+2".toList ∧ ∃ x fault, Expression.evaluate c.buffer.tokens = .ok x ∧
      c.press .equals = ⟨c, [⟨c.display, x⟩], [], some fault⟩ := by
  have sum := (((Reached.fresh 2147483648).press (.digit 1)).press (.operator .plus)).press
    (.digit 2)
  have touches := sum.touchesOnly
  obtain ⟨-, -, x, hx⟩ := touches.evaluated_iff.mp (by decide +kernel)
  obtain ⟨fault, hpress⟩ := touches.unshown (by decide +kernel) (by decide +kernel) x hx
  exact ⟨_, _, sum, by decide +kernel, x, fault, hx, hpress⟩

end FieldCalc
