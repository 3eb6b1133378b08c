import FieldCalc.Proofs.Binary64.Finite
import FieldCalc.Proofs.Session.LoneNumber

/-!
# What the memory keys take

The memory keys take the value of the expression, or read the display where there is none. An
expression without a finite value shows something else than a plain number, or a number by itself
that overflows when it is read. In this one case the evaluator refuses an infinite value and the
display is read as that same value.
-/

namespace FieldCalc

namespace Calculator

/-- The display is a number by itself that is out of range. -/
def ShowsOverflow (c : Calculator) : Prop :=
  ∃ t negative, c.buffer.IsLone t ∧ Numeral.read? t = some (.infinite negative)

/-- What the memory keys take in each case, and what that makes of an empty memory. -/
structure ReadsValue (c : Calculator) : Prop where
  error : c.buffer.error = true → c.currentValue = .zero
  evaluated : ∀ x, c.buffer.error = false → Expression.evaluate c.buffer.tokens = .ok x →
    c.currentValue = x ∧ x.isFinite = true
  failed : ∀ e, c.buffer.error = false → Expression.evaluate c.buffer.tokens = .error e →
    ¬c.ShowsOverflow → c.currentValue = .zero
  overflow : ∀ t negative, c.buffer.IsLone t → Numeral.read? t = some (.infinite negative) →
    Expression.evaluate c.buffer.tokens = .error (.notFinite (.infinite negative)) ∧
      c.currentValue = .infinite negative
  finite_iff : c.currentValue.isFinite = true ↔ ¬c.ShowsOverflow
  added : c.memory.value.isZero = true →
    ((c.press .memoryAdd).state.memory.value.isFinite = true ↔ ¬c.ShowsOverflow)
  subtracted : c.memory.value.isZero = true →
    ((c.press .memorySubtract).state.memory.value.isFinite = true ↔ ¬c.ShowsOverflow)

variable {c : Calculator}

theorem currentValue_of_ok {x : Binary64} (hready : c.buffer.error = false)
    (h : Expression.evaluate c.buffer.tokens = .ok x) : c.currentValue = x := by
  rw [currentValue, hready, h]
  rfl

theorem currentValue_of_error {e : ExpressionError} (hready : c.buffer.error = false)
    (h : Expression.evaluate c.buffer.tokens = .error e) :
    c.currentValue = (Display.plainNumber? c.buffer.text).getD .zero := by
  rw [currentValue, hready, h]
  rfl

theorem currentValue_of_showsError (h : c.buffer.error = true) : c.currentValue = .zero := by
  rw [currentValue, if_pos h]

/-- A number by itself evaluates as it reads, unless that is out of range. -/
theorem evaluate_lone (htyped : Typable c.buffer.tokens) {t : Text} (hlone : c.buffer.IsLone t) :
    ∃ x, Numeral.read? t = some x ∧ Display.plainNumber? c.buffer.text = some x ∧
      Expression.evaluate c.buffer.tokens = Expression.finiteResult x ∧
      (x.isFinite = true ∨ ∃ negative, x = .infinite negative) := by
  obtain ⟨x, hread, hplain⟩ := hlone.plainNumber? htyped
  obtain ⟨hready, htokens⟩ := hlone
  rw [htokens] at htyped ⊢
  have hspelled : IsNumberText t := htyped.spelled (.number t) (List.mem_singleton_self _)
  refine ⟨x, hread, hplain, Expression.evaluate_number hread, ?_⟩
  cases x with
  | nan => exact absurd hread (Numeral.read?_ne_nan hspelled)
  | infinite negative => exact .inr ⟨negative, rfl⟩
  | finite => exact .inl rfl

theorem currentValue_of_overflow (htyped : Typable c.buffer.tokens) {t : Text} {negative : Bool}
    (hlone : c.buffer.IsLone t) (hread : Numeral.read? t = some (.infinite negative)) :
    Expression.evaluate c.buffer.tokens = .error (.notFinite (.infinite negative)) ∧
      c.currentValue = .infinite negative := by
  obtain ⟨x, hx, hplain, hevaluate, -⟩ := evaluate_lone htyped hlone
  rw [hread] at hx
  cases hx
  have herror : Expression.evaluate c.buffer.tokens = .error (.notFinite (.infinite negative)) :=
    hevaluate
  exact ⟨herror, by rw [currentValue_of_error hlone.1 herror, hplain]; rfl⟩

/-- Where the expression has no value, the display is no number, or it is one out of range. -/
theorem currentValue_of_failed (htyped : Typable c.buffer.tokens) {e : ExpressionError}
    (hready : c.buffer.error = false) (h : Expression.evaluate c.buffer.tokens = .error e)
    (hrange : ¬c.ShowsOverflow) : c.currentValue = .zero := by
  rw [currentValue_of_error hready h]
  cases hplain : Display.plainNumber? c.buffer.text with
  | none => rfl
  | some y =>
      obtain ⟨t, hlone⟩ := Buffer.isLone_of_plainNumber? htyped hplain
      obtain ⟨x, hread, -, hevaluate, hfinite | ⟨negative, rfl⟩⟩ := evaluate_lone htyped hlone
      · rw [hevaluate, Expression.finiteResult, if_pos hfinite] at h
        cases h
      · exact absurd ⟨t, negative, hlone, hread⟩ hrange

theorem isFinite_currentValue_iff (htyped : Typable c.buffer.tokens) :
    c.currentValue.isFinite = true ↔ ¬c.ShowsOverflow := by
  constructor
  · rintro hfinite ⟨t, negative, hlone, hread⟩
    rw [(currentValue_of_overflow htyped hlone hread).2] at hfinite
    cases hfinite
  · intro hrange
    cases herror : c.buffer.error with
    | true =>
        rw [currentValue_of_showsError herror]
        rfl
    | false =>
        cases hevaluate : Expression.evaluate c.buffer.tokens with
        | ok x =>
            rw [currentValue_of_ok herror hevaluate]
            exact (Expression.evaluate_eq_ok hevaluate).1
        | error e =>
            rw [currentValue_of_failed htyped herror hevaluate hrange]
            rfl

/-- A key that works on an error display does the same on every display. -/
theorem state_press_of_worksOnError {action : Action} (h : action.worksOnError = true) :
    (c.press action).state = (c.perform action).state := by
  unfold press
  rw [h, Bool.not_true, Bool.and_false, if_neg Bool.false_ne_true]
  simp only
  split <;> rfl

end Calculator

/-- The value that the memory keys take is that of the expression, or zero, unless the display is
a number by itself that is out of range. That one is taken as an infinity, and the memory holds it
from then on. -/
theorem Reached.readsValue {c : Calculator} {tape : Tape} (h : Reached c tape) : c.ReadsValue where
  error := Calculator.currentValue_of_showsError
  evaluated x hready hevaluate :=
    ⟨Calculator.currentValue_of_ok hready hevaluate, (Expression.evaluate_eq_ok hevaluate).1⟩
  failed _ := Calculator.currentValue_of_failed h.typable
  overflow _ _ := Calculator.currentValue_of_overflow h.typable
  finite_iff := Calculator.isFinite_currentValue_iff h.typable
  added hzero := by
    have hmemory : (c.press .memoryAdd).state.memory.value = c.memory.value.add c.currentValue := by
      rw [Calculator.state_press_of_worksOnError rfl]
      rfl
    rw [hmemory, Binary64.isFinite_add_of_isZero _ hzero]
    exact Calculator.isFinite_currentValue_iff h.typable
  subtracted hzero := by
    have hmemory : (c.press .memorySubtract).state.memory.value =
        c.memory.value.sub c.currentValue := by
      rw [Calculator.state_press_of_worksOnError rfl]
      rfl
    rw [hmemory, Binary64.isFinite_sub_of_isZero _ hzero]
    exact Calculator.isFinite_currentValue_iff h.typable

/-- A seed of three hundred and nine digits that is in range, and one more zero typed on it. -/
theorem readsValue_overflow : ∃ (c : Calculator) (tape : Tape), Reached c tape ∧
    c.memory = .empty ∧ c.ShowsOverflow ∧ c.currentValue.isFinite = false ∧
      (c.press .memoryAdd).state.memory.value.isFinite = false := by
  let seed := Binary64.ofDecimal false 1 308
  let digits := (Display.format 2 seed).toOption.getD [] ++ ['0']
  let typed : Calculator := ⟨2, ⟨[], .number digits, false, none, false⟩, .empty⟩
  have hopened : (Session.opened seed 2).toOption.map
      (fun s => (s.calculator.press (.digit 0)).state) = some typed := by
    decide +kernel
  have hrange : typed.ShowsOverflow := ⟨digits, false, ⟨rfl, rfl⟩, by decide +kernel⟩
  cases start : Session.opened seed 2 with
  | error fault =>
      rw [start] at hopened
      cases hopened
  | ok s =>
      have reached := (Reached.opened start).press (.digit 0)
      have htyped : (s.calculator.press (.digit 0)).state = typed := by
        rw [start] at hopened
        exact Option.some.inj hopened
      rw [htyped] at reached
      have reads := reached.readsValue
      have hcurrent := Bool.eq_false_iff.mpr fun h => reads.finite_iff.mp h hrange
      have hadded := Bool.eq_false_iff.mpr fun h => (reads.added rfl).mp h hrange
      exact ⟨typed, _, reached, rfl, hrange, hcurrent, hadded⟩

end FieldCalc
