import FieldCalc.Proofs.Calculator.Showable
import FieldCalc.Proofs.Calculator.WellFormed
import FieldCalc.Proofs.Display.Plain
import FieldCalc.Proofs.Expression.Failure

/-!
# No key ever fails

Where numbers can be shown at all, a key press ends in a display whatever state it meets: every
text that is read as a number spells one, every error of an evaluation is one that is shown as an
error, and a number that cannot be used is not passed on.
-/

namespace FieldCalc

/-! ## Precisions that are accepted -/

/-- Every number can be shown with the precision. -/
def Display.Accepts (places : Nat) : Prop := ∀ x, ∃ t, format places x = .ok t

theorem Display.accepts_iff {places : Nat} : Accepts places ↔ places ≤ maxShownPlaces := by
  constructor
  · intro h
    obtain ⟨t, ht⟩ := h .zero
    exact (format_finite_eq_ok_iff.mp ht).1
  · exact format_of_showable

/-! ## Errors that are shown -/

section

variable {τ : Type}

/-- An error that tells of a malformed expression or of one without a finite result. Only an
operator that has no meaning makes another. -/
def ExpressionError.IsShown (e : ExpressionError τ) : Prop :=
  e.isMalformed = true ∨ e = .divisionByZero ∨ ∃ x, x.isFinite = false ∧ e = .notFinite x

variable [Wording τ] {tokens : List (Token τ)} {budget : Nat} {e : ExpressionError τ}

theorem Expression.isShown_or_unknown (h : evaluate tokens budget = .error e) :
    e.IsShown ∨ ∃ text, e = .unknownOperator text ∧ .operator text ∈ tokens ∧
      operator? text = none := by
  rcases evaluate_eq_error h with ⟨-, rfl⟩ | hblamed | ⟨x, hfinite, rfl⟩
  · exact .inl (.inl rfl)
  · cases e with
    | unknownOperator text => exact .inr ⟨text, rfl, hblamed⟩
    | divisionByZero => exact .inl (.inr (.inl rfl))
    | badNumber | unexpected | unclosed | missingOperand | tooDeep => exact .inl (.inl rfl)
    | empty | invalidCharacter | notFinite => exact hblamed.elim
  · exact .inl (.inr (.inr ⟨x, hfinite, rfl⟩))

/-- Where every operator has a meaning, every error is shown. -/
theorem Expression.isShown_of_evaluate
    (hnamed : ∀ text, .operator text ∈ tokens → ∃ op : Operator, text = Wording.ofText op.text)
    (h : evaluate tokens budget = .error e) : e.IsShown := by
  rcases isShown_or_unknown h with hshown | ⟨text, rfl, hmem, hunknown⟩
  · exact hshown
  · obtain ⟨op, hop⟩ := hnamed text hmem
    rw [operator?_eq_some.mpr hop] at hunknown
    cases hunknown

end

/-- No number text of tokens that can be typed is refused, and no operator is unknown. -/
theorem Typable.evaluate_eq_error {tokens : List Token} (h : Typable tokens) {budget : Nat}
    {e : ExpressionError} (hvalue : Expression.evaluate tokens budget = .error e) :
    e.IsShown ∧ ∀ text, e ≠ .badNumber text := by
  refine ⟨Expression.isShown_of_evaluate (fun _ htext => h.spelled _ htext) hvalue, ?_⟩
  rintro text rfl
  rcases Expression.evaluate_eq_error hvalue with ⟨-, herror⟩ | hblamed | ⟨x, -, herror⟩
  · cases herror
  · obtain ⟨x, hx⟩ := h.readable text hblamed.1
    rw [hblamed.2] at hx
    cases hx
  · cases herror

theorem Reached.isShown_of_evaluate {c : Calculator} {tape : Tape} (h : Reached c tape)
    {e : ExpressionError} (hvalue : Expression.evaluate c.buffer.tokens = .error e) : e.IsShown :=
  (h.typable.evaluate_eq_error hvalue).1

/-! ## Keys -/

namespace Calculator

variable {c : Calculator}

/-- What makes every key press on a calculator end in a display. -/
structure Unfailing (c : Calculator) : Prop where
  fault : ∀ action, (c.press action).fault = none
  readable : Expression.Readable c.buffer.tokens
  plain : Display.isPlain c.display.trim = true → ∃ x, Display.plainNumber? c.display = some x
  error : ∀ e, Expression.evaluate c.buffer.tokens = .error e →
    e.IsShown ∧ ∀ text, e ≠ .badNumber text
  equals : c.buffer.error = false → c.buffer.hasOperator = true →
    (∀ x, Expression.evaluate c.buffer.tokens ≠ .ok x) →
      (c.press .equals).state.display = Display.errorText
  percent : ∀ text x, c.buffer.error = false → c.buffer.last = .number text →
    Numeral.read? text = some x → (x.div (Binary64.ofNat 100)).isFinite = false →
      (c.press .percent).state.display = Display.errorText
  memoryRecall : c.memory.value.isFinite = false → (c.press .memoryRecall).state = c

theorem display_press_percent {text : Text} {x : Binary64} (ready : c.buffer.error = false)
    (last : c.buffer.last = .number text) (read : Numeral.read? text = some x)
    (range : (x.div (Binary64.ofNat 100)).isFinite = false) :
    (c.press .percent).state.display = Display.errorText := by
  have hpercent : c.percent = .quiet (c.edit Buffer.showError) := by
    simp [Calculator.percent, last, read, range]
  simp only [press, ready, perform, hpercent]
  rfl

theorem press_memoryRecall (range : c.memory.value.isFinite = false) :
    (c.press .memoryRecall).state = c := by
  have hrecall : c.memoryRecall = .quiet c := by
    simp [Calculator.memoryRecall, range]
  unfold press
  split
  · rfl
  · simp only [perform, hrecall]
    rfl

theorem unfailing (htyped : Typable c.buffer.tokens) (accepted : Display.Accepts c.places) :
    c.Unfailing where
  fault action := (c.stroke_press action).fault_eq_none htyped (Display.accepts_iff.mp accepted)
  readable := htyped.readable
  plain hplain := by
    rw [Display.plainNumber?, if_pos hplain]
    exact Display.read?_of_isPlain hplain
  error _ hvalue := htyped.evaluate_eq_error hvalue
  equals ready calculation hnone := by
    rw [display, Buffer.text, (error_press_equals ready calculation).mpr hnone]
    rfl
  percent _ _ := display_press_percent
  memoryRecall := press_memoryRecall

end Calculator

theorem Session.Steady.unfailing {places : Nat} {s : Session} (h : s.Steady places)
    (accepted : Display.Accepts places) : s.calculator.Unfailing :=
  Calculator.unfailing h.typable (h.places_eq.symm ▸ accepted)

/-- Nothing escapes a key press. With a precision that numbers can be shown with, a session can be
opened on any number; keys that are all known are carried out to the last; and whatever state they
lead to, the next key press ends in a display too. -/
theorem Session.keys_unfailing {places : Nat} (accepted : Display.Accepts places)
    (initial : Binary64) : ∃ s, opened initial places = .ok s ∧
      ∀ keys actions, Action.ofKeys keys = .ok actions →
        (s.pressAll keys).fault = none ∧ (s.pressAll keys).state.calculator.Unfailing ∧
          ∀ action, ((s.pressAll keys).state.perform action).fault = none := by
  have hshown := Display.accepts_iff.mp accepted
  obtain ⟨s, hs⟩ := exists_opened hshown initial
  have hsteady := steady_opened hs
  refine ⟨s, hs, fun keys actions hknown => ?_⟩
  have hpressed := hsteady.pressAll keys
  refine ⟨?_, hpressed.unfailing accepted, hpressed.fault_perform hshown⟩
  rw [pressAll_eq hknown]
  exact hsteady.fault_performAll hshown actions

/-- The display after a division by zero. -/
theorem Session.keys_unfailing_division :
    ∃ s, opened .zero 2 = .ok s ∧
      (∀ action, ((s.pressAll (["5", "/", "0", "="].map LooseText.ofString)).state.perform
        action).fault = none) ∧
      (s.pressAll (["5", "/", "0", "="].map LooseText.ofString)).state.display =
        Display.errorText := by
  have hshown : 2 ≤ Display.maxShownPlaces := by decide
  obtain ⟨s, hs, hkeys⟩ := keys_unfailing (Display.accepts_iff.mpr hshown) .zero
  have hknown : Action.ofKeys (["5", "/", "0", "="].map LooseText.ofString) =
      .ok [.digit 5, .operator .divide, .digit 0, .equals] := by rfl
  obtain ⟨-, -, hnext⟩ := hkeys _ _ hknown
  refine ⟨s, hs, hnext, ?_⟩
  cases hs
  decide +kernel

end FieldCalc
