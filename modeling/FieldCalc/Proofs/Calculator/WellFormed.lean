import FieldCalc.Proofs.Calculator.Reached
import FieldCalc.Proofs.Decimal.Readable
import FieldCalc.Proofs.Expression.Defect
import FieldCalc.Proofs.Expression.Nesting

/-!
# What the evaluator refuses

The editing keys let through only lists that start rightly and never close what is not open. What
can still be wrong with one is a defect that shows in a few neighbouring tokens or in a count.
The evaluator finds a list malformed exactly if it has one, as long as it does not nest too
deeply. What is left to fail is the arithmetic.
-/

namespace FieldCalc

open Expression (Phrase nesting nestingBudget)

/-! ## Error displays -/

theorem Typable.textOf_ne_errorText {tokens : List Token} (h : Typable tokens) :
    Token.textOf tokens ≠ Display.errorText := by
  obtain ⟨first, rest, rfl⟩ := List.exists_cons_of_ne_nil h.nonempty
  have hstart := h.starts first rfl
  have hspelled := h.spelled first List.mem_cons_self
  -- An error text starts with a letter, and no token that a list may start with does.
  have hhead : ∃ c tail, first.text = c :: tail ∧ c ≠ 'E' := by
    cases first with
    | operator | closeParen => cases hstart
    | openParen text =>
        cases hspelled
        exact ⟨'(', [], rfl, by decide⟩
    | number text =>
        cases hspelled with
        | negative _ => exact ⟨'-', _, rfl, by decide⟩
        | plain unsigned =>
            obtain ⟨c, tail, rfl, hc⟩ := unsigned.head_digit
            refine ⟨c, tail, rfl, ?_⟩
            rintro rfl
            cases hc
  obtain ⟨c, tail, htext, hc⟩ := hhead
  intro heq
  rw [Token.textOf_cons, htext] at heq
  exact hc (List.cons.inj heq).1

theorem Buffer.text_eq_errorText_iff {b : Buffer} (h : Typable b.tokens) :
    b.text = Display.errorText ↔ b.error = true := by
  unfold Buffer.text
  split
  · next herror => exact iff_of_true rfl herror
  · next hready => exact iff_of_false h.textOf_ne_errorText hready

theorem Reached.display_eq_errorText_iff {c : Calculator} {tape : Tape} (h : Reached c tape) :
    c.display = Display.errorText ↔ c.buffer.error = true :=
  Buffer.text_eq_errorText_iff h.typable

theorem Typable.readable {tokens : List Token} (h : Typable tokens) :
    Expression.Readable tokens :=
  fun text htext => Numeral.read?_of_isNumberText (h.spelled (.number text) htext)

/-! ## Results -/

namespace Expression

variable {tokens : List Token}

/-- The arithmetic of a list of tokens has no finite result: a divisor is zero, or the value is
too large or no number. -/
def OutOfRange (tokens : List Token) : Prop :=
  ∃ e : Phrase Text (.chain .sum), e.tokens = tokens ∧
    (e.value = .error .divisionByZero ∨ ∃ x, e.value = .ok x ∧ x.isFinite = false)

theorem not_evaluate_of_defective (h : Defective tokens) (x : Binary64) :
    evaluate tokens ≠ .ok x := by
  intro hvalue
  obtain ⟨-, e, rfl, -⟩ := evaluate_eq_ok hvalue
  exact e.not_defective h

theorem evaluate_of_outOfRange (hnesting : nesting tokens ≤ nestingBudget)
    (h : OutOfRange tokens) : evaluate tokens = .error .divisionByZero ∨
      ∃ x, evaluate tokens = .error (.notFinite x) ∧ x.isFinite = false := by
  obtain ⟨e, rfl, hvalue⟩ := h
  rw [nesting_tokens] at hnesting
  rw [evaluate_tokens e hnesting]
  rcases hvalue with hzero | ⟨x, hx, hrange⟩
  · exact .inl (by rw [hzero]; rfl)
  · refine .inr ⟨x, ?_, hrange⟩
    simp only [hx, Except.bind, finiteResult, hrange, Bool.false_eq_true, if_false]

theorem evaluate_of_not_defective (htyped : Typable tokens)
    (hnesting : nesting tokens ≤ nestingBudget) (h : ¬Defective tokens) :
    (∃ x, evaluate tokens = .ok x ∧ x.isFinite = true) ∨ OutOfRange tokens := by
  obtain ⟨e, rfl⟩ := (exists_phrase_iff htyped).mpr h
  rw [nesting_tokens] at hnesting
  rcases e.value_of_readable htyped.readable with ⟨x, hx⟩ | hzero
  · cases hfinite : x.isFinite with
    | true =>
        refine .inl ⟨x, ?_, hfinite⟩
        rw [evaluate_tokens e hnesting]
        simp only [hx, Except.bind, finiteResult, hfinite, if_true]
    | false => exact .inr ⟨e, rfl, .inr ⟨x, hx, hfinite⟩⟩
  · exact .inr ⟨e, rfl, .inl hzero⟩

end Expression

theorem Calculator.error_press_equals {c : Calculator} (ready : c.buffer.error = false)
    (calculation : c.buffer.hasOperator = true) :
    (c.press .equals).state.buffer.error = true ↔
      ∀ x, Expression.evaluate c.buffer.tokens ≠ .ok x := by
  have stroke := c.stroke_press .equals
  generalize (c.press .equals).state = next at *
  generalize (c.press .equals).steps = steps at *
  generalize (c.press .equals).fault = fault at *
  cases stroke with
  | ignored error => rw [error] at ready; cases ready
  | recovered error => rw [error] at ready; cases ready
  | edited _ edits => cases edits
  | noCalculation _ plain => rw [plain] at calculation; cases calculation
  | failed _ _ value => exact iff_of_true rfl fun x => by rw [value]; exact nofun
  | evaluated _ _ value => exact iff_of_false Bool.false_ne_true fun h => h _ value
  | resultUnshown _ _ value =>
      rw [ready]
      exact iff_of_false Bool.false_ne_true fun h => h _ value

/-- On a display without an error, and as long as the expression does not nest too deeply, the
evaluator finds fault with it exactly if it has a defect or its arithmetic has no finite result,
and then an error is shown. -/
theorem Reached.evaluates_iff {c : Calculator} {tape : Tape} (h : Reached c tape)
    (ready : c.buffer.error = false) (hnesting : nesting c.buffer.tokens ≤ nestingBudget) :
    (¬Defective c.buffer.tokens →
      (∃ x, Expression.evaluate c.buffer.tokens = .ok x ∧ x.isFinite = true) ∨
        Expression.evaluate c.buffer.tokens = .error .divisionByZero ∨
        ∃ x, Expression.evaluate c.buffer.tokens = .error (.notFinite x) ∧
          x.isFinite = false) ∧
    (Defective c.buffer.tokens → ∀ x, Expression.evaluate c.buffer.tokens ≠ .ok x) ∧
    (c.buffer.hasOperator = true →
      ((c.press .equals).state.display = Display.errorText ↔
        Defective c.buffer.tokens ∨ Expression.OutOfRange c.buffer.tokens)) := by
  have hvalue := Expression.evaluate_of_not_defective h.typable hnesting
  have hrange := Expression.evaluate_of_outOfRange hnesting
  refine ⟨?_, Expression.not_evaluate_of_defective, ?_⟩
  · intro hclean
    exact (hvalue hclean).imp_right hrange
  · intro calculation
    rw [(h.press .equals).display_eq_errorText_iff,
      Calculator.error_press_equals ready calculation]
    constructor
    · intro hnone
      by_cases hdefect : Defective c.buffer.tokens
      · exact .inl hdefect
      · rcases hvalue hdefect with ⟨x, hx, -⟩ | hout
        · exact absurd hx (hnone x)
        · exact .inr hout
    · rintro (hdefect | hout) x hx
      · exact Expression.not_evaluate_of_defective hdefect x hx
      · rcases hrange hout with hzero | ⟨y, hy, -⟩
        · rw [hx] at hzero
          cases hzero
        · rw [hx] at hy
          cases hy

/-- A number typed after a closed parenthesis. -/
theorem evaluates_iff_number_after_close :
    ∃ (c : Calculator) (tape : Tape), Reached c tape ∧
      Token.textOf c.buffer.tokens = "(2)3+1".toList ∧
      (c.press .equals).state.display = Display.errorText := by
  have start := Reached.fresh 2
  have typed := (((((start.press .openParen).press (.digit 2)).press .closeParen).press
    (.digit 3)).press (.operator .plus)).press (.digit 1)
  refine ⟨_, _, typed, ?_, ?_⟩
  · decide +kernel
  · refine ((typed.evaluates_iff ?_ ?_).2.2 ?_).mpr (.inl ?_)
    · decide +kernel
    · decide +kernel
    · decide +kernel
    · exact @Defective.clash _ [Token.opening, .number ['2']]
        [Token.ofOperator .plus, .number ['1']] Token.closing (.number ['3'])
        (by decide +kernel) rfl

end FieldCalc
