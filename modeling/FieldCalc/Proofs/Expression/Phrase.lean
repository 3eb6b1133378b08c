import FieldCalc.Expression.Evaluate
import FieldCalc.Proofs.Except

/-!
# Phrases of the grammar

    sum     : product (('+' | '-') product)*
    product : factor (('*' | '/') factor)*
    factor  : '-' factor | NUMBER | '(' sum ')'

A phrase is a derivation of this grammar, without any mention of how it is read. Sums and products
are chains of operands. A chain is built up from its left end, one operator with its right side at
a time, so that folding it from left to right is working it out from the inside.
-/

namespace FieldCalc.Expression

inductive Chain where
  | product
  | sum
  deriving DecidableEq

inductive Rank where
  | factor
  | chain (kind : Chain)
  deriving DecidableEq

/-- What stands between the operators of a chain. -/
def Chain.operand : Chain → Rank
  | product => .factor
  | sum => .chain product

def chainOf : Operator → Chain
  | .plus | .minus => .sum
  | .times | .divide => .product

inductive Phrase (τ : Type) : Rank → Type where
  | number (text : τ) : Phrase τ .factor
  | negation (operand : Phrase τ .factor) : Phrase τ .factor
  | group (opening closing : τ) (body : Phrase τ (.chain .sum)) : Phrase τ .factor
  | single {kind : Chain} (first : Phrase τ kind.operand) : Phrase τ (.chain kind)
  | step {kind : Chain} (left : Phrase τ (.chain kind)) (op : Operator)
      (fits : chainOf op = kind) (right : Phrase τ kind.operand) : Phrase τ (.chain kind)

variable {τ : Type} [Wording τ]

/-- One step of a chain: the operator on the value so far and the value to its right. -/
def stepValue (op : Operator) (x y : Binary64) : Except (ExpressionError τ) Binary64 :=
  if op = .divide ∧ y.isZero then .error .divisionByZero else .ok (op.apply x y)

namespace Phrase

def tokens : {rank : Rank} → Phrase τ rank → List (Token τ)
  | _, number text => [.number text]
  | _, negation operand => .ofOperator .minus :: operand.tokens
  | _, group opening closing body => .openParen opening :: (body.tokens ++ [.closeParen closing])
  | _, single first => first.tokens
  | _, step left op _ right => left.tokens ++ .ofOperator op :: right.tokens

/-- The value of a phrase, a chain being folded from left to right. There is none if a text is no
numeral or a divisor is zero. -/
def value : {rank : Rank} → Phrase τ rank → Except (ExpressionError τ) Binary64
  | _, number text =>
      match numeral? text with
      | some x => .ok x
      | none => .error (.badNumber text)
  | _, negation operand => operand.value.map Binary64.neg
  | _, group _ _ body => body.value
  | _, single first => first.value
  | _, step left op _ right => left.value.bind fun x => right.value.bind (stepValue op x)

/-- What a phrase takes of the budget for nesting. -/
def depth : {rank : Rank} → Phrase τ rank → Nat
  | _, number _ => 1
  | _, negation operand => operand.depth + 1
  | _, group _ _ body => body.depth + 3
  | _, single first => first.depth
  | _, step left _ _ right => max left.depth right.depth

theorem tokens_ne_nil {rank : Rank} (e : Phrase τ rank) : e.tokens ≠ [] := by
  induction e with
  | number | negation | group => exact List.cons_ne_nil _ _
  | single _ ih => exact ih
  | step => exact List.append_ne_nil_of_right_ne_nil _ (List.cons_ne_nil _ _)

end Phrase

/-! ## Values that are there -/

def Readable (tokens : List (Token τ)) : Prop :=
  ∀ text, Token.number text ∈ tokens → ∃ x, numeral? text = some x

theorem readable_append {front back : List (Token τ)} :
    Readable (front ++ back) ↔ Readable front ∧ Readable back := by
  constructor
  · intro h
    exact ⟨fun text ht => h text (List.mem_append_left _ ht),
      fun text ht => h text (List.mem_append_right _ ht)⟩
  · rintro ⟨hfront, hback⟩ text ht
    rcases List.mem_append.mp ht with ht | ht
    · exact hfront text ht
    · exact hback text ht

theorem readable_cons {token : Token τ} {rest : List (Token τ)} (hrest : Readable rest)
    (htoken : ∀ text, token ≠ .number text) : Readable (token :: rest) := by
  intro text ht
  rcases List.mem_cons.mp ht with rfl | ht
  · exact absurd rfl (htoken text)
  · exact hrest text ht

theorem Readable.tail {token : Token τ} {rest : List (Token τ)} (h : Readable (token :: rest)) :
    Readable rest :=
  fun text ht => h text (List.mem_cons_of_mem _ ht)

namespace Phrase

theorem value_number {text : τ} {x : Binary64} :
    (number text).value = .ok x ↔ numeral? text = some x := by
  rw [value]
  cases numeral? text <;> simp

theorem readable_of_value {rank : Rank} {e : Phrase τ rank} {x : Binary64}
    (h : e.value = .ok x) : Readable e.tokens := by
  induction e generalizing x with
  | number text =>
      intro other hother
      cases List.mem_singleton.mp hother
      exact ⟨x, value_number.mp h⟩
  | negation operand ih =>
      obtain ⟨y, hy, -⟩ := map_eq_ok.mp h
      exact readable_cons (ih hy) nofun
  | group opening closing body ih =>
      refine readable_cons (readable_append.mpr ⟨ih h, ?_⟩) nofun
      exact readable_cons nofun nofun
  | single _ ih => exact ih h
  | step left op fits right ihLeft ihRight =>
      obtain ⟨y, hy, hstep⟩ := bind_eq_ok.mp h
      obtain ⟨z, hz, -⟩ := bind_eq_ok.mp hstep
      exact readable_append.mpr ⟨ihLeft hy, readable_cons (ihRight hz) nofun⟩

/-- With numerals only, a zero divisor is all that can leave a phrase without a value. -/
theorem value_of_readable {rank : Rank} (e : Phrase τ rank) (h : Readable e.tokens) :
    (∃ x, e.value = .ok x) ∨ e.value = .error .divisionByZero := by
  induction e with
  | number text =>
      obtain ⟨x, hx⟩ := h text (List.mem_singleton_self _)
      exact .inl ⟨x, value_number.mpr hx⟩
  | negation operand ih =>
      rcases ih h.tail with ⟨x, hx⟩ | herror
      · exact .inl ⟨x.neg, map_eq_ok.mpr ⟨x, hx, rfl⟩⟩
      · exact .inr (by simp only [value, herror, Except.map])
  | group opening closing body ih => exact ih (readable_append.mp h.tail).1
  | single _ ih => exact ih h
  | step left op fits right ihLeft ihRight =>
      obtain ⟨hleft, hright⟩ := readable_append.mp h
      rcases ihLeft hleft with ⟨x, hx⟩ | herror
      · rcases ihRight hright.tail with ⟨y, hy⟩ | herror
        · by_cases hzero : op = .divide ∧ y.isZero
          · exact .inr (by simp only [value, hx, hy, Except.bind, stepValue, if_pos hzero])
          · exact .inl ⟨op.apply x y,
              by simp only [value, hx, hy, Except.bind, stepValue, if_neg hzero]⟩
        · exact .inr (by simp only [value, hx, herror, Except.bind])
      · exact .inr (by simp only [value, herror, Except.bind])

end Phrase

end FieldCalc.Expression
