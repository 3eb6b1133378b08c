import FieldCalc.Decimal.Numeral
import FieldCalc.Expression.Lexer

/-!
The value of a list of tokens, after the grammar

    sum     : product (('+' | '-') product)*
    product : factor (('*' | '/') factor)*
    factor  : '-' factor | NUMBER | '(' sum ')'

Sums and products are taken from left to right, each step rounded. A division by zero is refused
where it is met, an overflow only if the final value is not finite. Nesting is bounded: of a
budget a number and a minus sign take one each and a parenthesis takes three.
-/

namespace FieldCalc.Expression

structure Cursor (τ : Type := Text) where
  position : Nat
  rest : List (Token τ)
  deriving DecidableEq

abbrev Reading (τ : Type := Text) := Except (ExpressionError τ) (Binary64 × Cursor τ)

variable {τ : Type} [Wording τ]

def numeral? (text : τ) : Option Binary64 := (Wording.text? text).bind Numeral.read?

def operator? (text : τ) : Option Operator := (Wording.text? text).bind Operator.ofText?

@[simp] theorem numeral?_text (t : Text) : numeral? t = Numeral.read? t := rfl

@[simp] theorem operator?_text (t : Text) : operator? t = Operator.ofText? t := rfl

/-! ## Chains of operators -/

def inChain (symbols : Text) : Token τ → Bool
  | .operator text => (Wording.text? text).any (Text.hasPart · symbols)
  | _ => false

/-- Adds and subtracts products to the right of `value`, at most `count` of them. -/
def sumFrom (product : Cursor τ → Reading τ) : Nat → Binary64 → Cursor τ → Reading τ
  | 0, value, cursor => .ok (value, cursor)
  | count + 1, value, ⟨position, token :: rest⟩ =>
      if inChain ['+', '-'] token then
        match operator? token.text with
        | none => .error (.unknownOperator token.text)
        | some op =>
            match product ⟨position + 1, rest⟩ with
            | .error e => .error e
            | .ok (right, cursor) => sumFrom product count (op.apply value right) cursor
      else .ok (value, ⟨position, token :: rest⟩)
  | _ + 1, value, ⟨position, []⟩ => .ok (value, ⟨position, []⟩)

/-- Multiplies and divides by the factors to the right of `value`, at most `count` of them. -/
def productFrom (factor : Cursor τ → Reading τ) : Nat → Binary64 → Cursor τ → Reading τ
  | 0, value, cursor => .ok (value, cursor)
  | count + 1, value, ⟨position, token :: rest⟩ =>
      if inChain ['*', '/'] token then
        match factor ⟨position + 1, rest⟩ with
        | .error e => .error e
        | .ok (right, cursor) =>
            if Wording.text? token.text = some ['/'] ∧ right.isZero then .error .divisionByZero
            else match operator? token.text with
              | none => .error (.unknownOperator token.text)
              | some op => productFrom factor count (op.apply value right) cursor
      else .ok (value, ⟨position, token :: rest⟩)
  | _ + 1, value, ⟨position, []⟩ => .ok (value, ⟨position, []⟩)

/-- A product of factors. Every further factor takes a token, so their number is bounded by
that of the tokens. -/
def product (factor : Cursor τ → Reading τ) (cursor : Cursor τ) : Reading τ :=
  match factor cursor with
  | .error e => .error e
  | .ok (value, next) => productFrom factor next.rest.length value next

def sum (factor : Cursor τ → Reading τ) (cursor : Cursor τ) : Reading τ :=
  match product factor cursor with
  | .error e => .error e
  | .ok (value, next) => sumFrom (product factor) next.rest.length value next

/-! ## Factors -/

def closed : Reading τ → Reading τ
  | .error e => .error e
  | .ok (value, ⟨position, .closeParen _ :: rest⟩) => .ok (value, ⟨position + 1, rest⟩)
  | .ok (_, ⟨position, rest⟩) => .error (.unclosed rest.head? position)

def negated : Reading τ → Reading τ
  | .error e => .error e
  | .ok (value, cursor) => .ok (value.neg, cursor)

def factor : Nat → Cursor τ → Reading τ
  | 0, _ => .error .tooDeep
  | _ + 1, ⟨_, []⟩ => .error .missingOperand
  | _ + 1, ⟨position, .number text :: rest⟩ =>
      match numeral? text with
      | some value => .ok (value, ⟨position + 1, rest⟩)
      | none => .error (.badNumber text)
  | budget + 1, ⟨position, .operator text :: rest⟩ =>
      if Wording.text? text = some ['-'] then negated (factor budget ⟨position + 1, rest⟩)
      else .error (.unexpected (.operator text) position)
  | budget + 1, ⟨position, .openParen _ :: rest⟩ =>
      match budget with
      | inner + 2 => closed (sum (factor inner) ⟨position + 1, rest⟩)
      | _ => .error .tooDeep
  | _ + 1, ⟨position, .closeParen text :: _⟩ => .error (.unexpected (.closeParen text) position)

/-! ## Whole expressions -/

/-- What a limit of a thousand nested calls, the usual one, leaves to an evaluation when no other
call is under way. It is enough for 330 parentheses or 992 signs. -/
def nestingBudget : Nat := 993

def finiteResult (value : Binary64) : Except (ExpressionError τ) Binary64 :=
  if value.isFinite then .ok value else .error (.notFinite value)

def evaluate (tokens : List (Token τ)) (budget : Nat := nestingBudget) :
    Except (ExpressionError τ) Binary64 :=
  if tokens.isEmpty then .error .empty
  else match sum (factor budget) ⟨0, tokens⟩ with
    | .error e => .error e
    | .ok (value, ⟨_, []⟩) => finiteResult value
    | .ok (_, ⟨position, token :: _⟩) => .error (.unexpected token position)

def evaluateText (t : Text) : Except ExpressionError Binary64 := do evaluate (← tokenize t)

def textValue? (t : Text) : Option Binary64 := (evaluateText t).toOption

end FieldCalc.Expression
