import FieldCalc.Operator
import FieldCalc.Text.Wording

/-!
Tokens: what an expression is made of. A token has a kind and a text. The text of a number token
carries the number's own sign, so that a negative number is one token. Nothing ties the text of a
token to its kind; the evaluator refuses what it cannot use. The texts are of any kind that holds
texts, and texts where no other kind is named.
-/

namespace FieldCalc

inductive Token (τ : Type := Text) where
  | number (text : τ)
  | operator (text : τ)
  | openParen (text : τ)
  | closeParen (text : τ)
  deriving DecidableEq, Repr

namespace Token

variable {τ : Type}

def text : Token τ → τ
  | number text => text
  | operator text => text
  | openParen text => text
  | closeParen text => text

def isNumber : Token τ → Bool
  | number _ => true
  | _ => false

def isOperator : Token τ → Bool
  | operator _ => true
  | _ => false

def isOpen : Token τ → Bool
  | openParen _ => true
  | _ => false

def isClose : Token τ → Bool
  | closeParen _ => true
  | _ => false

/-! ## The usual tokens -/

def opening : Token := openParen ['(']

def closing : Token := closeParen [')']

def ofOperator [Wording τ] (op : Operator) : Token τ := operator (Wording.ofText op.text)

def zero : Token := number ['0']

def textOf (tokens : List Token) : Text := tokens.flatMap text

@[simp] theorem textOf_nil : textOf [] = [] := rfl

@[simp] theorem textOf_cons (token : Token) (tokens : List Token) :
    textOf (token :: tokens) = token.text ++ textOf tokens := rfl

@[simp] theorem textOf_append (left right : List Token) :
    textOf (left ++ right) = textOf left ++ textOf right := by
  simp [textOf]

/-! ## Names -/

def kindName : Token τ → String
  | number _ => "number"
  | operator _ => "operator"
  | openParen _ => "open_paren"
  | closeParen _ => "close_paren"

def ofKindName? (kind : String) (text : τ) : Option (Token τ) :=
  match kind with
  | "number" => some (number text)
  | "operator" => some (operator text)
  | "open_paren" => some (openParen text)
  | "close_paren" => some (closeParen text)
  | _ => none

def described [Wording τ] (token : Token τ) : String :=
  let tag := match token with
    | number _ => "NUMBER: 'number'"
    | operator _ => "OPERATOR: 'operator'"
    | openParen _ => "OPEN_PAREN: 'open_paren'"
    | closeParen _ => "CLOSE_PAREN: 'close_paren'"
  "Token(kind=<TokenKind." ++ tag ++ ">, text=" ++ String.ofList (Wording.quoted token.text) ++
    ")"

end Token

end FieldCalc
