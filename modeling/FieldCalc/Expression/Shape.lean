import FieldCalc.Expression.Lexer

/-!
Cheap tests on typed text. One tells whether it looks like an expression rather than a plain
number, the other whether such an expression can be well formed: its ends are not operators that
need an operand there, and its parentheses balance.
-/

namespace FieldCalc.Expression

def mathChars : Text := "+-*/()=×÷−".toList

/-- A text of at least two characters with an operator, a parenthesis or an equals sign. -/
def looksLikeMath (t : Text) : Bool := 1 < t.length && t.any mathChars.contains

/-- Whether every closing parenthesis has an opening one before it, with `depth` of them open at
the start and none at the end. -/
def balanced : Nat → Text → Bool
  | depth, [] => depth == 0
  | depth, c :: rest =>
      if c = '(' then balanced (depth + 1) rest
      else if c = ')' then
        match depth with
        | 0 => false
        | depth + 1 => balanced depth rest
      else balanced depth rest

/-- An operator that must not stand at an end; a minus sign may. -/
def needsOperands (c : Char) : Bool := c == '+' || c == '*' || c == '/'

def wellShaped (t : Text) : Bool :=
  looksLikeMath t &&
    match tidy t with
    | [] => false
    | c :: rest =>
        !needsOperands c && !needsOperands ((c :: rest).getLast (List.cons_ne_nil c rest))
          && balanced 0 (c :: rest)

end FieldCalc.Expression
