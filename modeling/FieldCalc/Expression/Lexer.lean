import FieldCalc.Expression.Error

/-!
Cutting typed text into tokens. The text is first tidied: blanks at the ends go, keypad glyphs
become ASCII operators, group separators go, and so does one equals sign at the end. Then a
maximal run of digits and points is one number token, an operator or parenthesis is a token of
its own, and blanks between tokens are skipped. A minus sign is always an operator here.
-/

namespace FieldCalc.Expression

def dropEquals (t : Text) : Text := if t.getLast? = some '=' then t.dropLast else t

def tidy (t : Text) : Text :=
  dropEquals ((t.trim.map Operator.plainGlyph).filter (· != ','))

/-! ## Runs of digits and points -/

def isNumberChar (c : Char) : Bool := isDigit c || c == '.'

/-- A run is a number if it holds at most one point and is not a point alone. -/
def isNumberRun (run : Text) : Bool := run.count '.' ≤ 1 && run != ['.']

def symbolToken? (c : Char) : Option Token :=
  if c = '(' then some Token.opening
  else if c = ')' then some Token.closing
  else (Operator.ofChar? c).map Token.ofOperator

def lex : Text → Except ExpressionError (List Token)
  | [] => .ok []
  | c :: rest =>
      if isBlank c then lex rest
      else if isNumberChar c then
        let run := c :: rest.takeWhile isNumberChar
        if isNumberRun run then do
          let tokens ← lex (rest.dropWhile isNumberChar)
          pure (Token.number run :: tokens)
        else .error (.badNumber run)
      else match symbolToken? c with
        | some token => do
            let tokens ← lex rest
            pure (token :: tokens)
        | none => .error (.invalidCharacter c)
  termination_by t => t.length
  decreasing_by
    all_goals simp only [List.length_cons]
    all_goals have := (List.dropWhile_suffix isNumberChar (l := rest)).length_le
    all_goals omega

def tokenize (t : Text) : Except ExpressionError (List Token) := lex (tidy t)

end FieldCalc.Expression
