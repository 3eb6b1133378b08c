import FieldCalc.Buffer

/-!
The editing keys. Each works on the last token. A digit or point extends a last number or starts
one, a second operator replaces the first, an opening parenthesis after a number multiplies, and
a closing one needs an open one and something to close.
-/

namespace FieldCalc.Buffer

/-- Types digits; a lone zero is replaced by them. -/
def typeDigits (b : Buffer) (digits : Text) : Buffer :=
  let edited :=
    if b.isZero then b.loadNumber digits
    else match b.last with
      | .number text => b.replaceLast (.number (text ++ digits))
      | _ => b.push (.number digits)
  { edited with waiting := false }

/-- Types a point; a number takes only one, and elsewhere a new number starts with `0.`. -/
def typePoint (b : Buffer) : Buffer :=
  let edited :=
    if b.isZero then b.loadNumber "0.".toList
    else match b.last with
      | .number text => if text.contains '.' then b else b.replaceLast (.number (text ++ ['.']))
      | .closeParen _ => b
      | _ => b.push (.number "0.".toList)
  { edited with waiting := false }

/-- Types an operator; a lone zero takes none. -/
def typeOperator (b : Buffer) (op : Operator) : Buffer :=
  let edited :=
    if b.isZero then b
    else
      let next := match b.last with
        | .operator _ => b.replaceLast (Token.ofOperator op)
        | _ => b.push (Token.ofOperator op)
      { next with pending := some op }
  { edited with waiting := false }

/-- Types an opening parenthesis; after a number it multiplies, after a closing one it is
refused. -/
def typeOpen (b : Buffer) : Buffer :=
  if b.isZero then { b with before := [], last := Token.opening, waiting := false }
  else match b.last with
    | .number _ =>
        { b.append [Token.ofOperator .times, Token.opening] with waiting := false }
    | .closeParen _ => b
    | _ => { b.push Token.opening with waiting := false }

/-- Types a closing parenthesis, if one is open and a number or parenthesis is there to close. -/
def typeClose (b : Buffer) : Buffer :=
  if b.closeCount < b.openCount && (b.last.isNumber || b.last.isClose) then
    { b.push Token.closing with waiting := false }
  else b

/-- Removes the last character; a number that would keep only its sign goes whole, and an error
is cleared. -/
def backspace (b : Buffer) : Buffer :=
  if b.error then fresh
  else match b.last with
    | .number text =>
        if text.dropLast = [] ∨ text.dropLast = ['-'] then b.pop
        else b.replaceLast (.number text.dropLast)
    | _ => b.pop

def flipSign : Text → Text
  | '-' :: rest => rest
  | text => '-' :: text

def toggleSign (b : Buffer) : Buffer :=
  match b.last with
  | .number text => b.replaceLast (.number (flipSign text))
  | _ => b

/-- Types the characters of a number text one by one. -/
def typeNumber (b : Buffer) (text : Text) : Buffer :=
  text.foldl (fun b c => if c = '.' then b.typePoint else b.typeDigits [c]) b

/-- Recalls a number text. It replaces a lone zero and follows an operator or opening parenthesis
as one number; elsewhere it is typed, a negative one as a subtraction. -/
def typeRecalled (b : Buffer) (text : Text) : Buffer :=
  let edited :=
    if b.isZero then b.loadNumber text
    else match b.last, text with
      | .operator _, _ => b.push (.number text)
      | .openParen _, _ => b.push (.number text)
      | _, '-' :: rest => b.append [Token.ofOperator .minus, .number rest]
      | _, _ => b.typeNumber text
  { edited with waiting := false }

end FieldCalc.Buffer
