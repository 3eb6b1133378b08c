import FieldCalc.Text.CodePoint
import FieldCalc.Text.Printable

/-!
Quoted texts, as messages show them. A text stands between single quotes, or between double
quotes when it holds a single quote and no double quote. A backslash and the quote in use are
escaped, tab, line feed and carriage return have short escapes, and any other character that is
not printable is written as its code point in two, four or eight hexadecimal digits. So is a
surrogate of a loose text, so that every quoted text is a text.
-/

namespace FieldCalc

def singleQuote : Char := '\x27'

def doubleQuote : Char := '\x22'

def backslash : Char := '\x5c'

def hexDigit (d : Nat) : Char := if d < 10 then Char.ofNat (48 + d) else Char.ofNat (87 + d)

def hexDigits : Nat → Nat → Text
  | 0, _ => []
  | count + 1, n => hexDigits count (n / 16) ++ [hexDigit (n % 16)]

@[simp] theorem length_hexDigits (count n : Nat) : (hexDigits count n).length = count := by
  induction count generalizing n with
  | zero => rfl
  | succ count ih => simp [hexDigits, ih]

def hexValue? (c : Char) : Option Nat :=
  let n := c.toNat
  if 48 ≤ n ∧ n ≤ 57 then some (n - 48)
  else if 97 ≤ n ∧ n ≤ 102 then some (n - 87)
  else if 65 ≤ n ∧ n ≤ 70 then some (n - 55)
  else none

namespace Text

def codeEscape (n : Nat) : Text :=
  if n < 0x100 then backslash :: 'x' :: hexDigits 2 n
  else if n < 0x10000 then backslash :: 'u' :: hexDigits 4 n
  else backslash :: 'U' :: hexDigits 8 n

def quoteChar (quote : Char) (c : Char) : Text :=
  if c = quote ∨ c = backslash then [backslash, c]
  else if c = '\n' then [backslash, 'n']
  else if c = '\r' then [backslash, 'r']
  else if c = '\t' then [backslash, 't']
  else if isPrintable c then [c]
  else codeEscape c.toNat

/-- The quote that needs no escape in the text, the single one if both do or neither does. -/
def quoteFor (t : Text) : Char :=
  if t.contains singleQuote && !t.contains doubleQuote then doubleQuote else singleQuote

def quoted (t : Text) : Text :=
  let quote := t.quoteFor
  quote :: t.flatMap (quoteChar quote) ++ [quote]

end Text

namespace LooseText

def quotePoint (quote : Char) : CodePoint → Text
  | .char c => Text.quoteChar quote c
  | .surrogate offset => Text.codeEscape (0xd800 + offset)

def quoted (t : LooseText) : Text :=
  let quote := t.toText.quoteFor
  quote :: t.points.flatMap (quotePoint quote) ++ [quote]

@[simp] theorem quoted_ofText (t : Text) : (ofText t).quoted = t.quoted := by
  simp [quoted, ofText, Text.quoted, quotePoint, toText, CodePoint.toChar, List.flatMap_map,
    Function.comp_def]

end LooseText

def quotedString (s : String) : String := String.ofList (Text.quoted s.toList)

end FieldCalc
