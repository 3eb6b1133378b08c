import FieldCalc.Binary64.Basic
import FieldCalc.Decimal.Power
import FieldCalc.Text.Digit

/-!
Reading numerals. A numeral is an optional sign and then either decimal digits with an optional
point and an optional exponent, or one of the words `inf`, `infinity` and `nan` in any case. The
digits may be those of any script, one underscore may stand between two digits, and blanks may
surround the whole. It denotes the binary64 number nearest to its exact decimal value.
-/

namespace FieldCalc

namespace Binary64

/-- The number nearest to `mantissa * 10^exponent`. Where the exponent alone decides that the
value is above every number or below half the least positive one, no power is taken. -/
def ofDecimal (negative : Bool) (mantissa : Nat) : Int → Binary64
  | .ofNat exponent =>
      if mantissa = 0 then .finite negative 0 representable_zero
      else if 310 ≤ exponent then .infinite negative
      else ofRatio negative (mantissa * tenTo exponent * unitsPerOne) 1
  | .negSucc exponent =>
      if mantissa = 0 ∨ mantissa.log2 + 1081 ≤ 3 * (exponent + 1) then
        .finite negative 0 representable_zero
      else ofRatio negative (mantissa * unitsPerOne) (tenTo (exponent + 1))

end Binary64

namespace Numeral

/-! ## Normal form of the characters -/

/-- A decimal digit becomes the ASCII digit of its value, another blank a space, and a character
that no numeral holds a question mark. -/
def plainChar (c : Char) : Char :=
  if c.toNat < 127 then c
  else if isBlank c then ' '
  else match decimalValue? c with
    | some d => digitChar d
    | none => '?'

/-- The text without the underscores between digits; `none` where an underscore stands
elsewhere. -/
def dropUnderscores : Text → Option Text
  | [] => some []
  | '_' :: _ => none
  | c :: '_' :: d :: rest =>
      if isAsciiDigit c && isAsciiDigit d then (dropUnderscores (d :: rest)).map (c :: ·) else none
  | c :: rest => (dropUnderscores rest).map (c :: ·)

/-! ## Parts -/

def splitSign : Text → Bool × Text
  | '-' :: rest => (true, rest)
  | '+' :: rest => (false, rest)
  | t => (false, t)

def digitsValue (digits : Text) : Nat := Nat.ofDigitChars 10 digits 0

def exponent? : Text → Option Int
  | [] => some 0
  | c :: rest =>
      if c = 'e' ∨ c = 'E' then
        let (negative, digits) := splitSign rest
        if digits ≠ [] ∧ digits.all isAsciiDigit then
          some (if negative then -(digitsValue digits : Int) else digitsValue digits)
        else none
      else none

def splitFraction : Text → Text × Text
  | '.' :: rest => (rest.takeWhile isAsciiDigit, rest.dropWhile isAsciiDigit)
  | t => ([], t)

def decimal? (t : Text) : Option (Nat × Int) :=
  let whole := t.takeWhile isAsciiDigit
  let (fraction, rest) := splitFraction (t.dropWhile isAsciiDigit)
  if whole = [] ∧ fraction = [] then none
  else (exponent? rest).map fun e => (digitsValue (whole ++ fraction), e - fraction.length)

def unsigned? (negative : Bool) (t : Text) : Option Binary64 :=
  let word := t.map Char.toLower
  if word = "inf".toList ∨ word = "infinity".toList then some (.infinite negative)
  else if word = "nan".toList then some .nan
  else (decimal? t).map fun (mantissa, e) => Binary64.ofDecimal negative mantissa e

def read? (t : Text) : Option Binary64 := do
  let plain ← dropUnderscores (Text.trimBy isAsciiBlank (t.map plainChar))
  let (negative, rest) := splitSign plain
  unsigned? negative rest

/-! ## Integers -/

inductive IntegerError where
  | malformed
  | tooLong (digits : Nat)
  deriving DecidableEq, Repr

def maxIntegerDigits : Nat := 4300

def tooLongMessage (digits : Nat) : String :=
  s!"Exceeds the limit ({maxIntegerDigits} digits) for integer string conversion: "
    ++ s!"value has {digits} digits; use sys.set_int_max_str_digits() to increase the limit"

def isRunChar (c : Char) : Bool := isAsciiDigit c || c == '_'

/-- The integer that a text spells: an optional sign and decimal digits, with the same freedom in
digits, underscores and blanks as a numeral has. A run of too many digits is noticed before
anything that should not follow it. -/
def readInteger (t : Text) : Except IntegerError Int :=
  let (negative, rest) := splitSign (Text.trimBy isAsciiBlank (t.map plainChar))
  match dropUnderscores (rest.takeWhile isRunChar) with
  | none => .error .malformed
  | some digits =>
      if maxIntegerDigits < digits.length then .error (.tooLong digits.length)
      else if digits ≠ [] ∧ rest.all isRunChar then
        .ok (if negative then -(digitsValue digits : Int) else digitsValue digits)
      else .error .malformed

end Numeral

end FieldCalc
