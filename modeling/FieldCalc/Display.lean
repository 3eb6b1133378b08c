import FieldCalc.Binary64.Arithmetic
import FieldCalc.Decimal.Fixed
import FieldCalc.Fault

/-!
Numbers on the display and in a field. A display shows at least six places, without trailing
zeros, exponents or group separators; a committed value is rounded to the precision of its field
and never negative; and a display text is read back as a plain number.
-/

namespace FieldCalc.Display

/-! ## Precision -/

def minPlaces : Nat := 6

def shownPlaces (places : Nat) : Nat := max places minPlaces

def checkPlaces (places : Int) : Except Fault Nat :=
  if places < 0 then .error (.negativePlaces places) else .ok places.toNat

/-- No binary64 number has more places than this, so that more of them add only zeros. -/
def exactPlaces : Nat := 1074

/-! ## Showing -/

def errorText : Text := "Error".toList

/-- The text of a finite number with the given places. Zero has no sign. -/
def finiteText (places : Nat) (negative : Bool) (units : Nat) : Text :=
  let n := scaledUnits places units
  if n = 0 then ['0']
  else if negative then '-' :: trimmedText places n
  else trimmedText places n

def maxShownPlaces : Nat := 0x7fffffff

def maxAskedPlaces : Nat := 0x7fffffffffffffff

def format (places : Nat) : Binary64 → Except Fault Text
  | .finite negative units _ =>
      if maxAskedPlaces < shownPlaces places then .error .tooManyDigits
      else if maxShownPlaces < shownPlaces places then .error .precisionTooBig
      else .ok (finiteText (min (shownPlaces places) exactPlaces) negative units)
  | _ => .ok errorText

/-! ## Committing -/

def maxRoundedPlaces : Nat := 323

/-- The number nearest to the multiple of `10^-places` nearest to a finite number. -/
def roundTo (places : Nat) : Binary64 → Binary64
  | .finite negative units h =>
      if maxRoundedPlaces < places then .finite negative units h
      else Binary64.ofRatio negative (scaledUnits places units * unitsPerOne) (tenTo places)
  | x => x

/-- The value that a field takes: rounded, and zero where that is not above zero or where the
number is not finite. -/
def commit (places : Nat) (x : Binary64) : Binary64 :=
  if x.isFinite && (roundTo places x).isPositive then roundTo places x else .zero

/-! ## Reading back -/

/-- An unsigned plain number: decimal digits with at most one point among them or at an end. -/
def isPlainUnsigned (t : Text) : Bool :=
  let whole := t.takeWhile isDecimalDigit
  match t.dropWhile isDecimalDigit with
  | [] => !whole.isEmpty
  | c :: places => c == '.' && places.all isDecimalDigit && !(whole.isEmpty && places.isEmpty)

def isPlain : Text → Bool
  | '-' :: rest => isPlainUnsigned rest
  | t => isPlainUnsigned t

def plainNumber? (t : Text) : Option Binary64 :=
  if isPlain t.trim then Numeral.read? t.trim else none

end FieldCalc.Display
