import FieldCalc.Binary64.Basic
import FieldCalc.Decimal.Power
import FieldCalc.Text.Digit

/-!
Decimal text with a fixed number of places. A magnitude is first rounded to a whole number of
`10^-places`, then that whole number is written with a point before its last `places` digits.
-/

namespace FieldCalc

def lastDigits : Nat → Nat → Text
  | 0, _ => []
  | count + 1, n => lastDigits count (n / 10) ++ [digitChar (n % 10)]

@[simp] theorem length_lastDigits (count n : Nat) : (lastDigits count n).length = count := by
  induction count generalizing n with
  | zero => rfl
  | succ count ih => simp [lastDigits, ih]

def scaledUnits (places units : Nat) : Nat := roundDiv (units * tenTo places) unitsPerOne

/-- The text of `n / 10^places` with `places` digits after the point, and at least one
before it. -/
def fixedText (places n : Nat) : Text :=
  Nat.toDigits 10 (n / tenTo places) ++ '.' :: lastDigits places (n % tenTo places)

/-- The same without trailing zeros, and without the point if none of the places is left. -/
def trimmedText (places n : Nat) : Text :=
  Text.trimEndBy (· == '.') (Text.trimEndBy (· == '0') (fixedText places n))

end FieldCalc
