import FieldCalc.Decimal.Numeral

/-!
The shortest decimal text that reads back as a given number. Among the numbers with the fewest
digits that read back, the one nearest to the exact value is written.
-/

namespace FieldCalc

namespace Shortest

/-! ## Digits -/

/-- The least number of tenfold steps, up to `fuel` of them, that bring `num / den` to at
least one. -/
def stepsToOne (den : Nat) : Nat → Nat → Nat
  | 0, _ => 0
  | fuel + 1, num => if den ≤ num then 0 else stepsToOne den fuel (num * 10) + 1

/-- The number of digits before the point of a positive count of units; zero or negative for a
value below one tenth. -/
def pointPosition (units : Nat) : Int :=
  if unitsPerOne ≤ units then (Nat.toDigits 10 (units / unitsPerOne)).length
  else 1 - (stepsToOne unitsPerOne 400 units : Int)

/-- A decimal number `mantissa * 10^exponent`. -/
structure Candidate where
  mantissa : Nat
  exponent : Int

def Candidate.readsBack (c : Candidate) (units : Nat) : Bool :=
  match Binary64.ofDecimal false c.mantissa c.exponent with
  | .finite _ n _ => n == units
  | _ => false

def gridRatio (units : Nat) : Int → Nat × Nat
  | .ofNat e => (units, unitsPerOne * tenTo e)
  | .negSucc e => (units * tenTo (e + 1), unitsPerOne)

/-- The neighbour of the units on the grid of `10^exponent` that reads back; of two, the nearer,
and of two equally near ones the one with the even last digit. -/
def onGrid? (units : Nat) (exponent : Int) : Option Candidate :=
  let (num, den) := gridRatio units exponent
  let below : Candidate := ⟨num / den, exponent⟩
  let above : Candidate := ⟨num / den + 1, exponent⟩
  if below.readsBack units then
    if above.readsBack units then some ⟨roundDiv num den, exponent⟩ else some below
  else if above.readsBack units then some above
  else none

def search (units : Nat) (point : Int) (digits : Nat) : Nat → Candidate
  | 0 => ⟨0, 0⟩
  | count + 1 =>
      match onGrid? units (point - digits) with
      | some c => c
      | none => search units point (digits + 1) count

def digits (units : Nat) : Text × Int :=
  let c := search units (pointPosition units) 1 17
  let all := Nat.toDigits 10 c.mantissa
  (Text.trimEndBy (· == '0') all, all.length + c.exponent)

/-! ## Layout -/

def zeros (count : Nat) : Text := List.replicate count '0'

def exponentText (e : Int) : Text :=
  let shown := Nat.toDigits 10 e.natAbs
  'e' :: (if e < 0 then '-' else '+') :: (if shown.length < 2 then '0' :: shown else shown)

/-- Values from `0.0001` up to `10^16` are written out with at least one place, others with an
exponent. -/
def layout (shown : Text) (point : Int) : Text :=
  if point ≤ -4 ∨ 16 < point then
    match shown with
    | [] => []
    | [d] => d :: exponentText (point - 1)
    | d :: rest => d :: '.' :: rest ++ exponentText (point - 1)
  else if point ≤ 0 then "0.".toList ++ zeros point.natAbs ++ shown
  else if shown.length ≤ point.natAbs then
    shown ++ zeros (point.natAbs - shown.length) ++ ".0".toList
  else shown.take point.natAbs ++ '.' :: shown.drop point.natAbs

def magnitude (units : Nat) : Text :=
  if units = 0 then "0.0".toList
  else
    let (shown, point) := digits units
    layout shown point

def text : Binary64 → Text
  | .nan => "nan".toList
  | .infinite negative => if negative then "-inf".toList else "inf".toList
  | .finite negative units _ => if negative then '-' :: magnitude units else magnitude units

end Shortest

end FieldCalc
