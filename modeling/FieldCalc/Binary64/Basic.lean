/-!
Binary64 numbers, exactly. Every finite binary64 number is a whole number of units of `2^-1074`,
the least positive one, so a finite number is a sign and a count of units. A count is
representable if 53 binary digits suffice for it after trailing zeros, and it is below the
overflow limit. Zero has both signs, and there is one NaN.

Every operation gives the exact result rounded to the nearest representable number, of two
equally near ones the one with the even last digit. The rounding is done here once, for a ratio
of two natural numbers.
-/

namespace FieldCalc

/-! ## The nearest natural number -/

/-- The natural number nearest to `num / den`; of two equally near ones, the even one. -/
def roundDiv (num den : Nat) : Nat :=
  let quotient := num / den
  let rest := num % den
  if 2 * rest < den then quotient
  else if den < 2 * rest then quotient + 1
  else if quotient % 2 = 0 then quotient else quotient + 1

theorem roundDiv_le (num den : Nat) : roundDiv num den ≤ num / den + 1 := by
  simp only [roundDiv]
  split
  · omega
  · split
    · omega
    · split <;> omega

theorem le_roundDiv (num den : Nat) : num / den ≤ roundDiv num den := by
  simp only [roundDiv]
  split
  · omega
  · split
    · omega
    · split <;> omega

@[simp] theorem roundDiv_mul_self (n : Nat) {den : Nat} (h : 0 < den) :
    roundDiv (n * den) den = n := by
  simp [roundDiv, Nat.mul_div_cancel _ h, h]

/-! ## Counts of units -/

def unitsPerOne : Nat := 1 <<< 1074

def unitLimit : Nat := 1 <<< 2098

def significandLimit : Nat := 1 <<< 53

def Representable (units : Nat) : Prop :=
  units < unitLimit ∧ ∃ m e, m < significandLimit ∧ units = m <<< e

theorem one_shiftLeft_pos (n : Nat) : 0 < 1 <<< n := by
  rw [Nat.shiftLeft_eq, Nat.one_mul]
  exact Nat.two_pow_pos n

theorem unitLimit_pos : 0 < unitLimit := one_shiftLeft_pos 2098

theorem representable_zero : Representable 0 :=
  ⟨unitLimit_pos, 0, 0, by decide, rfl⟩

def spareBits (units : Nat) : Nat := units.log2 - 52

theorem shiftRight_spareBits_lt (units : Nat) : units >>> spareBits units < significandLimit := by
  rw [Nat.shiftRight_eq_div_pow, significandLimit, Nat.shiftLeft_eq, Nat.one_mul,
    Nat.div_lt_iff_lt_mul (Nat.two_pow_pos _), ← Nat.pow_add]
  refine Nat.lt_of_lt_of_le Nat.lt_log2_self (Nat.pow_le_pow_right (by decide) ?_)
  simp only [spareBits]
  omega

/-- The count nearest to `num / den` among those with at most 53 binary digits before
trailing zeros. -/
def nearestUnits (num den : Nat) : Nat :=
  let spare := spareBits (num / den)
  roundDiv num (den <<< spare) <<< spare

theorem nearestUnits_eq (num den : Nat) :
    ∃ m e, m < significandLimit ∧ nearestUnits num den = m <<< e := by
  have hlt := shiftRight_spareBits_lt (num / den)
  have hle := roundDiv_le num (den <<< spareBits (num / den))
  rw [Nat.shiftLeft_eq, ← Nat.div_div_eq_div_mul, ← Nat.shiftRight_eq_div_pow,
    ← Nat.shiftLeft_eq] at hle
  by_cases h : roundDiv num (den <<< spareBits (num / den)) = significandLimit
  · refine ⟨1 <<< 52, spareBits (num / den) + 1, by decide, ?_⟩
    simp only [nearestUnits, h, significandLimit, ← Nat.shiftLeft_add]
    congr 1
    omega
  · exact ⟨_, spareBits (num / den), by omega, rfl⟩

/-! ## Numbers -/

inductive Binary64 where
  | nan
  | infinite (negative : Bool)
  | finite (negative : Bool) (units : Nat) (representable : Representable units)
  deriving DecidableEq

namespace Binary64

def zero : Binary64 := .finite false 0 representable_zero

instance : Inhabited Binary64 := ⟨zero⟩

/-- The number nearest to plus or minus `num / den` units; infinite where that overflows. -/
def ofRatio (negative : Bool) (num den : Nat) : Binary64 :=
  if h : nearestUnits num den < unitLimit then
    .finite negative (nearestUnits num den) ⟨h, nearestUnits_eq num den⟩
  else .infinite negative

def ofNat (n : Nat) : Binary64 := ofRatio false (n * unitsPerOne) 1

def ofInt (n : Int) : Binary64 := ofRatio (n < 0) (n.natAbs * unitsPerOne) 1

def isFinite : Binary64 → Bool
  | finite _ _ _ => true
  | _ => false

/-- Whether the number is zero, of either sign. -/
def isZero : Binary64 → Bool
  | finite _ units _ => units == 0
  | _ => false

def isPositive : Binary64 → Bool
  | nan => false
  | infinite negative => !negative
  | finite negative units _ => !negative && units != 0

/-- Whether the number is at least zero; zero of either sign is. -/
def isNonneg : Binary64 → Bool
  | nan => false
  | infinite negative => !negative
  | finite negative units _ => !negative || units == 0

def units? : Binary64 → Option Int
  | finite negative units _ => some (if negative then -(units : Int) else units)
  | _ => none

theorem isFinite_iff {x : Binary64} : x.isFinite = true ↔ ∃ n, x.units? = some n := by
  cases x <;> simp [isFinite, units?]

theorem exists_eq_finite {x : Binary64} (h : x.isFinite = true) :
    ∃ negative units, ∃ hunits : Representable units, x = .finite negative units hunits := by
  cases x with
  | nan => cases h
  | infinite => cases h
  | finite negative units hunits => exact ⟨negative, units, hunits, rfl⟩

theorem isPositive_of_units? {x : Binary64} {n : Int} (h : x.units? = some n) :
    x.isPositive = true ↔ 0 < n := by
  cases x with
  | nan => simp [units?] at h
  | infinite => simp [units?] at h
  | finite negative units =>
    simp only [units?, Option.some.injEq] at h
    subst h
    cases negative with
    | false => simp [isPositive, Nat.pos_iff_ne_zero]
    | true => simp [isPositive]

end Binary64

end FieldCalc
