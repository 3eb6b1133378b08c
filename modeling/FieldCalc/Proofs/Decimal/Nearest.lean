import FieldCalc.Proofs.Decimal.Canonical
import Mathlib.Algebra.Order.Field.Basic
import Mathlib.Tactic.Linarith

/-!
# Nearest integers and nearest numbers

Rounding is the same in both directions. The integer that a count is rounded to, and the number
that a ratio is rounded to, are each as near as any other, and even where another one is as near.
Here that is said of rational numbers: a number is exactly a count of units over the units of one.
-/

namespace FieldCalc

/-! ## The nearest integer -/

/-- The integer that is nearest to a rational number, and even if another one is as near. -/
structure IsNearest (n : ℤ) (q : ℚ) : Prop where
  nearest : ∀ m : ℤ, |(n : ℚ) - q| ≤ |(m : ℚ) - q|
  even : ∀ m : ℤ, m ≠ n → |(n : ℚ) - q| = |(m : ℚ) - q| → Even n

theorem abs_sub_div {den : Nat} (hden : 0 < den) (m a : ℤ) :
    |(m : ℚ) - a / den| = (|m * den - a| : ℤ) / den := by
  have hpos : (0 : ℚ) < den := Nat.cast_pos.mpr hden
  have hsplit : (m : ℚ) - a / den = (m * den - a) / den := by
    field_simp
  rw [hsplit, abs_div, abs_of_pos hpos]
  push_cast
  rfl

/-- What is within half a step is nearest, and on a tie it is for the caller to show it even. -/
theorem isNearest_of_abs {n a : ℤ} {den : Nat} (hden : 0 < den)
    (hnear : 2 * |n * den - a| ≤ den) (heven : 2 * |n * den - a| = den → Even n) :
    IsNearest n (a / den) := by
  have hpos : (0 : ℚ) < den := Nat.cast_pos.mpr hden
  have hother : ∀ m : ℤ, m ≠ n → (den : ℤ) ≤ |m * den - a| + |n * den - a| := by
    intro m hm
    have hstep : (den : ℤ) ≤ |m * den - n * den| := by
      rw [← sub_mul, abs_mul, Nat.abs_cast]
      have hone : 1 ≤ |m - n| := Int.one_le_abs (sub_ne_zero.mpr hm)
      nlinarith
    have htriangle := abs_sub_le (m * den) a (n * den)
    rw [abs_sub_comm a] at htriangle
    omega
  constructor
  · intro m
    rw [abs_sub_div hden, abs_sub_div hden]
    rcases eq_or_ne m n with rfl | hm
    · exact le_rfl
    · have := hother m hm
      exact div_le_div_of_nonneg_right (Int.cast_le.mpr (by omega)) hpos.le
  · intro m hm heq
    rw [abs_sub_div hden, abs_sub_div hden, div_left_inj' hpos.ne', Int.cast_inj] at heq
    have := hother m hm
    exact heven (by omega)

/-- If two integers were as near, both would be even, and the one in the middle nearer. -/
theorem IsNearest.unique {m n : ℤ} {q : ℚ} (hm : IsNearest m q) (hn : IsNearest n q) : m = n := by
  by_contra hne
  have htie : |(m : ℚ) - q| = |(n : ℚ) - q| := le_antisymm (hm.nearest n) (hn.nearest m)
  obtain ⟨k, rfl⟩ := hm.even n (Ne.symm hne) htie
  obtain ⟨l, rfl⟩ := hn.even (k + k) hne htie.symm
  rcases abs_eq_abs.mp htie with hsame | hopposite
  · exact hne (by exact_mod_cast sub_left_injective hsame)
  · have hmiddle : q = (k + l : ℤ) := by
      push_cast at hopposite ⊢
      linarith
    have hnear := hm.nearest (k + l)
    rw [hmiddle, sub_self, abs_zero] at hnear
    have hequal : k + k = k + l := by exact_mod_cast sub_eq_zero.mp (abs_nonpos_iff.mp hnear)
    exact hne (by omega)

theorem natCast_dist (m n : Nat) : (Nat.dist m n : ℤ) = |(m : ℤ) - n| := by
  simp only [Nat.dist, abs_eq_max_neg]
  omega

/-! ## Exact values -/

namespace Binary64

/-- The rational number that a finite number is. -/
def toRat? (x : Binary64) : Option ℚ := x.units?.map fun units => (units : ℚ) / unitsPerOne

theorem toRat?_finite (negative : Bool) {units : Nat} (h : Representable units) :
    (finite negative units h).toRat? =
      some ((signedCount negative units : ℚ) / unitsPerOne) := rfl

theorem exists_of_toRat? {x : Binary64} {q : ℚ} (h : x.toRat? = some q) :
    ∃ negative units, ∃ hunits : Representable units, x = .finite negative units hunits ∧
      (signedCount negative units : ℚ) / unitsPerOne = q := by
  cases x with
  | nan | infinite _ => cases h
  | finite negative units hunits =>
      exact ⟨negative, units, hunits, rfl,
        Option.some.inj ((toRat?_finite negative hunits).symm.trans h)⟩

end Binary64

theorem abs_signedCount_sub (negative : Bool) (m n : Nat) :
    |signedCount negative m - signedCount negative n| = (Nat.dist m n : ℤ) := by
  rw [natCast_dist]
  cases negative with
  | false => rfl
  | true =>
      rw [← abs_sub_comm, signedCount, signedCount, if_pos rfl, if_pos rfl, neg_sub_neg]

theorem isNearest_roundDiv (negative : Bool) (num : Nat) {den : Nat} (hden : 0 < den) :
    IsNearest (signedCount negative (roundDiv num den)) (signedCount negative num / den) := by
  have hdist : |signedCount negative (roundDiv num den) * (den : ℤ) - signedCount negative num| =
      (Nat.dist (roundDiv num den * den) num : ℤ) := by
    rw [← signedCount_mul, abs_signedCount_sub]
  have hnear := two_mul_dist_roundDiv_le num hden
  refine isNearest_of_abs hden ?_ fun hhalf => ?_
  · rw [hdist]
    omega
  · rw [hdist] at hhalf
    have heven : Even (roundDiv num den) := even_roundDiv_of_half hden (by exact_mod_cast hhalf)
    cases negative with
    | false => exact (Int.even_coe_nat _).mpr heven
    | true => exact ((Int.even_coe_nat _).mpr heven).neg

/-! ## The nearest number -/

/-- A count whose significand ends with a zero: it is shifted only if it needs to be. -/
def EvenSignificand (units : Nat) : Prop :=
  ∃ m e, units = m * 2 ^ e ∧ Even m ∧ m ≤ significandLimit ∧ (e = 0 ∨ 2 ^ 52 ≤ m)

/-- Where another precise count is as near to a ratio, the one it is rounded to is even. -/
theorem evenSignificand_of_tie {num den c : Nat} (hden : 0 < den) (hc : Precise c)
    (hne : c ≠ nearestUnits num den)
    (htie : Nat.dist (nearestUnits num den * den) num = Nat.dist (c * den) num) :
    EvenSignificand (nearestUnits num den) := by
  have hreached := @two_pow_le_of_spareBits_pos (num / den)
  have hbelow := shiftRight_spareBits_lt (num / den)
  rw [nearestUnits_eq_mul] at *
  rw [Nat.shiftRight_eq_div_pow, Nat.div_div_eq_div_mul] at hbelow
  generalize spareBits (num / den) = spare at *
  have hstep := Nat.mul_pos hden (Nat.two_pow_pos spare)
  refine ⟨_, spare, rfl, even_roundDiv_of_half hstep ?_, ?_, ?_⟩
  · have hswap : ∀ m, m * 2 ^ spare * den = m * (den * 2 ^ spare) :=
      fun m => by rw [Nat.mul_assoc, Nat.mul_comm den]
    rw [hswap] at htie
    by_cases hgrid : 2 ^ spare ∣ c
    · -- Two steps are as near, so that they are next to each other.
      obtain ⟨n, rfl⟩ := hgrid
      rw [Nat.mul_comm (2 ^ spare)] at htie hne
      rw [hswap] at htie
      have happart : n ≠ roundDiv num (den * 2 ^ spare) := fun heq => hne (by rw [heq])
      have hnear := two_mul_dist_roundDiv_le num hstep
      have hgap := Nat.le_mul_of_pos_left (den * 2 ^ spare) (Nat.dist_pos_of_ne happart)
      have htriangle := Nat.dist.triangle_inequality (n * (den * 2 ^ spare)) num
        (roundDiv num (den * 2 ^ spare) * (den * 2 ^ spare))
      rw [Nat.dist_mul_right, Nat.dist_comm num] at htriangle
      omega
    · -- Between steps there are only smaller counts, and a power of two is nearer than those.
      have hsmall : c < 2 ^ (52 + spare) :=
        Nat.lt_of_not_le fun hlarge => hgrid (hc.two_pow_dvd hlarge)
      have hpos : 0 < spare := Nat.pos_of_ne_zero fun hzero => hgrid (hzero ▸ one_dvd c)
      have hpower := dist_roundDiv_le num hstep (2 ^ 52)
      have hbelow := Nat.mul_lt_mul_of_pos_right hsmall hden
      have habove := Nat.le_trans (Nat.mul_le_mul_right den (hreached hpos))
        (Nat.div_mul_le_self num den)
      rw [← hswap (2 ^ 52), ← Nat.pow_add] at hpower
      simp only [Nat.dist] at htie hpower
      omega
  · exact (roundDiv_le _ _).trans hbelow
  · rcases Nat.eq_zero_or_pos spare with hzero | hpos
    · exact .inl hzero
    · refine .inr (Nat.le_trans ?_ (le_roundDiv _ _))
      rw [← Nat.div_div_eq_div_mul, Nat.le_div_iff_mul_le (Nat.two_pow_pos spare), ← Nat.pow_add]
      exact hreached hpos

theorem dist_le_abs_sub (s t : Bool) (m n : Nat) :
    (Nat.dist m n : ℤ) ≤ |signedCount s m - signedCount t n| := by
  cases s <;> cases t <;> simp only [signedCount, Nat.dist, abs_eq_max_neg, Bool.false_eq_true,
    if_true, if_false] <;> omega

theorem abs_signedCount_of_ne {s t : Bool} (h : s ≠ t) (m n : Nat) :
    |signedCount s m - signedCount t n| = m + n := by
  cases s <;> cases t <;> simp only [signedCount, abs_eq_max_neg, Bool.false_eq_true, if_true,
    if_false] <;> first | exact absurd rfl h | omega

theorem signedCount_zero (negative : Bool) : signedCount negative 0 = 0 := by
  cases negative <;> rfl

section

variable {num den c : Nat}

/-- A count of the other sign is no nearer. -/
theorem abs_nearestUnits_le (hden : 0 < den) (hc : Precise c) (s negative : Bool) :
    |signedCount negative (nearestUnits num den * den) - signedCount negative num| ≤
      |signedCount s (c * den) - signedCount negative num| := by
  have hnear := dist_nearestUnits_le num hden hc
  have hother := dist_le_abs_sub s negative (c * den) num
  rw [abs_signedCount_sub]
  omega

theorem eq_of_abs_eq (hden : 0 < den) (hc : Precise c) {s negative : Bool}
    (htie : |signedCount negative (nearestUnits num den * den) - signedCount negative num| =
      |signedCount s (c * den) - signedCount negative num|) :
    signedCount s c = signedCount negative (nearestUnits num den) ∨
      EvenSignificand (nearestUnits num den) := by
  have hnear := dist_nearestUnits_le num hden hc
  have hother := dist_le_abs_sub s negative (c * den) num
  rw [abs_signedCount_sub] at htie
  by_cases hne : c = nearestUnits num den
  · left
    rw [hne] at htie ⊢
    by_cases hsign : s = negative
    · rw [hsign]
    · -- The opposite number is as near only if both are zero.
      have hzero := dist_nearestUnits_le (c := 0) num hden ⟨0, 0, by decide, rfl⟩
      have hcount : nearestUnits num den * den = 0 := by
        rw [abs_signedCount_of_ne hsign] at htie
        simp only [Nat.dist] at htie hzero
        omega
      rw [(Nat.mul_eq_zero.mp hcount).resolve_right hden.ne', signedCount_zero, signedCount_zero]
  · exact .inr (evenSignificand_of_tie hden hc hne (by omega))

end

namespace Binary64

/-- A finite number that is taken for a rational one: none is nearer, and where another one is as
near the significand is even. -/
structure Rounds (x : Binary64) (v : ℚ) : Prop where
  nearest : ∃ q, x.toRat? = some q ∧ ∀ (y : Binary64) r, y.toRat? = some r → |q - v| ≤ |r - v|
  even : ∀ q (y : Binary64) r, x.toRat? = some q → y.toRat? = some r → r ≠ q →
    |q - v| = |r - v| → ∀ n, x.units? = some n → EvenSignificand n.natAbs

variable {num den : Nat}

theorem abs_toRat_sub (hden : 0 < den) (s t : Bool) (units num : Nat) :
    |(signedCount s units : ℚ) / unitsPerOne - signedCount t num / (unitsPerOne * den : ℕ)| =
      (|signedCount s (units * den) - signedCount t num| : ℤ) / (unitsPerOne * den : ℕ) := by
  have hdenq : (den : ℚ) ≠ 0 := Nat.cast_ne_zero.mpr hden.ne'
  have hsplit : (signedCount s units : ℚ) / unitsPerOne -
      signedCount t num / (unitsPerOne * den : ℕ) =
        (signedCount s (units * den) - signedCount t num : ℤ) / (unitsPerOne * den : ℕ) := by
    rw [signedCount_mul, Nat.cast_mul, Int.cast_sub, Int.cast_mul, Int.cast_natCast, sub_div,
      mul_div_mul_right _ _ hdenq]
  rw [hsplit, abs_div, Int.cast_abs, Nat.abs_cast]

theorem rounds_ofRatio (hden : 0 < den) (h : nearestUnits num den < unitLimit) (negative : Bool) :
    (ofRatio negative num den).Rounds (signedCount negative num / (unitsPerOne * den : ℕ)) := by
  have hpos : (0 : ℚ) < (unitsPerOne * den : ℕ) :=
    Nat.cast_pos.mpr (Nat.mul_pos unitsPerOne_pos hden)
  rw [ofRatio_of_lt negative h]
  constructor
  · refine ⟨_, toRat?_finite negative _, fun y r hr => ?_⟩
    obtain ⟨s, units, hunits, rfl, rfl⟩ := exists_of_toRat? hr
    have hnear := @abs_nearestUnits_le num den units hden hunits.precise s negative
    rw [abs_toRat_sub hden, abs_toRat_sub hden]
    exact div_le_div_of_nonneg_right (Int.cast_le.mpr hnear) hpos.le
  · intro q y r hq hr hne htie n hn
    obtain ⟨s, units, hunits, rfl, rfl⟩ := exists_of_toRat? hr
    obtain rfl := Option.some.inj ((toRat?_finite negative _).symm.trans hq)
    obtain rfl := Option.some.inj hn
    rw [abs_toRat_sub hden, abs_toRat_sub hden, div_left_inj' hpos.ne', Int.cast_inj] at htie
    rcases eq_of_abs_eq hden hunits.precise htie with hsame | heven
    · exact absurd (by rw [hsame]) hne
    · cases negative <;> simpa using heven

/-- The number nearest to a whole number of places. -/
theorem rounds_places {places n : Nat}
    (h : nearestUnits (n * unitsPerOne) (tenTo places) < unitLimit) (negative : Bool) :
    (ofRatio negative (n * unitsPerOne) (tenTo places)).Rounds
      (signedCount negative n / 10 ^ places) := by
  have hone : (unitsPerOne : ℚ) ≠ 0 := Nat.cast_ne_zero.mpr unitsPerOne_pos.ne'
  have hvalue : (signedCount negative n : ℚ) / 10 ^ places =
      signedCount negative (n * unitsPerOne) / (unitsPerOne * tenTo places : ℕ) := by
    rw [signedCount_mul, Int.cast_mul, Nat.cast_mul, natCast_tenTo, Int.cast_natCast,
      mul_comm (unitsPerOne : ℚ), mul_div_mul_right _ _ hone]
  rw [hvalue]
  exact rounds_ofRatio (tenTo_pos places) h negative

end Binary64

/-- Reading rounds as it should. -/
theorem CanonicalDecimal.rounds_read? (d : CanonicalDecimal) {x : Binary64}
    (h : Numeral.read? d.text = some x) (hfinite : x.isFinite = true) : x.Rounds d.value := by
  rw [d.read?_text] at h
  obtain rfl := Option.some.inj h
  refine Binary64.rounds_places ?_ d.negative
  by_contra hover
  rw [Binary64.ofRatio, dif_neg hover] at hfinite
  cases hfinite

end FieldCalc
