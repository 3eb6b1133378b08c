import FieldCalc.Proofs.Binary64.Rounding
import Mathlib.Data.Nat.Dist

/-!
# Nearest counts

The count that a ratio is rounded to is as near to it as any count of at most 53 binary digits
before trailing zeros. Most of what is needed of rounding follows from that alone. How near it is
depends on the size of the ratio, and of two such counts above a power of two the distance is a
multiple of the step there.

A ratio is never formed here. That `n` is near to `num / den` is said of `n * den` and `num`.
-/

namespace FieldCalc

/-! ## The nearest natural number -/

theorem two_mul_dist_roundDiv_le (num : Nat) {den : Nat} (h : 0 < den) :
    2 * Nat.dist (roundDiv num den * den) num ≤ den := by
  have hdiv := Nat.div_add_mod' num den
  have hmod := Nat.mod_lt num h
  have hnext : (num / den + 1) * den = num / den * den + den := Nat.succ_mul _ _
  simp only [roundDiv, Nat.dist]
  split
  · omega
  · split
    · omega
    · split <;> omega

theorem even_roundDiv_of_half {num den : Nat} (hden : 0 < den)
    (h : 2 * Nat.dist (roundDiv num den * den) num = den) : Even (roundDiv num den) := by
  have hdiv := Nat.div_add_mod' num den
  have hmod := Nat.mod_lt num hden
  have hnext : (num / den + 1) * den = num / den * den + den := Nat.succ_mul _ _
  unfold roundDiv at h ⊢
  by_cases hbelow : 2 * (num % den) < den
  · simp only [if_pos hbelow, Nat.dist] at h
    omega
  · by_cases habove : den < 2 * (num % den)
    · simp only [if_neg hbelow, if_pos habove, Nat.dist] at h
      omega
    · simp only [if_neg hbelow, if_neg habove]
      split
      · next heven => exact Nat.even_iff.mpr heven
      · next hodd => exact Nat.even_iff.mpr (by omega)

theorem eq_of_dist_mul_lt {a b scale : Nat} (h : Nat.dist a b * scale < scale) : a = b := by
  refine Nat.eq_of_dist_eq_zero (Nat.eq_zero_of_not_pos fun hpos => ?_)
  have := Nat.le_mul_of_pos_left scale hpos
  omega

/-- What is less than half away is the nearest. -/
theorem roundDiv_eq_of_dist {num den n : Nat} (h : 2 * Nat.dist (n * den) num < den) :
    roundDiv num den = n := by
  have hnear := two_mul_dist_roundDiv_le num (Nat.zero_lt_of_lt h)
  have htriangle : Nat.dist (roundDiv num den * den) (n * den) ≤
      Nat.dist (roundDiv num den * den) num + Nat.dist num (n * den) :=
    Nat.dist.triangle_inequality _ _ _
  rw [Nat.dist_mul_right, Nat.dist_comm num] at htriangle
  exact @eq_of_dist_mul_lt _ _ den (by omega)

theorem dist_roundDiv_le (num : Nat) {den : Nat} (hden : 0 < den) (n : Nat) :
    Nat.dist (roundDiv num den * den) num ≤ Nat.dist (n * den) num := by
  by_cases h : 2 * Nat.dist (n * den) num < den
  · rw [roundDiv_eq_of_dist h]
  · have := two_mul_dist_roundDiv_le num hden
    omega

/-- What is nearest to a larger number is no smaller. -/
theorem le_of_dist_le {a b p q : Nat} (h : p ≤ q) (hp : Nat.dist a p ≤ Nat.dist b p)
    (hq : Nat.dist b q ≤ Nat.dist a q) (heq : p = q → a = b) : a ≤ b := by
  by_contra hlt
  have hne : p ≠ q := fun hpq => by
    have := heq hpq
    omega
  simp only [Nat.dist] at hp hq
  omega

theorem roundDiv_mono {num num' den : Nat} (hden : 0 < den) (h : num ≤ num') :
    roundDiv num den ≤ roundDiv num' den := by
  refine Nat.le_of_mul_le_mul_right ?_ hden
  refine le_of_dist_le h (dist_roundDiv_le num hden _) (dist_roundDiv_le num' hden _) ?_
  rintro rfl
  rfl

theorem roundDiv_mul_mul (num den : Nat) {scale : Nat} (h : 0 < scale) :
    roundDiv (num * scale) (den * scale) = roundDiv num den := by
  have hlt : ∀ a b : Nat, a * scale < b * scale ↔ a < b := fun a b => Nat.mul_lt_mul_right h
  simp only [roundDiv, Nat.mul_div_mul_right _ _ h, Nat.mul_mod_mul_right, ← Nat.mul_assoc, hlt]

/-! ## Precise counts -/

/-- A count with at most 53 binary digits before trailing zeros. -/
def Precise (units : Nat) : Prop := ∃ m e, m < significandLimit ∧ units = m <<< e

theorem Representable.precise {units : Nat} (h : Representable units) : Precise units := h.2

theorem precise_nearestUnits (num den : Nat) : Precise (nearestUnits num den) :=
  nearestUnits_eq num den

theorem significandLimit_eq : significandLimit = 2 ^ 53 := Nat.one_shiftLeft 53

theorem precise_two_pow (k : Nat) : Precise (2 ^ k) :=
  ⟨1, k, by decide, (Nat.one_shiftLeft k).symm⟩

/-- The larger a precise count, the more zeros it ends with. -/
theorem Precise.two_pow_dvd {units k : Nat} (h : Precise units) (hlarge : 2 ^ (52 + k) ≤ units) :
    2 ^ k ∣ units := by
  obtain ⟨m, e, hm, rfl⟩ := h
  rw [significandLimit_eq] at hm
  rw [Nat.shiftLeft_eq] at hlarge ⊢
  have he : k ≤ e := by
    by_contra hlt
    have hpow : 2 ^ (53 + e) ≤ 2 ^ (52 + k) := Nat.pow_le_pow_right (by decide) (by omega)
    rw [Nat.pow_add] at hpow
    have hroom := Nat.mul_lt_mul_of_pos_right hm (Nat.two_pow_pos e)
    omega
  exact Nat.dvd_mul_left_of_dvd (Nat.pow_dvd_pow 2 he) m

/-- Beyond a power of two, other precise counts are at least a step away. -/
theorem Precise.two_pow_le_dist {units other k : Nat} (h : Precise units) (hother : Precise other)
    (hlarge : 2 ^ (52 + k) < units) (hne : other ≠ units) : 2 ^ k ≤ Nat.dist other units := by
  have hunits := h.two_pow_dvd (Nat.le_of_lt hlarge)
  have hpower : 2 ^ k ∣ 2 ^ (52 + k) := Nat.pow_dvd_pow 2 (Nat.le_add_left k 52)
  by_cases hsmall : other < 2 ^ (52 + k)
  · -- The power of two stands between the two and is a multiple of the step as well.
    have hstep := Nat.le_of_dvd (Nat.sub_pos_of_lt hlarge) (Nat.dvd_sub hunits hpower)
    simp only [Nat.dist]
    omega
  · have hdvd := hother.two_pow_dvd (Nat.le_of_not_lt hsmall)
    refine Nat.le_of_dvd (Nat.dist_pos_of_ne hne) ?_
    exact Nat.dvd_add (Nat.dvd_sub hdvd hunits) (Nat.dvd_sub hunits hdvd)

/-! ## The unit -/

/-- The binary digits from one down to the unit. -/
def unitBits : Nat := 1074

theorem unitsPerOne_eq : unitsPerOne = 2 ^ unitBits := Nat.one_shiftLeft unitBits

theorem two_pow_mul_unitsPerOne (n : Nat) : 2 ^ n * unitsPerOne = 2 ^ (n + unitBits) := by
  rw [unitsPerOne_eq, ← Nat.pow_add]

/-! ## The nearest precise count -/

theorem nearestUnits_eq_mul (num den : Nat) :
    nearestUnits num den =
      roundDiv num (den * 2 ^ spareBits (num / den)) * 2 ^ spareBits (num / den) := by
  simp only [nearestUnits, Nat.shiftLeft_eq]

private theorem mul_mul_swap (m den step : Nat) : m * (den * step) = m * step * den := by
  rw [Nat.mul_comm den, Nat.mul_assoc]

theorem two_pow_le_of_spareBits_pos {units : Nat} (h : 0 < spareBits units) :
    2 ^ (52 + spareBits units) ≤ units := by
  have hlog : 52 + spareBits units = units.log2 := by
    unfold spareBits at h ⊢
    omega
  have hne : units ≠ 0 := by
    rintro rfl
    exact Nat.not_succ_le_zero _ h
  rw [hlog]
  exact Nat.log2_self_le hne

/-- No precise count is nearer to a ratio than the one it is rounded to. -/
theorem dist_nearestUnits_le (num : Nat) {den c : Nat} (hden : 0 < den) (hc : Precise c) :
    Nat.dist (nearestUnits num den * den) num ≤ Nat.dist (c * den) num := by
  rw [nearestUnits_eq_mul]
  have hreached := @two_pow_le_of_spareBits_pos (num / den)
  generalize spareBits (num / den) = spare at *
  have hnear : ∀ n, Nat.dist (roundDiv num (den * 2 ^ spare) * 2 ^ spare * den) num ≤
      Nat.dist (n * 2 ^ spare * den) num := by
    intro n
    have hround := dist_roundDiv_le num (Nat.mul_pos hden (Nat.two_pow_pos spare)) n
    rwa [mul_mul_swap, mul_mul_swap] at hround
  by_cases hlarge : 2 ^ (52 + spare) ≤ c
  · obtain ⟨n, rfl⟩ := hc.two_pow_dvd hlarge
    rw [Nat.mul_comm (2 ^ spare) n]
    exact hnear n
  · rcases Nat.eq_zero_or_pos spare with rfl | hpos
    · simpa using hnear c
    · -- The power of two lies between the smaller count and the ratio.
      have hpower := hnear (2 ^ 52)
      have hbelow : c * den ≤ 2 ^ (52 + spare) * den := Nat.mul_le_mul_right den (by omega)
      have habove : 2 ^ (52 + spare) * den ≤ num :=
        Nat.le_trans (Nat.mul_le_mul_right den (hreached hpos)) (Nat.div_mul_le_self num den)
      rw [← Nat.pow_add] at hpower
      refine Nat.le_trans hpower ?_
      simp only [Nat.dist]
      omega

variable {num den c : Nat}

theorem nearestUnits_eq_of_nearer (hden : 0 < den) (hc : Precise c)
    (h : ∀ other, Precise other → other ≠ c →
      Nat.dist (c * den) num < Nat.dist (other * den) num) : nearestUnits num den = c := by
  by_contra hne
  have hnearer := h _ (precise_nearestUnits num den) hne
  have hnearest := dist_nearestUnits_le num hden hc
  omega

theorem nearestUnits_eq_zero (h : 2 * num < den) : nearestUnits num den = 0 := by
  have hquotient : num / den = 0 := Nat.div_eq_of_lt (by omega)
  have hround : roundDiv num (den * 2 ^ 0) = 0 :=
    roundDiv_eq_of_dist (by simpa [Nat.dist] using h)
  have hspare : spareBits 0 = 0 := by decide
  rw [nearestUnits_eq_mul, hquotient, hspare, hround, Nat.zero_mul]

theorem le_nearestUnits (hden : 0 < den) (hc : Precise c) (h : c * den ≤ num) :
    c ≤ nearestUnits num den := by
  by_contra hlt
  have hnearest := dist_nearestUnits_le num hden hc
  have hbelow := Nat.mul_lt_mul_of_pos_right (Nat.lt_of_not_le hlt) hden
  simp only [Nat.dist] at hnearest
  omega

theorem nearestUnits_mono {num' : Nat} (hden : 0 < den) (h : num ≤ num') :
    nearestUnits num den ≤ nearestUnits num' den := by
  have hprecise := fun num => precise_nearestUnits num den
  refine Nat.le_of_mul_le_mul_right ?_ hden
  refine le_of_dist_le h (dist_nearestUnits_le num hden (hprecise num'))
    (dist_nearestUnits_le num' hden (hprecise num)) ?_
  rintro rfl
  rfl

theorem nearestUnits_mul_mul (num den : Nat) {scale : Nat} (h : 0 < scale) :
    nearestUnits (num * scale) (den * scale) = nearestUnits num den := by
  rw [nearestUnits_eq_mul, nearestUnits_eq_mul, Nat.mul_div_mul_right _ _ h,
    Nat.mul_right_comm den scale, roundDiv_mul_mul _ _ h]

theorem two_mul_dist_nearestUnits_le (num : Nat) (hden : 0 < den) :
    2 * Nat.dist (nearestUnits num den * den) num ≤ den * 2 ^ spareBits (num / den) := by
  rw [nearestUnits_eq_mul]
  have hround := two_mul_dist_roundDiv_le num
    (Nat.mul_pos hden (Nat.two_pow_pos (spareBits (num / den))))
  rwa [mul_mul_swap] at hround

theorem spareBits_le {units k : Nat} (h : units < 2 ^ (53 + k)) : spareBits units ≤ k := by
  by_cases hzero : units = 0
  · rw [hzero]
    exact Nat.zero_le k
  · have hlog := (Nat.log2_lt hzero).mpr h
    unfold spareBits
    omega

/-- A ratio below a power of two is rounded by less than a part of it. -/
theorem two_mul_dist_nearestUnits_le_of_lt {k : Nat} (hden : 0 < den)
    (h : nearestUnits num den < 2 ^ (53 + k)) :
    2 * Nat.dist (nearestUnits num den * den) num ≤ den * 2 ^ k := by
  have hbelow : num / den < 2 ^ (53 + k) := by
    by_contra hge
    have hscaled := Nat.le_trans (Nat.mul_le_mul_right den (Nat.le_of_not_lt hge))
      (Nat.div_mul_le_self num den)
    have := le_nearestUnits hden (precise_two_pow (53 + k)) hscaled
    omega
  exact Nat.le_trans (two_mul_dist_nearestUnits_le num hden)
    (Nat.mul_le_mul_left den (Nat.pow_le_pow_right (by decide) (spareBits_le hbelow)))

/-! ## Numbers -/

namespace Binary64

theorem ofRatio_of_lt (negative : Bool) (h : nearestUnits num den < unitLimit) :
    ofRatio negative num den =
      .finite negative (nearestUnits num den) ⟨h, nearestUnits_eq num den⟩ :=
  dif_pos h

theorem ofRatio_mul_mul (negative : Bool) (num den : Nat) {scale : Nat} (h : 0 < scale) :
    ofRatio negative (num * scale) (den * scale) = ofRatio negative num den := by
  simp only [ofRatio, nearestUnits_mul_mul _ _ h]

theorem ofRatio_of_tiny (negative : Bool) (h : 2 * num < den) :
    ofRatio negative num den = .finite negative 0 representable_zero := by
  have hzero := nearestUnits_eq_zero h
  rw [ofRatio_of_lt negative (hzero ▸ unitLimit_pos)]
  simp only [hzero]

end Binary64

end FieldCalc
