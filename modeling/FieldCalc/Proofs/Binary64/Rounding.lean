import FieldCalc.Binary64.Arithmetic
import Mathlib.Algebra.Group.Nat.Defs

/-!
# Rounding to a count of units

A count that is representable is its own nearest one, and the nearest count to any ratio is at
most about twice that ratio. The second bound is far from sharp; it is enough where there is room
below the overflow limit.
-/

namespace FieldCalc

theorem spareBits_shiftLeft_le {m : Nat} (h : m < significandLimit) (e : Nat) :
    spareBits (m <<< e) ≤ e := by
  rw [significandLimit, Nat.shiftLeft_eq, Nat.one_mul] at h
  by_cases hm : m <<< e = 0
  · rw [hm]
    exact Nat.zero_le e
  · have hlt : m <<< e < 2 ^ (53 + e) := by
      rw [Nat.shiftLeft_eq, Nat.pow_add]
      exact Nat.mul_lt_mul_of_pos_right h (Nat.two_pow_pos e)
    have hlog := (Nat.log2_lt hm).mpr hlt
    simp only [spareBits]
    omega

theorem nearestUnits_mul_self {units den : Nat} (h : Representable units) (hden : 0 < den) :
    nearestUnits (units * den) den = units := by
  obtain ⟨-, m, e, hm, rfl⟩ := h
  have hspare := spareBits_shiftLeft_le hm e
  unfold nearestUnits
  simp only [Nat.mul_div_cancel _ hden]
  generalize spareBits (m <<< e) = spare at hspare ⊢
  have hsplit : m <<< e = (m <<< (e - spare)) <<< spare := by
    rw [← Nat.shiftLeft_add, Nat.sub_add_cancel hspare]
  have hscaled : m <<< e * den = m <<< (e - spare) * (den <<< spare) := by
    rw [hsplit, Nat.shiftLeft_eq _ spare, Nat.shiftLeft_eq den, Nat.mul_assoc,
      Nat.mul_comm (2 ^ spare)]
  have hpos : 0 < den <<< spare := by
    rw [Nat.shiftLeft_eq]
    exact Nat.mul_pos hden (Nat.two_pow_pos spare)
  rw [hscaled, roundDiv_mul_self _ hpos, ← hsplit]

theorem two_pow_spareBits_le (units : Nat) : 2 ^ spareBits units ≤ units + 1 := by
  by_cases h : units.log2 ≤ 52
  · rw [spareBits, Nat.sub_eq_zero_of_le h]
    exact Nat.le_add_left 1 units
  · have hne : units ≠ 0 := by
      rintro rfl
      exact h (Nat.zero_le 52)
    calc 2 ^ spareBits units
        ≤ 2 ^ units.log2 := Nat.pow_le_pow_right (by decide) (Nat.sub_le _ _)
      _ ≤ units := Nat.log2_self_le hne
      _ ≤ units + 1 := Nat.le_succ _

theorem nearestUnits_le (num den : Nat) : nearestUnits num den ≤ 2 * (num / den) + 1 := by
  have hspare := two_pow_spareBits_le (num / den)
  have hround := roundDiv_le num (den <<< spareBits (num / den))
  unfold nearestUnits
  simp only
  generalize spareBits (num / den) = spare at *
  rw [Nat.shiftLeft_eq den, ← Nat.div_div_eq_div_mul] at hround
  rw [Nat.shiftLeft_eq]
  calc roundDiv num (den <<< spare) * 2 ^ spare
      ≤ (num / den / 2 ^ spare + 1) * 2 ^ spare := by
        rw [Nat.shiftLeft_eq]
        exact Nat.mul_le_mul_right _ hround
    _ = num / den / 2 ^ spare * 2 ^ spare + 2 ^ spare := by rw [Nat.succ_mul]
    _ ≤ num / den + 2 ^ spare := Nat.add_le_add_right (Nat.div_mul_le_self _ _) _
    _ ≤ 2 * (num / den) + 1 := by omega

theorem mul_one_shiftLeft (n k : Nat) : n * 1 <<< k = n <<< k := by
  rw [Nat.shiftLeft_eq, Nat.shiftLeft_eq, Nat.one_mul]

theorem unitsPerOne_pos : 0 < unitsPerOne := one_shiftLeft_pos 1074

theorem mul_two_pow_le_shiftLeft {e k : Nat} (h : e ≤ k) (n : Nat) : n * 2 ^ e ≤ n <<< k := by
  rw [Nat.shiftLeft_eq]
  exact Nat.mul_le_mul_left n (Nat.pow_le_pow_right (by decide) h)

/-- There is much room between the significands and the overflow limit. -/
theorem mul_two_pow_le_unitLimit : unitsPerOne * 2 ^ 60 ≤ unitLimit := by
  have hlimit : unitLimit = unitsPerOne <<< 1024 := Nat.shiftLeft_add 1 1074 1024
  rw [hlimit]
  exact mul_two_pow_le_shiftLeft (by decide) unitsPerOne

/-- A representable count is a whole number of ones, or far below the overflow limit. -/
theorem Representable.whole_or_lt {units : Nat} (h : Representable units) :
    (∃ n, units = n * unitsPerOne) ∨ units < significandLimit * unitsPerOne := by
  obtain ⟨-, m, e, hm, rfl⟩ := h
  by_cases he : 1074 ≤ e
  · refine .inl ⟨m <<< (e - 1074), ?_⟩
    rw [unitsPerOne, mul_one_shiftLeft, ← Nat.shiftLeft_add, Nat.sub_add_cancel he]
  · have hone : 1 * 2 ^ e ≤ unitsPerOne :=
      mul_two_pow_le_shiftLeft (Nat.le_of_not_le he) 1
    rw [Nat.one_mul] at hone
    rw [Nat.shiftLeft_eq]
    exact .inr (Nat.mul_lt_mul_of_lt_of_le hm hone unitsPerOne_pos)

end FieldCalc
