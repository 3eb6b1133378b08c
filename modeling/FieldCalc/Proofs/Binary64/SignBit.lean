import FieldCalc.Binary64.Bits
import FieldCalc.Proofs.Binary64.Nearest

/-!
# The sign bit

The bits below the sign bit say how large a number is. Its opposite has the same bits there and
the other sign bit, for zeros and infinities as well.
-/

namespace FieldCalc.Binary64

/-- The most bits that a number can have beyond its 53 significant ones. -/
def maxSpareBits : Nat := 2045

theorem unitLimit_eq : unitLimit = 2 ^ (53 + maxSpareBits) := Nat.one_shiftLeft (53 + maxSpareBits)

/-- What is below the sign bit of an infinity is above that of every finite number. -/
theorem magnitudeBits_lt {units : Nat} (h : Representable units) :
    magnitudeBits units < 0x7ff0000000000000 := by
  have hhidden : hiddenBit = 0x10000000000000 := rfl
  have hspare : spareBits units ≤ maxSpareBits := spareBits_le (Nat.lt_of_lt_of_eq h.1 unitLimit_eq)
  have hkept : units >>> spareBits units < 0x20000000000000 := shiftRight_spareBits_lt units
  simp only [magnitudeBits, hhidden, maxSpareBits] at hspare ⊢
  split <;> omega

theorem exists_toBits {x : Binary64} (h : x ≠ .nan) : ∃ negative magnitude, magnitude < 2 ^ 63 ∧
    x.toBits = signBits negative + magnitude ∧ x.neg.toBits = signBits (!negative) + magnitude := by
  cases x with
  | nan => exact absurd rfl h
  | infinite negative => exact ⟨negative, _, by decide, rfl, rfl⟩
  | finite negative units hunits =>
      exact ⟨negative, _, Nat.lt_trans (magnitudeBits_lt hunits) (by decide), rfl, rfl⟩

theorem xor_signBits {magnitude : Nat} (negative : Bool) (h : magnitude < 2 ^ 63) :
    (signBits negative + magnitude) ^^^ signBits true = signBits (!negative) + magnitude := by
  have hsign : signBits true = 2 ^ 63 := rfl
  have hset : magnitude ^^^ 2 ^ 63 = 2 ^ 63 + magnitude := by
    have hparts := Nat.div_add_mod (magnitude ^^^ 2 ^ 63) (2 ^ 63)
    rw [Nat.xor_div_two_pow, Nat.xor_mod_two_pow, Nat.div_eq_of_lt h, Nat.mod_eq_of_lt h,
      Nat.mod_self, Nat.xor_zero] at hparts
    exact hparts.symm
  cases negative with
  | false =>
      have hclear : signBits false = 0 := rfl
      rw [hclear, Nat.zero_add, hsign]
      exact hset
  | true =>
      have hclear : signBits (!true) = 0 := rfl
      rw [hclear, Nat.zero_add, hsign, ← hset, Nat.xor_assoc, Nat.xor_self, Nat.xor_zero]

/-- The opposite number differs in the sign bit alone. -/
theorem toBits_neg {x : Binary64} (h : x ≠ .nan) : x.neg.toBits = x.toBits ^^^ signBits true := by
  obtain ⟨negative, magnitude, hmagnitude, hbits, hneg⟩ := exists_toBits h
  rw [hbits, hneg, xor_signBits negative hmagnitude]

end FieldCalc.Binary64
