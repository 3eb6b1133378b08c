import FieldCalc.Display
import FieldCalc.Proofs.Binary64.Rounding

/-!
# Committed values

Rounding a finite number to any number of places never overflows: a number too large to have
places is left as it is, and any other is far below the limit. A committed value is therefore
finite, and it is never below zero.
-/

namespace FieldCalc

theorem scaledUnits_whole (places n : Nat) :
    scaledUnits places (n * unitsPerOne) = n * tenTo places := by
  rw [scaledUnits, Nat.mul_right_comm]
  exact roundDiv_mul_self _ unitsPerOne_pos

theorem scaledUnits_zero (places : Nat) : scaledUnits places 0 = 0 := by
  simpa using scaledUnits_whole places 0

theorem scaledUnits_mul_le (places units : Nat) :
    scaledUnits places units * unitsPerOne ≤ (units + unitsPerOne) * tenTo places := by
  have hround : scaledUnits places units ≤ units * tenTo places / unitsPerOne + 1 :=
    roundDiv_le _ _
  calc scaledUnits places units * unitsPerOne
      ≤ (units * tenTo places / unitsPerOne + 1) * unitsPerOne := Nat.mul_le_mul_right _ hround
    _ = units * tenTo places / unitsPerOne * unitsPerOne + unitsPerOne := Nat.succ_mul _ _
    _ ≤ units * tenTo places + unitsPerOne * tenTo places :=
        Nat.add_le_add (Nat.div_mul_le_self _ _) (Nat.le_mul_of_pos_right _ (tenTo_pos places))
    _ = (units + unitsPerOne) * tenTo places := (Nat.add_mul _ _ _).symm

theorem nearestUnits_scaledUnits_lt {units : Nat} (h : Representable units) (places : Nat) :
    nearestUnits (scaledUnits places units * unitsPerOne) (tenTo places) < unitLimit := by
  rcases h.whole_or_lt with ⟨n, rfl⟩ | hlt
  · -- There are no places to round.
    rw [scaledUnits_whole, Nat.mul_right_comm, nearestUnits_mul_self h (tenTo_pos places)]
    exact h.1
  · -- The rounded count is below about twice the old one and a whole one more.
    have hquotient : scaledUnits places units * unitsPerOne / tenTo places ≤
        (units + unitsPerOne) * tenTo places / tenTo places :=
      Nat.div_le_div_right (scaledUnits_mul_le places units)
    rw [Nat.mul_div_cancel _ (tenTo_pos places)] at hquotient
    have hnearest := nearestUnits_le (scaledUnits places units * unitsPerOne) (tenTo places)
    have hroom := mul_two_pow_le_unitLimit
    have hsignificand : significandLimit = 2 ^ 53 := Nat.one_shiftLeft 53
    have hpos := unitsPerOne_pos
    rw [hsignificand] at hlt
    omega

namespace Display

theorem isFinite_roundTo (places : Nat) {x : Binary64} (h : x.isFinite = true) :
    (roundTo places x).isFinite = true := by
  cases x with
  | nan | infinite _ => cases h
  | finite negative units representable =>
      simp only [roundTo]
      split
      · rfl
      · rw [Binary64.ofRatio, dif_pos (nearestUnits_scaledUnits_lt representable places)]
        rfl

theorem isNonneg_of_isPositive {x : Binary64} (h : x.isPositive = true) : x.isNonneg = true := by
  cases x with
  | nan => cases h
  | infinite negative => exact h
  | finite negative units _ =>
      simp only [Binary64.isPositive, Bool.and_eq_true] at h
      simp only [Binary64.isNonneg, h.1, Bool.true_or]

theorem commit_valid (places : Nat) (x : Binary64) :
    (commit places x).isFinite = true ∧ (commit places x).isNonneg = true := by
  unfold commit
  split
  · next h =>
      simp only [Bool.and_eq_true] at h
      exact ⟨isFinite_roundTo places h.1, isNonneg_of_isPositive h.2⟩
  · exact ⟨rfl, rfl⟩

end Display

end FieldCalc
