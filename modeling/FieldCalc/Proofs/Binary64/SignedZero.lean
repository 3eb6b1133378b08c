import FieldCalc.Proofs.Binary64.Finite
import FieldCalc.Proofs.Binary64.Nearest

/-!
# Minus zero

A zero that is added or taken away leaves every number as it is, except that minus zero loses its
sign to an added zero. No sum is minus zero unless it starts from minus zero, since opposite
numbers add up to plus zero and no sum of others is rounded to zero.
-/

namespace FieldCalc.Binary64

def isMinusZero : Binary64 → Bool
  | finite negative units _ => negative && units == 0
  | _ => false

theorem nearestUnits_pos {num : Nat} (h : 0 < num) : 0 < nearestUnits num 1 :=
  le_nearestUnits Nat.one_pos (precise_two_pow 0) (by rwa [Nat.mul_one])

theorem isMinusZero_ofRatio {negative : Bool} {num : Nat} (h : negative = false ∨ 0 < num) :
    (ofRatio negative num 1).isMinusZero = false := by
  unfold ofRatio
  split
  · rcases h with rfl | hpos
    · rfl
    · have hunits := Nat.ne_of_gt (nearestUnits_pos hpos)
      simp [isMinusZero, hunits]
  · rfl

theorem add_zero {x : Binary64} (h : x.isMinusZero = false) : x.add zero = x := by
  cases x with
  | nan | infinite => rfl
  | finite negative units hunits =>
      cases negative with
      | false => simp only [zero, add, if_true, Nat.add_zero, ofRatio_one false hunits]
      | true =>
          have hpos : 0 < units := Nat.pos_of_ne_zero (by simpa [isMinusZero] using h)
          simp [zero, add, ofRatio_one true hunits, hpos, Nat.ne_of_gt hpos]

theorem sub_zero (x : Binary64) : x.sub zero = x := by
  cases x with
  | nan | infinite => rfl
  | finite negative units hunits =>
      cases negative with
      | true => simp only [sub, neg, zero, add, Bool.not_false, if_true, Nat.add_zero,
          ofRatio_one true hunits]
      | false =>
          rcases Nat.eq_zero_or_pos units with rfl | hpos
          · rfl
          · simp [sub, neg, zero, add, ofRatio_one false hunits, hpos, Nat.ne_of_gt hpos]

theorem isMinusZero_add {x : Binary64} (y : Binary64) (h : x.isMinusZero = false) :
    (x.add y).isMinusZero = false := by
  cases x with
  | nan => rfl
  | infinite s =>
      cases y with
      | nan | finite => rfl
      | infinite t =>
          simp only [add]
          split <;> rfl
  | finite s m hm =>
      cases y with
      | nan | infinite => rfl
      | finite t n hn =>
          simp only [add]
          split
          · refine isMinusZero_ofRatio ?_
            rw [isMinusZero, Bool.and_eq_false_iff] at h
            refine h.imp_right fun hm => ?_
            have hne : m ≠ 0 := by simpa using hm
            omega
          · split
            · rfl
            · split
              · exact isMinusZero_ofRatio (.inr (by omega))
              · exact isMinusZero_ofRatio (.inr (by omega))

theorem isMinusZero_sub {x : Binary64} (y : Binary64) (h : x.isMinusZero = false) :
    (x.sub y).isMinusZero = false :=
  isMinusZero_add y.neg h

end FieldCalc.Binary64
