import FieldCalc.Proofs.Binary64.Rounding
import FieldCalc.Operator

/-!
# Finite results

Of the four operations only a division can lead from a number that is not finite to one that is:
a finite number divided by an infinite one is zero. The other way is rounding beyond the range,
which adding a zero never does.
-/

namespace FieldCalc

namespace Binary64

@[simp] theorem isFinite_neg (x : Binary64) : x.neg.isFinite = x.isFinite := by
  cases x <;> rfl

theorem isFinite_of_add {x y : Binary64} (h : (x.add y).isFinite = true) :
    x.isFinite = true ∧ y.isFinite = true := by
  cases x with
  | nan => cases h
  | infinite s =>
      cases y with
      | nan => cases h
      | infinite t =>
          simp only [add] at h
          split at h <;> cases h
      | finite => cases h
  | finite =>
      cases y with
      | nan | infinite => cases h
      | finite => exact ⟨rfl, rfl⟩

theorem isFinite_of_sub {x y : Binary64} (h : (x.sub y).isFinite = true) :
    x.isFinite = true ∧ y.isFinite = true := by
  rw [← isFinite_neg y]
  exact isFinite_of_add h

theorem isFinite_of_mul {x y : Binary64} (h : (x.mul y).isFinite = true) :
    x.isFinite = true ∧ y.isFinite = true := by
  cases x with
  | nan => cases h
  | infinite =>
      cases y with
      | nan | infinite => cases h
      | finite =>
          simp only [mul] at h
          split at h <;> cases h
  | finite =>
      cases y with
      | nan => cases h
      | infinite =>
          simp only [mul] at h
          split at h <;> cases h
      | finite => exact ⟨rfl, rfl⟩

theorem isFinite_of_div {x y : Binary64} (h : (x.div y).isFinite = true) :
    x.isFinite = true ∧ (y.isFinite = true ∨ ∃ negative, y = .infinite negative) := by
  cases x with
  | nan => cases h
  | infinite => cases y <;> cases h
  | finite =>
      cases y with
      | nan => cases h
      | infinite negative => exact ⟨rfl, .inr ⟨negative, rfl⟩⟩
      | finite => exact ⟨rfl, .inl rfl⟩

theorem div_infinite {x : Binary64} (h : x.isFinite = true) (negative : Bool) :
    (x.div (.infinite negative)).isZero = true := by
  cases x with
  | nan | infinite => cases h
  | finite => rfl

/-! ## Sums with zero -/

theorem ofRatio_one (negative : Bool) {units : Nat} (h : Representable units) :
    ofRatio negative units 1 = .finite negative units h := by
  have hunits : nearestUnits units 1 = units := by
    simpa using nearestUnits_mul_self h Nat.one_pos
  have hlt : nearestUnits units 1 < unitLimit := hunits.symm ▸ h.1
  rw [ofRatio, dif_pos hlt]
  simp only [hunits]

theorem isFinite_add_of_isZero {x : Binary64} (y : Binary64) (h : x.isZero = true) :
    (x.add y).isFinite = y.isFinite := by
  cases x with
  | nan | infinite => cases h
  | finite s m hm =>
      obtain rfl : m = 0 := by simpa [isZero] using h
      cases y with
      | nan | infinite => rfl
      | finite t n hn =>
          simp only [add]
          split
          · rw [Nat.zero_add, ofRatio_one s hn]
            rfl
          · split
            · rfl
            · rw [if_neg (Nat.not_lt_zero n), Nat.sub_zero, ofRatio_one t hn]

/-- Adding to zero loses only the sign of a zero. -/
theorem zero_add_finite (negative : Bool) {units : Nat} (h : Representable units) :
    zero.add (.finite negative units h) = .finite (negative && units != 0) units h := by
  cases negative with
  | false => simp only [zero, add, if_true, Nat.zero_add, ofRatio_one false h, Bool.false_and]
  | true =>
      rcases Nat.eq_zero_or_pos units with rfl | hpos
      · rfl
      · simp [zero, add, ofRatio_one true h, Nat.ne_of_lt hpos, Nat.ne_of_gt hpos]

theorem isFinite_sub_of_isZero {x : Binary64} (y : Binary64) (h : x.isZero = true) :
    (x.sub y).isFinite = y.isFinite := by
  rw [sub, isFinite_add_of_isZero _ h, isFinite_neg]

end Binary64

namespace Operator

theorem isFinite_of_apply {op : Operator} {x y : Binary64}
    (h : (op.apply x y).isFinite = true) :
    x.isFinite = true ∧
      (y.isFinite = true ∨ op = .divide ∧ ∃ negative, y = .infinite negative) := by
  cases op with
  | plus =>
      obtain ⟨hx, hy⟩ := Binary64.isFinite_of_add h
      exact ⟨hx, .inl hy⟩
  | minus =>
      obtain ⟨hx, hy⟩ := Binary64.isFinite_of_sub h
      exact ⟨hx, .inl hy⟩
  | times =>
      obtain ⟨hx, hy⟩ := Binary64.isFinite_of_mul h
      exact ⟨hx, .inl hy⟩
  | divide =>
      obtain ⟨hx, hy⟩ := Binary64.isFinite_of_div h
      exact ⟨hx, hy.imp_right fun hinfinite => ⟨rfl, hinfinite⟩⟩

end Operator

end FieldCalc
