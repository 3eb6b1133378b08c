import FieldCalc.Display.Amount
import FieldCalc.Proofs.Display.Nearest

/-!
# Committing is a clamped rounding

What a field takes of a number is rounded twice, to its places and from there to a number again,
and never less than zero. Each rounding keeps the order, and the second stays where the first one
went, so that the two together keep the order and need not be done again.
-/

namespace FieldCalc

/-! ## Order -/

theorem scaledUnits_mono (places : Nat) {m n : Nat} (h : m ≤ n) :
    scaledUnits places m ≤ scaledUnits places n :=
  roundDiv_mono unitsPerOne_pos (Nat.mul_le_mul_right _ h)

theorem nearestToPlaces_mono (places : Nat) {m n : Nat} (h : m ≤ n) :
    nearestToPlaces places m ≤ nearestToPlaces places n :=
  nearestUnits_mono (tenTo_pos places) (Nat.mul_le_mul_right _ (scaledUnits_mono places h))

theorem div_unitsPerOne_le_iff {m n : Int} :
    (m : ℚ) / unitsPerOne ≤ (n : ℚ) / unitsPerOne ↔ m ≤ n := by
  have hpos : (0 : ℚ) < unitsPerOne := Nat.cast_pos.mpr unitsPerOne_pos
  rw [div_le_div_iff_of_pos_right hpos, Int.cast_le]

theorem div_unitsPerOne_pos_iff {n : Int} : 0 < (n : ℚ) / unitsPerOne ↔ 0 < n := by
  have hpos : (0 : ℚ) < unitsPerOne := Nat.cast_pos.mpr unitsPerOne_pos
  rw [div_pos_iff_of_pos_right hpos, Int.cast_pos]

/-- A number above zero has no sign. -/
theorem Binary64.exists_of_toRat?_pos {x : Binary64} {q : ℚ} (h : x.toRat? = some q) (hpos : 0 < q) :
    ∃ units, ∃ hunits : Representable units, x = .finite false units hunits ∧
      q = (units : ℚ) / unitsPerOne := by
  obtain ⟨negative, units, hunits, rfl, rfl⟩ := exists_of_toRat? h
  cases negative with
  | false => exact ⟨units, hunits, rfl, by simp [signedCount]⟩
  | true =>
      rw [div_unitsPerOne_pos_iff, signedCount, if_pos rfl] at hpos
      omega

/-! ## Committed values -/

namespace Display

variable {places : Nat} {x : Binary64} {q : ℚ}

theorem exists_commit_eq (places : Nat) (x : Binary64) :
    ∃ units, ∃ hunits : Representable units, commit places x = .finite false units hunits := by
  cases x with
  | nan | infinite _ => exact ⟨0, representable_zero, rfl⟩
  | finite negative units hunits =>
      cases negative with
      | false => exact ⟨_, _, commit_positive places hunits⟩
      | true => exact ⟨0, representable_zero, commit_negative places hunits⟩

theorem commit_of_nonpos (h : ∀ q, x.toRat? = some q → q ≤ 0) : commit places x = .zero := by
  cases x with
  | nan | infinite _ => rfl
  | finite negative units hunits =>
      cases negative with
      | true => exact commit_negative places hunits
      | false =>
          have hzero : units = 0 := by
            by_contra hne
            refine absurd (h _ (Binary64.toRat?_finite false hunits)) (not_le.mpr ?_)
            rw [div_unitsPerOne_pos_iff]
            exact Int.natCast_pos.mpr (Nat.pos_of_ne_zero hne)
          subst hzero
          exact commit_zero places

theorem rounds_commit (places : Nat) (hq : x.toRat? = some q) (hpos : 0 < q) : ∃ n : ℤ,
    IsNearest n (q * 10 ^ places) ∧ (commit places x).Rounds (n / 10 ^ places) := by
  obtain ⟨units, hunits, rfl, rfl⟩ := Binary64.exists_of_toRat?_pos hq hpos
  have hlt := nearestUnits_scaledUnits_lt hunits places
  have hrounds := Binary64.rounds_places hlt false
  rw [Binary64.ofRatio_of_lt false hlt] at hrounds
  refine ⟨_, isNearest_scaledUnits places units false, ?_⟩
  rw [commit_positive]
  exact hrounds

theorem commit_of_many (hmany : maxRoundedPlaces < places) (hq : x.toRat? = some q)
    (hpos : 0 < q) : commit places x = x := by
  obtain ⟨units, hunits, rfl, -⟩ := Binary64.exists_of_toRat?_pos hq hpos
  simp only [commit_positive, nearestToPlaces_of_many hunits.precise hmany]

theorem commit_mono (places : Nat) {y : Binary64} {r : ℚ} (hq : x.toRat? = some q)
    (hr : y.toRat? = some r) (hle : q ≤ r) : ∃ q' r', (commit places x).toRat? = some q' ∧
      (commit places y).toRat? = some r' ∧ q' ≤ r' := by
  obtain ⟨units, hunits, hy⟩ := exists_commit_eq places y
  rcases le_or_gt q 0 with hnonpos | hpos
  · -- The smaller one is committed as zero, and nothing less is ever committed.
    have hzero : commit places x = .zero := commit_of_nonpos fun q' hq' => by
      rw [hq] at hq'
      exact Option.some.inj hq' ▸ hnonpos
    refine ⟨_, _, by rw [hzero]; exact Binary64.toRat?_finite false representable_zero,
      by rw [hy]; exact Binary64.toRat?_finite false hunits, ?_⟩
    rw [div_unitsPerOne_le_iff]
    exact Int.natCast_nonneg units
  · obtain ⟨m, hm, rfl, rfl⟩ := Binary64.exists_of_toRat?_pos hq hpos
    obtain ⟨n, hn, rfl, rfl⟩ := Binary64.exists_of_toRat?_pos hr (hpos.trans_le hle)
    have hmn : m ≤ n := by exact_mod_cast div_unitsPerOne_le_iff.mp hle
    simp only [commit_positive]
    refine ⟨_, _, Binary64.toRat?_finite false _, Binary64.toRat?_finite false _, ?_⟩
    rw [div_unitsPerOne_le_iff]
    exact Int.ofNat_le.mpr (nearestToPlaces_mono places hmn)

/-- What a field with the given places takes of a number, or of none. -/
structure ClampsRounded (places : Nat) : Prop where
  null : commitAmount places .null = .ok (.float .zero)
  /-- Nothing is refused for being too large once it is rounded. -/
  rounded : ∀ x, x.isFinite = true → (roundTo places x).isFinite = true
  number : ∀ x, commitAmount places (.float x) = .ok (.float (commit places x))
  unsigned : ∀ x, ∃ units, ∃ hunits : Representable units,
    commit places x = .finite false units hunits
  clamped : ∀ x, (∀ q, x.toRat? = some q → q ≤ 0) → commit places x = .zero
  nearest : places ≤ 323 → ∀ x q, x.toRat? = some q → 0 < q → ∃ n : ℤ,
    IsNearest n (q * 10 ^ places) ∧ (commit places x).Rounds (n / 10 ^ places)
  exact : 323 < places → ∀ x q, x.toRat? = some q → 0 < q → commit places x = x
  idempotent : ∀ x, commit places (commit places x) = commit places x
  monotone : ∀ x y q r, x.toRat? = some q → y.toRat? = some r → q ≤ r →
    ∃ q' r', (commit places x).toRat? = some q' ∧ (commit places y).toRat? = some r' ∧ q' ≤ r'

/-- A committed value is the number nearest to the nearest whole number of places, and zero where
there is nothing above zero to round. Committing it again changes nothing, and of two numbers the
larger one is never committed as less. -/
theorem clampsRounded (places : Nat) : ClampsRounded places where
  null := rfl
  rounded _ := isFinite_roundTo places
  number _ := rfl
  unsigned := exists_commit_eq places
  clamped _ := commit_of_nonpos
  nearest _ _ _ := rounds_commit places
  exact hmany _ _ := commit_of_many hmany
  idempotent := commit_commit places
  monotone _ _ _ _ := commit_mono places

/-- The number written as 2.675 is a little smaller than that. -/
example : commit 2 (Binary64.ofDecimal false 2675 (-3)) = Binary64.ofDecimal false 267 (-2) := by
  decide +kernel

end Display

end FieldCalc
