import FieldCalc.Proofs.Binary64.Nearest
import FieldCalc.Proofs.Display.Commit
import Mathlib.Data.Nat.Prime.Basic

/-!
# Rounding to places

Rounding to places takes two roundings. The first goes to a whole number of `10^-places`, the
second from there to the nearest count. The second never leaves the reach of the first, so that
rounding again to as many places changes nothing.
-/

namespace FieldCalc

/-! ## Powers -/

theorem unitsPerOne_eq_mul {n k : Nat} (h : n + k = unitBits) :
    unitsPerOne = 2 ^ n * 2 ^ k := by
  rw [unitsPerOne_eq, ← h, Nat.pow_add]

/-- The unit is no multiple of a decimal place. -/
theorem not_tenTo_dvd_unitsPerOne (places : Nat) : ¬tenTo (places + 1) ∣ unitsPerOne := by
  intro h
  have hfive : 5 ∣ tenTo (places + 1) := Nat.dvd_mul_left_of_dvd (by decide : 5 ∣ 10) _
  have hdvd := Nat.dvd_trans hfive h
  rw [unitsPerOne_eq] at hdvd
  exact absurd (Nat.prime_five.dvd_of_dvd_pow hdvd) (by decide)

/-! ## The two roundings -/

section

variable {units places : Nat}

theorem two_mul_dist_scaledUnits_le (places units : Nat) :
    2 * Nat.dist (scaledUnits places units * unitsPerOne) (units * tenTo places) ≤ unitsPerOne :=
  two_mul_dist_roundDiv_le _ unitsPerOne_pos

theorem scaledUnits_eq_of_dist {n : Nat}
    (h : 2 * Nat.dist (n * unitsPerOne) (units * tenTo places) < unitsPerOne) :
    scaledUnits places units = n :=
  roundDiv_eq_of_dist h

/-- The count nearest to a whole number of `10^-places`. -/
def nearestToPlaces (places units : Nat) : Nat :=
  nearestUnits (scaledUnits places units * unitsPerOne) (tenTo places)

theorem nearestToPlaces_of_whole (h : Representable units) {n : Nat}
    (hwhole : units = n * unitsPerOne) (places : Nat) : nearestToPlaces places units = units := by
  rw [nearestToPlaces, hwhole, scaledUnits_whole, Nat.mul_right_comm]
  exact nearestUnits_mul_self (hwhole ▸ h) (tenTo_pos places)

theorem representable_nearestToPlaces (h : Representable units) (places : Nat) :
    Representable (nearestToPlaces places units) :=
  ⟨nearestUnits_scaledUnits_lt h places, nearestUnits_eq _ _⟩

/-- Where the counts are far apart, rounding to places changes nothing. -/
theorem nearestToPlaces_of_gap {gap : Nat} (h : Precise units)
    (hgap : ∀ other, Precise other → other ≠ units → gap ≤ Nat.dist other units)
    (hroom : unitsPerOne < gap * tenTo places) : nearestToPlaces places units = units := by
  refine nearestUnits_eq_of_nearer (tenTo_pos places) h fun other hother hne => ?_
  have hnear := two_mul_dist_scaledUnits_le places units
  have hapart : gap * tenTo places ≤ Nat.dist (other * tenTo places) (units * tenTo places) := by
    rw [Nat.dist_mul_right]
    exact Nat.mul_le_mul_right _ (hgap other hother hne)
  have htriangle := Nat.dist.triangle_inequality (other * tenTo places)
    (scaledUnits places units * unitsPerOne) (units * tenTo places)
  rw [Nat.dist_comm (units * tenTo places)]
  omega

/-- Whole numbers of ones stay precise when a count is rounded to one. -/
theorem precise_scaledUnits_zero (h : Representable units) :
    Precise (scaledUnits 0 units * unitsPerOne) := by
  rcases h.whole_or_lt with ⟨n, rfl⟩ | hlt
  · rw [scaledUnits_whole, tenTo_zero, Nat.mul_one]
    exact h.precise
  · have hround : scaledUnits 0 units ≤ units * tenTo 0 / unitsPerOne + 1 := roundDiv_le _ _
    rw [tenTo_zero, Nat.mul_one] at hround
    have hquotient := (Nat.div_lt_iff_lt_mul unitsPerOne_pos).mpr hlt
    rcases Nat.lt_or_ge (scaledUnits 0 units) significandLimit with hsmall | hlarge
    · exact ⟨_, unitBits, hsmall, mul_one_shiftLeft _ _⟩
    · have hlimit : scaledUnits 0 units = 2 ^ 53 := by rw [← significandLimit_eq]; omega
      rw [hlimit, two_pow_mul_unitsPerOne]
      exact precise_two_pow _

/-- The second rounding does not leave the reach of the first. -/
theorem scaledUnits_nearestToPlaces (h : Representable units) (places : Nat) :
    scaledUnits places (nearestToPlaces places units) = scaledUnits places units := by
  have hnear := two_mul_dist_scaledUnits_le places units
  have hnearer := dist_nearestUnits_le (scaledUnits places units * unitsPerOne)
    (tenTo_pos places) h.precise
  rw [← nearestToPlaces, Nat.dist_comm, Nat.dist_comm (units * _)] at hnearer
  rcases Nat.lt_or_eq_of_le (Nat.le_trans (Nat.mul_le_mul_left 2 hnearer) hnear) with hlt | hhalf
  · exact scaledUnits_eq_of_dist hlt
  · cases places with
    | zero =>
        -- A whole number of ones is precise and would have been hit.
        have hexact := dist_nearestUnits_le (scaledUnits 0 units * unitsPerOne)
          (tenTo_pos 0) (precise_scaledUnits_zero h)
        have hpos := unitsPerOne_pos
        have hself : scaledUnits 0 units * unitsPerOne * tenTo 0 =
            scaledUnits 0 units * unitsPerOne := Nat.mul_one _
        rw [← nearestToPlaces, hself, Nat.dist_self, Nat.dist_comm] at hexact
        omega
    | succ places =>
        -- Both counts lie half a place away, and a place is no whole number of units.
        generalize nearestToPlaces (places + 1) units = near at *
        have hsame : near = units := by
          by_contra hne
          refine not_tenTo_dvd_unitsPerOne places ⟨Nat.dist near units, ?_⟩
          have happart := Nat.dist_pos_of_ne hne
          have hscaled := Nat.dist_mul_right near (tenTo (places + 1)) units
          have hdist := Nat.mul_pos happart (tenTo_pos (places + 1))
          rw [Nat.mul_comm, ← hscaled]
          simp only [Nat.dist] at hhalf hnearer hnear hscaled hdist ⊢
          omega
        rw [hsame]

theorem nearestToPlaces_nearestToPlaces (h : Representable units) (places : Nat) :
    nearestToPlaces places (nearestToPlaces places units) = nearestToPlaces places units := by
  rw [nearestToPlaces, scaledUnits_nearestToPlaces h, ← nearestToPlaces]

/-! ## More places than a number has -/

theorem unitsPerOne_lt_tenTo {places : Nat} (h : Display.maxRoundedPlaces < places) :
    unitsPerOne < tenTo places := by
  have hfirst : unitsPerOne < tenTo 324 := by decide +kernel
  obtain ⟨more, rfl⟩ := Nat.exists_eq_add_of_le h
  refine Nat.lt_of_lt_of_le hfirst ?_
  change tenTo 324 ≤ tenTo (324 + more)
  rw [tenTo_add]
  exact Nat.le_mul_of_pos_right _ (tenTo_pos more)

/-- With so many places, a whole number of them is nearer to every number than the next one. -/
theorem nearestToPlaces_of_many (h : Precise units) (hplaces : Display.maxRoundedPlaces < places) :
    nearestToPlaces places units = units := by
  refine nearestToPlaces_of_gap h (fun other _ hne => Nat.dist_pos_of_ne hne) ?_
  rw [Nat.one_mul]
  exact unitsPerOne_lt_tenTo hplaces

/-! ## From fewer to more places -/

theorem dist_scaled (n extra : Nat) :
    Nat.dist (n * tenTo extra * unitsPerOne) (units * tenTo (places + extra)) =
      Nat.dist (n * unitsPerOne) (units * tenTo places) * tenTo extra := by
  rw [← Nat.dist_mul_right, tenTo_add, Nat.mul_right_comm, Nat.mul_assoc units]

/-- A count that is nearest to a whole number of some places is the same with more places, if it
is near enough for them. -/
theorem nearestToPlaces_add {extra : Nat} (hfixed : nearestToPlaces places units = units)
    (hnear : 2 * Nat.dist (scaledUnits places units * unitsPerOne) (units * tenTo places) *
      tenTo extra < unitsPerOne) : nearestToPlaces (places + extra) units = units := by
  have hscaled : scaledUnits (places + extra) units = scaledUnits places units * tenTo extra :=
    scaledUnits_eq_of_dist (by rwa [dist_scaled, ← Nat.mul_assoc])
  rw [nearestToPlaces, hscaled, tenTo_add, Nat.mul_right_comm,
    nearestUnits_mul_mul _ _ (tenTo_pos extra)]
  exact hfixed

/-- Below `2^33` a number that is nearest to a few places is near enough to them to be told from
them by six; above, six places are finer than the numbers are. -/
theorem nearestToPlaces_minPlaces (h : Representable units)
    (hplaces : places ≤ Display.minPlaces) (hfixed : nearestToPlaces places units = units) :
    nearestToPlaces Display.minPlaces units = units := by
  obtain ⟨extra, hextra⟩ := Nat.exists_eq_add_of_le hplaces
  obtain ⟨k, hk⟩ : ∃ k, 20 + k = unitBits := ⟨1054, rfl⟩
  have hone : unitsPerOne = 2 ^ 20 * 2 ^ k := unitsPerOne_eq_mul hk
  have hpower : 2 ^ 33 * unitsPerOne = 2 ^ (53 + k) := by
    rw [two_pow_mul_unitsPerOne, ← hk, ← Nat.add_assoc]
  have hmany : tenTo Display.minPlaces = 10 ^ 6 := rfl
  rcases Nat.lt_trichotomy units (2 ^ 33 * unitsPerOne) with hsmall | hwhole | hlarge
  · have hbelow : nearestToPlaces places units < 2 ^ (53 + k) := by rwa [hfixed, ← hpower]
    have hnear := two_mul_dist_nearestUnits_le_of_lt (tenTo_pos places) hbelow
    rw [← nearestToPlaces, hfixed, Nat.dist_comm] at hnear
    rw [hextra]
    refine nearestToPlaces_add hfixed (Nat.lt_of_le_of_lt (Nat.mul_le_mul_right _ hnear) ?_)
    rw [Nat.mul_right_comm, ← tenTo_add, ← hextra, hmany, hone]
    exact Nat.mul_lt_mul_of_pos_right (by decide) (Nat.two_pow_pos k)
  · exact nearestToPlaces_of_whole h hwhole _
  · have hgap : ∀ other, Precise other → other ≠ units → 2 ^ (k + 1) ≤ Nat.dist other units := by
      refine fun other hother hne => h.precise.two_pow_le_dist hother ?_ hne
      rwa [Nat.add_comm k, ← Nat.add_assoc, ← hpower]
    refine nearestToPlaces_of_gap h.precise hgap ?_
    rw [Nat.pow_succ, Nat.mul_assoc, Nat.mul_comm (2 ^ k), hmany, hone]
    exact Nat.mul_lt_mul_of_pos_right (by decide) (Nat.two_pow_pos k)

/-! ## From more to fewer places -/

theorem two_mul_dist_roundDiv_lt {num den : Nat} (h : 0 < den) (hhalf : 2 * (num % den) ≠ den) :
    2 * Nat.dist (roundDiv num den * den) num < den := by
  have hdiv := Nat.div_add_mod' num den
  have hmod := Nat.mod_lt num h
  have hnext : (num / den + 1) * den = num / den * den + den := Nat.succ_mul _ _
  simp only [roundDiv, Nat.dist]
  split
  · omega
  · split <;> omega

/-- Unless a whole number of smaller places stands halfway between two of larger ones, all that is
rounded to it has the same larger ones. -/
theorem scaledUnits_of_not_half {n extra : Nat}
    (hnear : 2 * Nat.dist (n * unitsPerOne) (units * tenTo (places + (extra + 1))) ≤ unitsPerOne)
    (hhalf : 2 * (n % tenTo (extra + 1)) ≠ tenTo (extra + 1)) :
    scaledUnits places units = roundDiv n (tenTo (extra + 1)) := by
  have hround := two_mul_dist_roundDiv_lt (tenTo_pos (extra + 1)) hhalf
  generalize roundDiv n (tenTo (extra + 1)) = k at *
  obtain ⟨half, heven⟩ : ∃ half, tenTo (extra + 1) = 2 * half :=
    ⟨tenTo extra * 5, by rw [tenTo_succ]; omega⟩
  -- The powers of ten are even, so that a distance below half of one is below by one at least.
  have hroom : (Nat.dist (k * tenTo (extra + 1)) n + 1) * unitsPerOne ≤ half * unitsPerOne :=
    Nat.mul_le_mul_right _ (by omega)
  have htriangle := Nat.dist.triangle_inequality (k * tenTo (extra + 1) * unitsPerOne)
    (n * unitsPerOne) (units * tenTo (places + (extra + 1)))
  rw [dist_scaled, Nat.dist_mul_right] at htriangle
  rw [Nat.succ_mul] at hroom
  refine scaledUnits_eq_of_dist (Nat.lt_of_mul_lt_mul_right (a := tenTo (extra + 1)) ?_)
  have hpos := unitsPerOne_pos
  rw [Nat.mul_assoc, Nat.mul_comm unitsPerOne, heven, Nat.mul_assoc 2 half, ← heven]
  omega

end

/-! ## Fields -/

namespace Display

variable {units : Nat}

theorem roundTo_finite (places : Nat) (negative : Bool) (h : Representable units) :
    roundTo places (.finite negative units h) =
      .finite negative (nearestToPlaces places units) (representable_nearestToPlaces h places) := by
  unfold roundTo
  simp only
  split
  · next hmany => simp only [nearestToPlaces_of_many h.precise hmany]
  · exact Binary64.ofRatio_of_lt _ (nearestUnits_scaledUnits_lt h places)

theorem commit_positive (places : Nat) (h : Representable units) :
    commit places (.finite false units h) =
      .finite false (nearestToPlaces places units) (representable_nearestToPlaces h places) := by
  unfold commit
  rw [roundTo_finite]
  split
  · rfl
  · next hzero =>
      have hunits : nearestToPlaces places units = 0 := by
        simpa [Binary64.isFinite, Binary64.isPositive] using hzero
      simp only [hunits]
      rfl

theorem commit_negative (places : Nat) (h : Representable units) :
    commit places (.finite true units h) = .zero := by
  unfold commit
  rw [roundTo_finite]
  rfl

theorem commit_zero (places : Nat) : commit places .zero = .zero := by
  have hunits := nearestToPlaces_of_whole representable_zero (Nat.zero_mul unitsPerOne).symm places
  rw [Binary64.zero, commit_positive]
  simp only [hunits]

theorem commit_commit (places : Nat) (x : Binary64) :
    commit places (commit places x) = commit places x := by
  cases x with
  | nan | infinite _ => exact commit_zero places
  | finite negative units h =>
      cases negative with
      | false => simp only [commit_positive, nearestToPlaces_nearestToPlaces h]
      | true => rw [commit_negative, commit_zero]

end Display

end FieldCalc
