import FieldCalc.Proofs.Decimal.Nearest
import FieldCalc.Proofs.Decimal.Unique
import FieldCalc.Proofs.Display.ReadBack
import FieldCalc.Proofs.Session.LoneNumber

/-!
# Display texts are nearest decimals

A finite number is shown as the canonical text of the nearest whole number of the least places
shown. Places that no number has are not written; they would be zeros.
-/

namespace FieldCalc

open CanonicalDecimal

/-! ## Places beyond the exact ones -/

/-- With that many places a number is exact. -/
theorem unitsPerOne_dvd_mul_tenTo {places : Nat} (h : unitBits ≤ places) (units : Nat) :
    unitsPerOne ∣ units * tenTo places := by
  have hpower : 2 ^ places ∣ tenTo places := pow_dvd_pow_of_dvd (by decide : 2 ∣ 10) places
  rw [unitsPerOne_eq]
  exact (((pow_dvd_pow 2 h).trans hpower)).mul_left units

theorem scaledUnits_add_of_dvd {places units : Nat} (h : unitsPerOne ∣ units * tenTo places)
    (extra : Nat) : scaledUnits (places + extra) units = scaledUnits places units * tenTo extra := by
  obtain ⟨n, hn⟩ := h
  rw [scaledUnits, scaledUnits, tenTo_add, ← Nat.mul_assoc, hn, Nat.mul_comm unitsPerOne,
    Nat.mul_right_comm, roundDiv_mul_self _ unitsPerOne_pos, roundDiv_mul_self _ unitsPerOne_pos]

theorem isNearest_scaledUnits (places units : Nat) (negative : Bool) :
    IsNearest (signedCount negative (scaledUnits places units))
      (signedCount negative units / unitsPerOne * 10 ^ places) := by
  have hscale : (signedCount negative units : ℚ) / unitsPerOne * 10 ^ places =
      (signedCount negative (units * tenTo places) : ℤ) / (unitsPerOne : ℕ) := by
    rw [signedCount_mul, Int.cast_mul, Int.cast_natCast, natCast_tenTo, div_mul_eq_mul_div]
  rw [hscale]
  exact isNearest_roundDiv negative _ unitsPerOne_pos

namespace Display

variable {places : Nat}

/-- The decimal that a finite number is shown as. -/
def shownDecimal (places : Nat) (negative : Bool) (units : Nat) : CanonicalDecimal :=
  .ofCount negative (min (shownPlaces places) exactPlaces)
    (scaledUnits (min (shownPlaces places) exactPlaces) units)

theorem length_places_shownDecimal (places : Nat) (negative : Bool) (units : Nat) :
    (shownDecimal places negative units).places.length ≤ shownPlaces places :=
  (length_keptPlaces_le _ _).trans (Nat.min_le_left _ _)

/-- The places that are not written are zeros. -/
theorem value_shownDecimal (places : Nat) (negative : Bool) (units : Nat) :
    (shownDecimal places negative units).value =
      signedCount negative (scaledUnits (shownPlaces places) units) / 10 ^ shownPlaces places := by
  rw [shownDecimal, value_ofCount]
  generalize shownPlaces places = asked
  rcases Nat.le_total asked exactPlaces with hfew | hmany
  · rw [Nat.min_eq_left hfew]
  · obtain ⟨extra, rfl⟩ := Nat.exists_eq_add_of_le hmany
    have hexact := scaledUnits_add_of_dvd
      (@unitsPerOne_dvd_mul_tenTo exactPlaces Nat.le.refl units) extra
    rw [Nat.min_eq_right hmany, hexact, signedCount_mul, Int.cast_mul, Int.cast_natCast,
      natCast_tenTo, pow_add, mul_div_mul_right _ _ (pow_ne_zero extra (by norm_num))]

theorem format_finite (h : places ≤ maxShownPlaces) (negative : Bool) {units : Nat}
    (hunits : Representable units) :
    format places (.finite negative units hunits) = .ok (shownDecimal places negative units).text :=
  format_finite_eq_ok_iff.mpr ⟨h, (text_ofCount _ negative units).symm⟩

theorem exists_shownDecimal (h : places ≤ maxShownPlaces) {x : Binary64} (hx : x.isFinite = true) :
    ∃ d : CanonicalDecimal, format places x = .ok d.text := by
  obtain ⟨negative, _, hunits, rfl⟩ := Binary64.exists_eq_finite hx
  exact ⟨_, format_finite h negative hunits⟩

theorem exists_plainNumber? {t : Text} (h : IsNumberText t) : ∃ x, plainNumber? t = some x := by
  rw [plainNumber?_of_isNumberText h]
  exact Numeral.read?_of_isNumberText h

theorem notNumberText_errorText : ¬IsNumberText errorText := by
  intro h
  obtain ⟨x, hx⟩ := exists_plainNumber? h
  rw [plainNumber?_errorText] at hx
  cases hx

theorem exists_nearestDecimal (h : places ≤ maxShownPlaces) {x : Binary64} {q : ℚ}
    (hq : x.toRat? = some q) : ∃ d : CanonicalDecimal, format places x = .ok d.text ∧
      d.places.length ≤ shownPlaces places ∧ ∃ n : ℤ,
        d.value = n / 10 ^ shownPlaces places ∧ IsNearest n (q * 10 ^ shownPlaces places) := by
  obtain ⟨negative, units, hunits, rfl, rfl⟩ := Binary64.exists_of_toRat? hq
  exact ⟨_, format_finite h negative hunits, length_places_shownDecimal _ _ _, _,
    value_shownDecimal _ _ _, isNearest_scaledUnits _ units negative⟩

/-- How a number is shown with the given places. -/
structure ShowsNearest (places : Nat) (x : Binary64) : Prop where
  nearest : ∀ q, x.toRat? = some q → ∃ d : CanonicalDecimal, format places x = .ok d.text ∧
    d.places.length ≤ shownPlaces places ∧ ∃ n : ℤ,
      d.value = n / 10 ^ shownPlaces places ∧ IsNearest n (q * 10 ^ shownPlaces places)
  only : ∀ q, x.toRat? = some q → ∀ (d : CanonicalDecimal) (n : ℤ),
    d.value = n / 10 ^ shownPlaces places → IsNearest n (q * 10 ^ shownPlaces places) →
      format places x = .ok d.text
  accepted : x.isFinite = true → ∃ t y, format places x = .ok t ∧ IsNumberText t ∧
    plainNumber? t = some y ∧ t ≠ [] ∧ t ≠ ['-', '0'] ∧
      ∀ c ∈ t, c = '-' ∨ c = '.' ∨ isAsciiDigit c = true
  otherwise : x.isFinite = false → format places x = .ok errorText ∧
    ¬IsNumberText errorText ∧ plainNumber? errorText = none

/-- A finite number is shown as the one canonical text of the nearest whole number of places, which
is always a plain number. Any other is shown as an error, which never is. -/
theorem showsNearest (h : places ≤ maxShownPlaces) (x : Binary64) : ShowsNearest places x where
  nearest _ hq := exists_nearestDecimal h hq
  only _ hq d n hvalue hnear := by
    obtain ⟨e, hformat, -, m, hother, hnearest⟩ := exists_nearestDecimal h hq
    obtain rfl := hnearest.unique hnear
    obtain rfl := eq_of_value_eq (hvalue.trans hother.symm)
    exact hformat
  accepted hx := by
    obtain ⟨d, hformat⟩ := exists_shownDecimal h hx
    have hspelled := d.isNumberText_text
    obtain ⟨y, hy⟩ := exists_plainNumber? hspelled
    exact ⟨_, y, hformat, hspelled, hy, hspelled.ne_nil, d.text_ne_minusZero, fun c => d.mem_text⟩
  otherwise hx := by
    cases x with
    | nan | infinite _ => exact ⟨rfl, notNumberText_errorText, plainNumber?_errorText⟩
    | finite => cases hx

/-- A carry goes through every digit, and the zeros that it leaves are not shown. -/
theorem showsNearest_carry : 2 ≤ maxShownPlaces ∧
    ShowsNearest 2 (Binary64.ofDecimal true 99999999 (-7)) ∧
      (format 2 (Binary64.ofDecimal true 99999999 (-7))).toOption = some "-10".toList :=
  ⟨by decide, showsNearest (by decide) _, by decide +kernel⟩

end Display

end FieldCalc
