import FieldCalc.Proofs.Decimal.ReadBack
import FieldCalc.Proofs.Display.Plain
import FieldCalc.Proofs.Display.Rounding

/-!
# What is shown is read back rounded

A display text is a plain number, and reading it gives the number rounded to the places shown.
Only the sign of a zero is lost.
-/

namespace FieldCalc

/-! ## Number texts are plain numbers -/

theorem notBlank_of_isNumberText {t : Text} (h : IsNumberText t) : ∀ c ∈ t, isBlank c = false := by
  have hunsigned : ∀ {u : Text}, IsUnsigned u → ∀ c ∈ u, isBlank c = false := by
    intro u hu c hc
    rcases hu.digit_or_point c hc with hdigit | rfl
    · exact notBlank_of_isDecimalDigit (isDecimalDigit_of_isAsciiDigit hdigit)
    · decide
  intro c hc
  cases h with
  | plain unsigned => exact hunsigned unsigned c hc
  | negative unsigned =>
      rcases List.mem_cons.mp hc with rfl | hc
      · decide
      · exact hunsigned unsigned c hc

namespace Display

theorem isPlainUnsigned_of_isUnsigned {t : Text} (h : IsUnsigned t) :
    isPlainUnsigned t = true := by
  have hdecimal : ∀ {u : Text}, AllDigits u → ∀ c ∈ u, isDecimalDigit c = true :=
    fun hu c hc => isDecimalDigit_of_isAsciiDigit (hu c hc)
  cases h with
  | whole ne all => exact isPlainUnsigned_digits ne (hdecimal all)
  | pointed ne all allPlaces =>
      exact isPlainUnsigned_pointed (.inl ne) (hdecimal all) (hdecimal allPlaces)

theorem isPlain_of_isNumberText {t : Text} (h : IsNumberText t) : isPlain t = true := by
  cases h with
  | negative unsigned => exact isPlainUnsigned_of_isUnsigned unsigned
  | plain unsigned =>
      unfold isPlain
      split
      · exact absurd rfl (unsigned.ne_minus_cons _)
      · exact isPlainUnsigned_of_isUnsigned unsigned

theorem plainNumber?_of_isNumberText {t : Text} (h : IsNumberText t) :
    plainNumber? t = Numeral.read? t := by
  have htrim : t.trim = t := Text.trimBy_of_all_not (notBlank_of_isNumberText h)
  rw [plainNumber?, htrim, if_pos (isPlain_of_isNumberText h)]

/-! ## Display texts -/

theorem nearestToPlaces_exactPlaces {units : Nat} (h : Representable units) (places : Nat) :
    nearestToPlaces (min places exactPlaces) units = nearestToPlaces places units := by
  rcases Nat.le_total places exactPlaces with hfew | hmany
  · rw [Nat.min_eq_left hfew]
  · rw [Nat.min_eq_right hmany, nearestToPlaces_of_many h.precise (by decide),
      nearestToPlaces_of_many h.precise (Nat.lt_of_lt_of_le (by decide) hmany)]

theorem read?_zero : Numeral.read? ['0'] = some .zero := by
  rw [Numeral.read?_of_isUnsigned (.digit rfl),
    Numeral.decimal?_digits (List.cons_ne_nil _ _) (AllDigits.concat .nil rfl)]
  rfl

theorem nearestToPlaces_of_scaledUnits {places units : Nat} (h : scaledUnits places units = 0) :
    nearestToPlaces places units = 0 := by
  rw [nearestToPlaces, h, Nat.zero_mul, nearestUnits_eq_zero (tenTo_pos places)]

theorem plainNumber?_finiteText (places : Nat) {units : Nat} (h : Representable units)
    (negative : Bool) : plainNumber? (finiteText places negative units) =
      some (.finite (negative && scaledUnits places units != 0) (nearestToPlaces places units)
        (representable_nearestToPlaces h places)) := by
  have hratio : ∀ sign, Binary64.ofRatio sign (scaledUnits places units * unitsPerOne)
      (tenTo places) = .finite sign (nearestToPlaces places units)
        (representable_nearestToPlaces h places) :=
    fun sign => Binary64.ofRatio_of_lt sign (nearestUnits_scaledUnits_lt h places)
  rw [plainNumber?_of_isNumberText (isNumberText_finiteText places negative units), finiteText]
  split
  · next hzero =>
      simp only [read?_zero, hzero, nearestToPlaces_of_scaledUnits hzero, bne_self_eq_false,
        Bool.and_false]
      rfl
  · next hne =>
      have hsign : (scaledUnits places units != 0) = true := by simpa using hne
      rw [hsign, Bool.and_true, ← hratio]
      cases negative with
      | false => exact Numeral.read?_trimmedText _ _
      | true =>
          rw [if_pos rfl, Numeral.read?_minus (isUnsigned_trimmedText _ _),
            Numeral.read?_trimmedText]
          exact congrArg some (Binary64.neg_ofRatio _ _ _)

/-- The number read is rounded to the same count of places, and shown as zero where that is zero. -/
theorem finiteText_nearestToPlaces {units : Nat} (h : Representable units) (places : Nat)
    (negative : Bool) :
    finiteText places (negative && scaledUnits places units != 0) (nearestToPlaces places units) =
      finiteText places negative units := by
  unfold finiteText
  rw [scaledUnits_nearestToPlaces h]
  by_cases hzero : scaledUnits places units = 0 <;> simp [hzero]

theorem format_of_read {places : Nat} {x : Binary64} {t : Text} (hx : x.isFinite = true)
    (h : format places x = .ok t) :
    ∃ y, plainNumber? t = some y ∧ y.isFinite = true ∧ format places y = .ok t := by
  cases x with
  | nan | infinite _ => cases hx
  | finite negative units hunits =>
      obtain ⟨hshown, rfl⟩ := format_finite_eq_ok_iff.mp h
      refine ⟨_, plainNumber?_finiteText _ hunits negative, rfl, ?_⟩
      exact format_finite_eq_ok_iff.mpr ⟨hshown, finiteText_nearestToPlaces hunits _ negative⟩

/-- What a field takes from a display is what it takes from the number rounded to the places
shown. -/
theorem commit_readBack {places : Nat} {x : Binary64} {t : Text} (hx : x.isFinite = true)
    (h : format places x = .ok t) : ∃ y, plainNumber? t = some y ∧
      ∀ fieldPlaces,
        commit fieldPlaces y = commit fieldPlaces (roundTo (shownPlaces places) x) := by
  cases x with
  | nan | infinite _ => cases hx
  | finite negative units hunits =>
      obtain ⟨-, rfl⟩ := format_finite_eq_ok_iff.mp h
      refine ⟨_, plainNumber?_finiteText _ hunits negative, fun fieldPlaces => ?_⟩
      simp only [roundTo_finite, nearestToPlaces_exactPlaces hunits]
      cases negative with
      | false => rfl
      | true =>
          -- A field takes nothing of a negative number, and a zero without its sign.
          rw [commit_negative, Bool.true_and]
          cases hsign : scaledUnits (min (shownPlaces places) exactPlaces) units != 0 with
          | true => exact commit_negative _ _
          | false =>
              have hzero := nearestToPlaces_of_scaledUnits (by simpa using hsign)
              rw [nearestToPlaces_exactPlaces hunits] at hzero
              simp only [hzero]
              exact commit_zero fieldPlaces

end Display

end FieldCalc
