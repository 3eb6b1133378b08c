import FieldCalc.Proofs.Decimal.ReadBack
import Mathlib.Data.Rat.Cast.Order
import Mathlib.Tactic.FieldSimp

/-!
# Canonical decimals

A decimal is written in one way if its whole part has no zero before another digit, its places do
not end with a zero, and zero has no sign. A whole number of `10^-places` is written so when the
zeros at its end go, and what is written is still worth that number.
-/

namespace FieldCalc

open Numeral

/-! ## Digits at the ends -/

theorem head?_toDigits_ne_zero {n : Nat} (h : 0 < n) : (Nat.toDigits 10 n).head? ≠ some '0' := by
  induction n using Nat.strongRecOn with
  | ind n ih =>
      rw [Nat.toDigits_eq_if (by decide)]
      split
      · next hlt =>
          have hdigit : ∀ d < 10, 0 < d → [d.digitChar].head? ≠ some '0' := by decide
          exact hdigit n hlt h
      · rw [List.head?_append_of_ne_nil _ Nat.toDigits_ne_nil]
        exact ih (n / 10) (by omega) (by omega)

theorem getLast?_keptPlaces (places n : Nat) : (keptPlaces places n).getLast? ≠ some '0' := by
  intro h
  obtain ⟨hne, hlast⟩ := List.mem_getLast?_eq_getLast h
  have hstop := List.rdropWhile_last_not (· == '0') _ hne
  exact hstop (beq_iff_eq.mpr hlast.symm)

theorem length_keptPlaces_le (places n : Nat) : (keptPlaces places n).length ≤ places := by
  obtain ⟨count, hplaces, -⟩ := exists_keptPlaces places n
  omega

theorem keptPlaces_zero (places : Nat) : keptPlaces places 0 = [] := by
  have hzeros : ∀ count, lastDigits count 0 = List.replicate count '0' := by
    intro count
    induction count with
    | zero => rfl
    | succ count ih =>
        rw [lastDigits, Nat.zero_div, ih, List.replicate_succ']
        rfl
  rw [keptPlaces, Nat.zero_mod, hzeros, Text.trimEndBy_eq, List.rdropWhile_eq_nil_iff]
  simp

theorem trimmedText_zero (places : Nat) : trimmedText places 0 = ['0'] := by
  rw [trimmedText_eq, keptPlaces_zero, Nat.zero_div]
  rfl

/-! ## Decimals -/

/-- A count with its sign. -/
def signedCount (negative : Bool) (n : Nat) : ℤ := if negative then -n else n

theorem signedCount_mul (negative : Bool) (m n : Nat) :
    signedCount negative (m * n) = signedCount negative m * n := by
  cases negative <;> simp [signedCount]

theorem signedCount_and_ne_zero (negative : Bool) (n : Nat) :
    signedCount (negative && n != 0) n = signedCount negative n := by
  by_cases hzero : n = 0 <;> simp [signedCount, hzero]

theorem natCast_tenTo (places : Nat) : (tenTo places : ℚ) = 10 ^ places := by
  exact_mod_cast rfl

structure CanonicalDecimal where
  negative : Bool
  whole : Text
  places : Text
  wholeDigits : AllDigits whole
  placesDigits : AllDigits places
  wholeNe : whole ≠ []
  wholeHead : whole = ['0'] ∨ whole.head? ≠ some '0'
  placesLast : places.getLast? ≠ some '0'
  signed : negative = true → whole = ['0'] → places ≠ []

namespace CanonicalDecimal

variable (d : CanonicalDecimal)

def unsignedText : Text := d.whole ++ if d.places = [] then [] else '.' :: d.places

def text : Text := if d.negative then '-' :: d.unsignedText else d.unsignedText

def mantissa : Nat := digitsValue (d.whole ++ d.places)

def value : ℚ := signedCount d.negative d.mantissa / 10 ^ d.places.length

theorem isUnsigned_unsignedText : IsUnsigned d.unsignedText :=
  .ofParts d.wholeNe d.wholeDigits d.placesDigits

theorem isNumberText_text : IsNumberText d.text := by
  unfold text
  split
  · exact .negative d.isUnsigned_unsignedText
  · exact .plain d.isUnsigned_unsignedText

theorem mem_text {c : Char} (h : c ∈ d.text) : c = '-' ∨ c = '.' ∨ isAsciiDigit c = true := by
  have hunsigned := d.isUnsigned_unsignedText.digit_or_point
  unfold text at h
  split at h
  · rcases List.mem_cons.mp h with hminus | hc
    · exact .inl hminus
    · exact .inr (hunsigned c hc).symm
  · exact .inr (hunsigned c h).symm

theorem text_ne_minusZero : d.text ≠ ['-', '0'] := by
  intro h
  cases hsign : d.negative with
  | false =>
      have hplain : d.unsignedText = ['-', '0'] := by simpa [text, hsign] using h
      exact d.isUnsigned_unsignedText.ne_minus_cons _ hplain
  | true =>
      have hzero : d.unsignedText = ['0'] := by simpa [text, hsign] using h
      obtain ⟨c, rest, hwhole⟩ := List.exists_cons_of_ne_nil d.wholeNe
      have hplaces : d.places = [] := by
        by_contra hne
        simp [unsignedText, hwhole, hne] at hzero
      exact d.signed hsign (by simpa [unsignedText, hplaces] using hzero) hplaces

theorem read?_text : read? d.text =
    some (Binary64.ofRatio d.negative (d.mantissa * unitsPerOne) (tenTo d.places.length)) := by
  have hunsigned := read?_parts d.wholeNe d.wholeDigits d.placesDigits
  unfold text
  cases d.negative with
  | false => exact hunsigned
  | true =>
      rw [if_pos rfl, read?_minus d.isUnsigned_unsignedText, unsignedText, hunsigned]
      exact congrArg some (Binary64.neg_ofRatio _ _ _)

/-! ## Whole numbers of places -/

/-- The decimal `n / 10^places`, or minus that. -/
def ofCount (negative : Bool) (places n : Nat) : CanonicalDecimal where
  negative := negative && n != 0
  whole := Nat.toDigits 10 (n / tenTo places)
  places := keptPlaces places n
  wholeDigits := allDigits_toDigits _
  placesDigits := allDigits_keptPlaces _ _
  wholeNe := Nat.toDigits_ne_nil
  wholeHead := by
    rcases Nat.eq_zero_or_pos (n / tenTo places) with hzero | hpos
    · rw [hzero]
      exact .inl rfl
    · exact .inr (head?_toDigits_ne_zero hpos)
  placesLast := getLast?_keptPlaces _ _
  signed := by
    intro hsign hwhole hplaces
    obtain ⟨count, -, hn⟩ := exists_keptPlaces places n
    have hnone : digitsValue (['0'] ++ []) = 0 := rfl
    rw [hwhole, hplaces, hnone, Nat.zero_mul] at hn
    simp [hn] at hsign

theorem unsignedText_ofCount (negative : Bool) (places n : Nat) :
    (ofCount negative places n).unsignedText = trimmedText places n :=
  (trimmedText_eq places n).symm

theorem value_ofCount (negative : Bool) (places n : Nat) :
    (ofCount negative places n).value = signedCount negative n / 10 ^ places := by
  obtain ⟨count, hplaces, hn⟩ := exists_keptPlaces places n
  have htens : (10 : ℚ) ^ places = 10 ^ (keptPlaces places n).length * 10 ^ count := by
    rw [← pow_add, ← hplaces]
  have hmantissa : n = (ofCount negative places n).mantissa * tenTo count := hn
  have hcount : signedCount negative n =
      signedCount (negative && n != 0) (ofCount negative places n).mantissa * (tenTo count : ℤ) :=
    calc signedCount negative n
        = signedCount (negative && n != 0) n := (signedCount_and_ne_zero negative n).symm
      _ = _ := congrArg (signedCount _) hmantissa
      _ = _ := signedCount_mul _ _ _
  rw [hcount, htens, Int.cast_mul, Int.cast_natCast, natCast_tenTo,
    mul_div_mul_right _ _ (pow_ne_zero count (by norm_num))]
  rfl

end CanonicalDecimal

namespace Display

theorem text_ofCount (places : Nat) (negative : Bool) (units : Nat) :
    (CanonicalDecimal.ofCount negative places (scaledUnits places units)).text =
      finiteText places negative units := by
  unfold CanonicalDecimal.text finiteText
  rw [CanonicalDecimal.unsignedText_ofCount]
  by_cases hzero : scaledUnits places units = 0
  · simp [CanonicalDecimal.ofCount, hzero, trimmedText_zero]
  · simp [CanonicalDecimal.ofCount, hzero]

end Display

end FieldCalc
