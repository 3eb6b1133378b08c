import FieldCalc.Display
import FieldCalc.Proofs.Decimal.Readable

/-!
# Plain numbers are read

The test for a plain number takes the digits of every script, and so does the reading of numerals:
a text that passes the test spells a number.
-/

namespace FieldCalc

namespace Numeral

theorem unsigned?_of_decimal? {t : Text} {parts : Nat × Int} (h : decimal? t = some parts)
    (negative : Bool) : ∃ x, unsigned? negative t = some x := by
  simp only [unsigned?, h]
  split
  · exact ⟨_, rfl⟩
  · split
    · exact ⟨_, rfl⟩
    · exact ⟨_, rfl⟩

theorem splitSign_of_notSign {t : Text} (h : ∀ c ∈ t.head?, c ≠ '-' ∧ c ≠ '+') :
    splitSign t = (false, t) := by
  unfold splitSign
  split
  · exact absurd rfl (h '-' rfl).1
  · exact absurd rfl (h '+' rfl).2
  · rfl

theorem splitSign_of_digit_or_point {t : Text}
    (h : ∀ c ∈ t.head?, isAsciiDigit c = true ∨ c = '.') : splitSign t = (false, t) := by
  refine splitSign_of_notSign fun c hc => ⟨?_, ?_⟩
  all_goals
    rintro rfl
    exact absurd (h _ hc) (by decide)

theorem allDigits_map_plainChar {t : Text} (h : ∀ c ∈ t, isDecimalDigit c = true) :
    AllDigits (t.map plainChar) := by
  intro c hc
  obtain ⟨d, hd, rfl⟩ := List.mem_map.mp hc
  exact isAsciiDigit_plainChar (h d hd)

theorem plainChar_point : plainChar '.' = '.' := by decide

end Numeral

namespace Display

open Numeral

theorem isPlainUnsigned_digits {t : Text} (ne : t ≠ [])
    (all : ∀ c ∈ t, isDecimalDigit c = true) : isPlainUnsigned t = true := by
  have htake := List.takeWhile_eq_self_iff.mpr all
  have hdrop := List.dropWhile_eq_nil_iff.mpr all
  simp [isPlainUnsigned, htake, hdrop, ne]

theorem isPlainUnsigned_pointed {digits places : Text} (ne : digits ≠ [] ∨ places ≠ [])
    (all : ∀ c ∈ digits, isDecimalDigit c = true)
    (allPlaces : ∀ c ∈ places, isDecimalDigit c = true) :
    isPlainUnsigned (digits ++ '.' :: places) = true := by
  have htake : (digits ++ '.' :: places).takeWhile isDecimalDigit = digits := by
    rw [List.takeWhile_append_of_pos all, List.takeWhile_cons_of_neg (by decide), List.append_nil]
  have hdrop : (digits ++ '.' :: places).dropWhile isDecimalDigit = '.' :: places := by
    rw [List.dropWhile_append_of_pos all, List.dropWhile_cons_of_neg (by decide)]
  have hplaces : places.all isDecimalDigit = true := List.all_eq_true.mpr allPlaces
  simpa [isPlainUnsigned, htake, hdrop, hplaces] using ne

/-- A plain number is digits, or digits around a point that are not both missing. -/
theorem isPlainUnsigned_cases {t : Text} (h : isPlainUnsigned t = true) :
    (t ≠ [] ∧ ∀ c ∈ t, isDecimalDigit c = true) ∨
      ∃ digits places, t = digits ++ '.' :: places ∧ (digits ≠ [] ∨ places ≠ []) ∧
        (∀ c ∈ digits, isDecimalDigit c = true) ∧ ∀ c ∈ places, isDecimalDigit c = true := by
  have hwhole : ∀ c ∈ t.takeWhile isDecimalDigit, isDecimalDigit c = true :=
    fun c hc => List.mem_takeWhile_imp hc
  have ht := List.takeWhile_append_dropWhile (p := isDecimalDigit) (l := t)
  unfold isPlainUnsigned at h
  simp only at h
  split at h
  · next hrest =>
      rw [hrest, List.append_nil] at ht
      rw [ht] at hwhole h
      exact .inl ⟨by simpa using h, hwhole⟩
  · next c places hrest =>
      simp only [Bool.and_eq_true, beq_iff_eq, List.all_eq_true] at h
      obtain ⟨⟨rfl, hplaces⟩, hsome⟩ := h
      rw [hrest] at ht
      refine .inr ⟨_, places, ht.symm, ?_, hwhole, hplaces⟩
      simpa [not_and_or] using hsome

theorem exists_decimal? {t : Text} (h : isPlainUnsigned t = true) :
    ∃ parts, decimal? (t.map plainChar) = some parts := by
  rcases isPlainUnsigned_cases h with ⟨hne, hall⟩ | ⟨digits, places, rfl, hsome, hdigits, hplaces⟩
  · exact ⟨_, decimal?_digits (by simpa using hne) (allDigits_map_plainChar hall)⟩
  · rw [List.map_append, List.map_cons, plainChar_point]
    exact ⟨_, decimal?_pointed (by simpa using hsome) (allDigits_map_plainChar hdigits)
      (allDigits_map_plainChar hplaces)⟩

theorem digit_or_point_of_isPlainUnsigned {t : Text} (h : isPlainUnsigned t = true) :
    ∀ c ∈ t, isDecimalDigit c = true ∨ c = '.' := by
  rcases isPlainUnsigned_cases h with ⟨-, hall⟩ | ⟨digits, places, rfl, -, hdigits, hplaces⟩
  · exact fun c hc => .inl (hall c hc)
  · intro c hc
    rcases List.mem_append.mp hc with hc | hc
    · exact .inl (hdigits c hc)
    · rcases List.mem_cons.mp hc with rfl | hc
      · exact .inr rfl
      · exact .inl (hplaces c hc)

/-- The characters of a plain number, once each digit is written in ASCII. -/
theorem digit_or_point_of_mem_map {t : Text} (h : isPlainUnsigned t = true) :
    ∀ c ∈ t.map plainChar, isAsciiDigit c = true ∨ c = '.' := by
  intro c hc
  obtain ⟨d, hd, rfl⟩ := List.mem_map.mp hc
  rcases digit_or_point_of_isPlainUnsigned h d hd with hdigit | rfl
  · exact .inl (isAsciiDigit_plainChar hdigit)
  · exact .inr plainChar_point

/-- Where a plain number is read, only its sign is split off. -/
theorem read?_of_isPlainUnsigned {t : Text} (h : isPlainUnsigned t = true) :
    Numeral.read? t = unsigned? false (t.map plainChar) ∧
      Numeral.read? ('-' :: t) = unsigned? true (t.map plainChar) := by
  have hmap := digit_or_point_of_mem_map h
  have hplain : ∀ c ∈ t, IsPlain (plainChar c) := by
    intro c hc
    rcases hmap _ (List.mem_map_of_mem hc) with hdigit | hpoint
    · exact .inl hdigit
    · exact .inr (.inl hpoint)
  have hminus : ∀ c ∈ '-' :: t, IsPlain (plainChar c) := by
    intro c hc
    rcases List.mem_cons.mp hc with rfl | hc
    · exact .inr (.inr rfl)
    · exact hplain c hc
  rw [read?_of_plain hplain, read?_of_plain hminus,
    splitSign_of_digit_or_point fun c hc => hmap c (List.mem_of_mem_head? hc)]
  exact ⟨rfl, rfl⟩

theorem read?_minus_of_isPlainUnsigned {t : Text} (h : isPlainUnsigned t = true) :
    Numeral.read? ('-' :: t) = (Numeral.read? t).map Binary64.neg := by
  obtain ⟨hplus, hminus⟩ := read?_of_isPlainUnsigned h
  rw [hplus, hminus, unsigned?_neg]
  rfl

theorem read?_of_isPlain {t : Text} (h : isPlain t = true) : ∃ x, Numeral.read? t = some x := by
  unfold isPlain at h
  split at h
  · obtain ⟨parts, hparts⟩ := exists_decimal? h
    rw [(read?_of_isPlainUnsigned h).2]
    exact unsigned?_of_decimal? hparts true
  · obtain ⟨parts, hparts⟩ := exists_decimal? h
    rw [(read?_of_isPlainUnsigned h).1]
    exact unsigned?_of_decimal? hparts false

/-- A minus sign leaves no plain number that is positive infinity. -/
theorem isPlainUnsigned_of_infinite {t : Text} (h : isPlain t = true)
    (hread : Numeral.read? t = some (.infinite false)) : isPlainUnsigned t = true := by
  unfold isPlain at h
  split at h
  · rw [(read?_of_isPlainUnsigned h).2] at hread
    cases sign_of_unsigned? hread
  · exact h

end Display

end FieldCalc
