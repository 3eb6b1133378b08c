import FieldCalc.Proofs.Decimal.Sign

/-!
# Number texts spell numbers

A number text never fails to be read: its digits, with or without a point, are a decimal, and
the sign before them changes only the sign of what they spell. None of them spells NaN.
-/

namespace FieldCalc.Numeral

theorem decimal?_digits {digits : Text} (ne : digits ≠ []) (all : AllDigits digits) :
    decimal? digits = some (digitsValue digits, 0) := by
  have htake := List.takeWhile_eq_self_iff.mpr all
  have hdrop := List.dropWhile_eq_nil_iff.mpr all
  simp only [decimal?, htake, hdrop, splitFraction, ne, false_and, if_false, exponent?,
    List.append_nil]
  rfl

theorem decimal?_pointed {digits places : Text} (ne : digits ≠ [] ∨ places ≠ [])
    (all : AllDigits digits) (allPlaces : AllDigits places) : decimal? (digits ++ '.' :: places) =
      some (digitsValue (digits ++ places), -(places.length : Int)) := by
  have hdigits : ¬(digits = [] ∧ places = []) := not_and_or.mpr ne
  have htakePlaces := List.takeWhile_eq_self_iff.mpr allPlaces
  have hdropPlaces := List.dropWhile_eq_nil_iff.mpr allPlaces
  have htake : (digits ++ '.' :: places).takeWhile isAsciiDigit = digits := by
    rw [List.takeWhile_append_of_pos all]
    simp [isAsciiDigit]
  have hdrop : (digits ++ '.' :: places).dropWhile isAsciiDigit = '.' :: places := by
    rw [List.dropWhile_append_of_pos all]
    simp [isAsciiDigit]
  simp only [decimal?, htake, hdrop, splitFraction, htakePlaces, hdropPlaces, hdigits, if_false,
    exponent?, Option.map_some, Int.zero_sub]

theorem exponent?_eq_some {t : Text} {e : Int} (h : exponent? t = some e) :
    ∀ c ∈ t.head?, c = 'e' ∨ c = 'E' := by
  cases t with
  | nil => nofun
  | cons c rest =>
      rintro d ⟨⟩
      by_contra hletter
      simp [exponent?, hletter] at h

/-- Without the mark of an exponent, a decimal holds nothing but digits and points. -/
theorem digit_or_point_of_decimal? {t : Text} {parts : Nat × Int} (h : decimal? t = some parts)
    (hletter : ∀ c ∈ t, c ≠ 'e' ∧ c ≠ 'E') : ∀ c ∈ t, isAsciiDigit c = true ∨ c = '.' := by
  have hwhole : ∀ c ∈ t.takeWhile isAsciiDigit, isAsciiDigit c = true :=
    fun c hc => List.mem_takeWhile_imp hc
  have ht := List.takeWhile_append_dropWhile (p := isAsciiDigit) (l := t)
  -- What follows the digits and the places is no exponent, so nothing follows them.
  have hend : ∀ {rest : Text} {e : Int}, rest <:+ t.dropWhile isAsciiDigit →
      exponent? rest = some e → rest = [] := by
    intro rest e hsuffix hexponent
    cases rest with
    | nil => rfl
    | cons c rest =>
        have hmem := (hsuffix.trans (List.dropWhile_suffix _)).subset List.mem_cons_self
        exact absurd (exponent?_eq_some hexponent c rfl) (not_or.mpr (hletter c hmem))
  simp only [decimal?] at h
  split at h
  · cases h
  · obtain ⟨e, he, -⟩ := Option.map_eq_some_iff.mp h
    intro c hc
    rw [← ht] at hc
    rcases List.mem_append.mp hc with hc | hc
    · exact .inl (hwhole c hc)
    · cases hdrop : t.dropWhile isAsciiDigit with
      | nil => simp [hdrop] at hc
      | cons d places =>
          rw [hdrop] at he hc hend
          by_cases hpoint : d = '.'
          · subst hpoint
            have hnil := hend ((List.dropWhile_suffix _).trans (List.suffix_cons _ _)) he
            have hplaces := List.dropWhile_eq_nil_iff.mp hnil
            rcases List.mem_cons.mp hc with rfl | hc
            · exact .inr rfl
            · exact .inl (hplaces c hc)
          · have hsplit : splitFraction (d :: places) = ([], d :: places) := by
              simp [splitFraction, hpoint]
            rw [hsplit] at he
            exact absurd (hend (List.suffix_refl _) he) (List.cons_ne_nil _ _)

theorem decimal?_of_isUnsigned {t : Text} (h : IsUnsigned t) :
    ∃ parts, decimal? t = some parts := by
  cases h with
  | whole ne all => exact ⟨_, decimal?_digits ne all⟩
  | pointed ne all allPlaces => exact ⟨_, decimal?_pointed (.inl ne) all allPlaces⟩

theorem unsigned?_of_notWord {t : Text}
    (h : ∀ c ∈ t.head?, c.toLower ≠ 'i' ∧ c.toLower ≠ 'n') (negative : Bool) :
    unsigned? negative t =
      (decimal? t).map fun (mantissa, e) => Binary64.ofDecimal negative mantissa e := by
  cases t with
  | nil => rfl
  | cons c rest =>
      obtain ⟨hi, hn⟩ := h c rfl
      simp [unsigned?, hi, hn]

/-- None of the words that a numeral may be starts with a digit. -/
theorem unsigned?_of_isUnsigned {t : Text} (h : IsUnsigned t) (negative : Bool) :
    unsigned? negative t =
      (decimal? t).map fun (mantissa, e) => Binary64.ofDecimal negative mantissa e := by
  obtain ⟨c, rest, rfl, hc⟩ := h.head_digit
  obtain ⟨d, rfl⟩ := exists_digitChar hc
  have hhead : ∀ d : Fin 10, (digitChar d).toLower ≠ 'i' ∧ (digitChar d).toLower ≠ 'n' := by
    decide
  refine unsigned?_of_notWord ?_ negative
  rintro c ⟨⟩
  exact hhead d

theorem read?_of_isUnsigned {t : Text} (h : IsUnsigned t) : read? t =
    (decimal? t).map fun (mantissa, e) => Binary64.ofDecimal false mantissa e := by
  rw [read?_of_all_plain (isPlain_of_isUnsigned h), splitSign_of_isUnsigned h,
    unsigned?_of_isUnsigned h]

theorem read?_of_isNumberText {t : Text} (h : IsNumberText t) : ∃ x, read? t = some x := by
  have hread : ∀ {u : Text}, IsUnsigned u → ∃ x, read? u = some x := by
    intro u hu
    obtain ⟨parts, hparts⟩ := decimal?_of_isUnsigned hu
    rw [read?_of_isUnsigned hu, hparts]
    exact ⟨_, rfl⟩
  cases h with
  | plain unsigned => exact hread unsigned
  | negative unsigned =>
      obtain ⟨x, hx⟩ := hread unsigned
      exact ⟨x.neg, by rw [read?_minus unsigned, hx]; rfl⟩

theorem read?_ne_nan {t : Text} (h : IsNumberText t) : read? t ≠ some .nan := by
  have hunsigned : ∀ {u : Text}, IsUnsigned u → read? u ≠ some .nan := by
    intro u hu hread
    rw [read?_of_isUnsigned hu] at hread
    obtain ⟨parts, -, hparts⟩ := Option.map_eq_some_iff.mp hread
    exact Binary64.ofDecimal_ne_nan _ _ _ hparts
  cases h with
  | plain unsigned => exact hunsigned unsigned
  | negative unsigned =>
      intro hread
      rw [read?_minus unsigned] at hread
      obtain ⟨x, hx, hneg⟩ := Option.map_eq_some_iff.mp hread
      obtain rfl : x = .nan := by rw [← Binary64.neg_neg x, hneg]; rfl
      exact hunsigned unsigned hx

end FieldCalc.Numeral
