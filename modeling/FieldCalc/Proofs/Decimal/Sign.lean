import FieldCalc.Binary64.Arithmetic
import FieldCalc.Decimal.Numeral
import FieldCalc.Proofs.Text.Trim
import FieldCalc.Proofs.Token.Number

/-!
# Numerals and their sign

Rounding is the same on both sides of zero. A number text with a minus sign therefore spells the
opposite of what it spells without.
-/

namespace FieldCalc

namespace Binary64

theorem neg_ofRatio (negative : Bool) (num den : Nat) :
    (ofRatio negative num den).neg = ofRatio (!negative) num den := by
  unfold ofRatio
  split <;> rfl

theorem sign_of_ofRatio {negative sign : Bool} {num den : Nat}
    (h : ofRatio negative num den = .infinite sign) : sign = negative := by
  unfold ofRatio at h
  split at h
  · cases h
  · exact (infinite.inj h).symm

theorem ofRatio_ne_nan (negative : Bool) (num den : Nat) : ofRatio negative num den ≠ nan := by
  intro h
  unfold ofRatio at h
  split at h <;> cases h

theorem neg_ofDecimal (negative : Bool) (mantissa : Nat) (exponent : Int) :
    (ofDecimal negative mantissa exponent).neg = ofDecimal (!negative) mantissa exponent := by
  cases exponent with
  | ofNat exponent =>
      simp only [ofDecimal]
      split
      · rfl
      · split
        · rfl
        · exact neg_ofRatio _ _ _
  | negSucc exponent =>
      simp only [ofDecimal]
      split
      · rfl
      · exact neg_ofRatio _ _ _

theorem sign_of_ofDecimal {negative sign : Bool} {mantissa : Nat} {exponent : Int}
    (h : ofDecimal negative mantissa exponent = .infinite sign) : sign = negative := by
  cases exponent with
  | ofNat exponent =>
      simp only [ofDecimal] at h
      split at h
      · cases h
      · split at h
        · exact (infinite.inj h).symm
        · exact sign_of_ofRatio h
  | negSucc exponent =>
      simp only [ofDecimal] at h
      split at h
      · cases h
      · exact sign_of_ofRatio h

theorem ofDecimal_ne_nan (negative : Bool) (mantissa : Nat) (exponent : Int) :
    ofDecimal negative mantissa exponent ≠ nan := by
  intro h
  cases exponent with
  | ofNat exponent =>
      simp only [ofDecimal] at h
      split at h
      · cases h
      · split at h
        · cases h
        · exact ofRatio_ne_nan _ _ _ h
  | negSucc exponent =>
      simp only [ofDecimal] at h
      split at h
      · cases h
      · exact ofRatio_ne_nan _ _ _ h

end Binary64

/-! ## Decimal digits -/

theorem exists_zero_of_isDecimalDigit {c : Char} (h : isDecimalDigit c = true) :
    ∃ start ∈ decimalZeros, start ≤ c.toNat ∧ c.toNat < start + 10 := by
  obtain ⟨d, hd⟩ := Option.isSome_iff_exists.mp h
  obtain ⟨start, hfind, -⟩ := Option.map_eq_some_iff.mp hd
  have hrange := List.find?_some hfind
  simp only [Bool.and_eq_true, decide_eq_true_eq] at hrange
  exact ⟨start, List.mem_of_find?_eq_some hfind, hrange⟩

theorem notBlank_of_isDecimalDigit {c : Char} (h : isDecimalDigit c = true) :
    isBlank c = false := by
  have hapart : ∀ start ∈ decimalZeros, ∀ run ∈ blankRanges,
      start + 10 ≤ run.1 ∨ run.2 < start := by decide
  obtain ⟨start, hstart, hle, hlt⟩ := exists_zero_of_isDecimalDigit h
  refine List.any_eq_false.mpr fun run hrun => ?_
  have := hapart start hstart run hrun
  simp only [Bool.and_eq_true, decide_eq_true_eq]
  omega

theorem exists_range_of_otherDigit {c : Char} (h : isDigit c = true)
    (hother : isDecimalDigit c = false) :
    ∃ run ∈ otherDigitRanges, run.1 ≤ c.toNat ∧ c.toNat ≤ run.2 := by
  simpa [isDigit, hother, inRanges] using h

theorem notBlank_of_isDigit {c : Char} (h : isDigit c = true) : isBlank c = false := by
  cases hdecimal : isDecimalDigit c with
  | true => exact notBlank_of_isDecimalDigit hdecimal
  | false =>
      have hapart : ∀ other ∈ otherDigitRanges, ∀ run ∈ blankRanges,
          other.2 < run.1 ∨ run.2 < other.1 := by decide
      obtain ⟨other, hother, hle, hge⟩ := exists_range_of_otherDigit h hdecimal
      refine List.any_eq_false.mpr fun run hrun => ?_
      have := hapart other hother run hrun
      simp only [Bool.and_eq_true, decide_eq_true_eq]
      omega

theorem isAsciiDigit_of_isDecimalDigit {c : Char} (h : isDecimalDigit c = true)
    (hascii : c.toNat < 127) : isAsciiDigit c = true := by
  have hfirst : ∀ start ∈ decimalZeros, start < 127 → start = 48 := by decide
  obtain ⟨start, hstart, hle, hlt⟩ := exists_zero_of_isDecimalDigit h
  have := hfirst start hstart (by omega)
  simp only [isAsciiDigit, Bool.and_eq_true, decide_eq_true_eq]
  omega

namespace Numeral

theorem unsigned?_neg (negative : Bool) (t : Text) :
    (unsigned? negative t).map Binary64.neg = unsigned? (!negative) t := by
  unfold unsigned?
  simp only
  split
  · rfl
  · split
    · rfl
    · cases decimal? t with
      | none => rfl
      | some parts => exact congrArg some (Binary64.neg_ofDecimal negative _ _)

theorem sign_of_unsigned? {negative sign : Bool} {t : Text}
    (h : unsigned? negative t = some (.infinite sign)) : sign = negative := by
  unfold unsigned? at h
  simp only at h
  split at h
  · exact (Binary64.infinite.inj (Option.some.inj h)).symm
  · split at h
    · cases h
    · obtain ⟨parts, -, hparts⟩ := Option.map_eq_some_iff.mp h
      exact Binary64.sign_of_ofDecimal hparts

/-! ## Number texts are in normal form -/

/-- A character that stands for itself in a numeral and is neither a blank nor an underscore. -/
def IsPlain (c : Char) : Prop := isAsciiDigit c = true ∨ c = '.' ∨ c = '-'

theorem IsPlain.toNat {c : Char} (h : IsPlain c) :
    (48 ≤ c.toNat ∧ c.toNat ≤ 57) ∨ c.toNat = 46 ∨ c.toNat = 45 := by
  rcases h with h | rfl | rfl
  · exact .inl (by simpa [isAsciiDigit] using h)
  · exact .inr (.inl rfl)
  · exact .inr (.inr rfl)

theorem IsPlain.plainChar {c : Char} (h : IsPlain c) : plainChar c = c := by
  have hcode := h.toNat
  unfold Numeral.plainChar
  rw [if_pos (by omega)]

theorem IsPlain.notBlank {c : Char} (h : IsPlain c) : isAsciiBlank c = false := by
  have hcode := h.toNat
  simp [isAsciiBlank]
  omega

theorem isAsciiDigit_plainChar {c : Char} (h : isDecimalDigit c = true) :
    isAsciiDigit (plainChar c) = true := by
  unfold plainChar
  split
  · next hascii => exact isAsciiDigit_of_isDecimalDigit h hascii
  · obtain ⟨d, hd⟩ := Option.isSome_iff_exists.mp h
    rw [notBlank_of_isDecimalDigit h, hd]
    exact isAsciiDigit_digitChar ⟨d, decimalValue?_lt hd⟩

/-- A digit without a decimal value becomes a character that no numeral holds. -/
theorem plainChar_of_otherDigit {c : Char} (h : isDigit c = true)
    (hother : isDecimalDigit c = false) : plainChar c = '?' := by
  have hlarge : ∀ run ∈ otherDigitRanges, 127 ≤ run.1 := by decide
  obtain ⟨run, hrun, hle, -⟩ := exists_range_of_otherDigit h hother
  have hcode : ¬c.toNat < 127 := Nat.not_lt.mpr (Nat.le_trans (hlarge run hrun) hle)
  have hvalue : decimalValue? c = none := by simpa [isDecimalDigit] using hother
  simp [plainChar, hcode, notBlank_of_isDigit h, hvalue]

theorem dropUnderscores_of_notMem {t : Text} (h : '_' ∉ t) : dropUnderscores t = some t := by
  fun_induction dropUnderscores t with
  | case1 => rfl
  | case2 => simp at h
  | case3 => simp at h
  | case4 => simp at h
  | case5 c rest _ _ ih => rw [ih fun hmem => h (List.mem_cons_of_mem c hmem)]; rfl

/-- Where nothing is to be trimmed or dropped, reading is splitting off the sign. -/
theorem read?_of_untrimmed {t : Text}
    (h : ∀ c ∈ t.map plainChar, isAsciiBlank c = false ∧ c ≠ '_') :
    read? t = unsigned? (splitSign (t.map plainChar)).1 (splitSign (t.map plainChar)).2 := by
  have htrim := Text.trimBy_of_all_not fun c hc => (h c hc).1
  have hunderscore : '_' ∉ t.map plainChar := fun hmem => (h '_' hmem).2 rfl
  simp only [read?, htrim, dropUnderscores_of_notMem hunderscore]
  rfl

theorem IsPlain.ne_underscore {c : Char} (h : IsPlain c) : c ≠ '_' := by
  rintro rfl
  rcases h with h | h | h <;> contradiction

theorem read?_of_plain {t : Text} (h : ∀ c ∈ t, IsPlain (plainChar c)) :
    read? t = unsigned? (splitSign (t.map plainChar)).1 (splitSign (t.map plainChar)).2 := by
  refine read?_of_untrimmed fun c hc => ?_
  obtain ⟨d, hd, rfl⟩ := List.mem_map.mp hc
  exact ⟨(h d hd).notBlank, (h d hd).ne_underscore⟩

theorem read?_of_all_plain {t : Text} (h : ∀ c ∈ t, IsPlain c) :
    read? t = unsigned? (splitSign t).1 (splitSign t).2 := by
  have hmap : t.map plainChar = t :=
    (List.map_congr_left fun c hc => (h c hc).plainChar).trans t.map_id
  rw [read?_of_plain fun c hc => (h c hc).plainChar.symm ▸ h c hc, hmap]

theorem isPlain_of_isUnsigned {t : Text} (h : IsUnsigned t) : ∀ c ∈ t, IsPlain c := by
  intro c hc
  rcases h.digit_or_point c hc with hdigit | hpoint
  · exact .inl hdigit
  · exact .inr (.inl hpoint)

theorem splitSign_of_isUnsigned {t : Text} (h : IsUnsigned t) : splitSign t = (false, t) := by
  obtain ⟨c, rest, rfl, hc⟩ := h.head_digit
  unfold splitSign
  split
  · next heq =>
      rw [(List.cons.inj heq).1] at hc
      contradiction
  · next heq =>
      rw [(List.cons.inj heq).1] at hc
      contradiction
  · rfl

/-- A minus sign before a number text negates what it spells. -/
theorem read?_minus {t : Text} (h : IsUnsigned t) :
    read? ('-' :: t) = (read? t).map Binary64.neg := by
  have hplain := isPlain_of_isUnsigned h
  have hnegative : ∀ c ∈ '-' :: t, IsPlain c := by
    intro c hc
    rcases List.mem_cons.mp hc with rfl | hc
    · exact .inr (.inr rfl)
    · exact hplain c hc
  rw [read?_of_all_plain hplain, read?_of_all_plain hnegative, splitSign_of_isUnsigned h,
    unsigned?_neg]
  rfl

theorem read?_flipSign {t : Text} (h : IsNumberText t) :
    read? (Buffer.flipSign t) = (read? t).map Binary64.neg := by
  cases h with
  | plain unsigned => rw [unsigned.flipSign, read?_minus unsigned]
  | @negative t unsigned =>
      rw [Buffer.flipSign, read?_minus unsigned, Option.map_map]
      cases read? t with
      | none => rfl
      | some x => rw [Option.map_some, Function.comp_apply, Binary64.neg_neg]

end Numeral

end FieldCalc
