import FieldCalc.Proofs.Display.Plain
import FieldCalc.Proofs.Expression.Failure
import FieldCalc.Proofs.Expression.Relex

/-!
# Plain numbers among expressions

A plain number is an expression of the same value, except that an expression has no infinite one.
The other way round, a text without operators and parentheses that has a value is a plain number:
its digits are decimal ones, since no numeral is read from others, and there is only one run of
them, since a phrase without symbols is a number by itself.
-/

namespace FieldCalc

open Token

/-! ## Digits that can be read -/

namespace Numeral

theorem plainChar_of_isNumberChar {c : Char} (h : Expression.isNumberChar c = true) :
    ((isDecimalDigit c = true ∨ c = '.') ∧
      (isAsciiDigit (plainChar c) = true ∨ plainChar c = '.')) ∨ plainChar c = '?' := by
  rcases Bool.or_eq_true_iff.mp h with hdigit | hpoint
  · cases hdecimal : isDecimalDigit c with
    | true => exact .inl ⟨.inl rfl, .inl (isAsciiDigit_plainChar hdecimal)⟩
    | false => exact .inr (plainChar_of_otherDigit hdigit hdecimal)
  · rw [beq_iff_eq.mp hpoint]
    exact .inl ⟨.inr rfl, .inr plainChar_point⟩

theorem apart_of_mark {c : Char} (h : isAsciiDigit c = true ∨ c = '.' ∨ c = '?') :
    (isAsciiBlank c = false ∧ c ≠ '_') ∧ (c ≠ '-' ∧ c ≠ '+') ∧
      (c.toLower ≠ 'i' ∧ c.toLower ≠ 'n') ∧ c ≠ 'e' ∧ c ≠ 'E' := by
  rcases h with hdigit | rfl | rfl
  · obtain ⟨d, rfl⟩ := exists_digitChar hdigit
    clear hdigit
    revert d
    decide
  · decide
  · decide

/-- Of digits and points, a numeral is read only from decimal ones. -/
theorem digit_or_point_of_read? {t : Text} {x : Binary64}
    (hchars : ∀ c ∈ t, Expression.isNumberChar c = true) (h : read? t = some x) :
    ∀ c ∈ t, isDecimalDigit c = true ∨ c = '.' := by
  have hmarks : ∀ c ∈ t.map plainChar, isAsciiDigit c = true ∨ c = '.' ∨ c = '?' := by
    intro c hc
    obtain ⟨d, hd, rfl⟩ := List.mem_map.mp hc
    rcases plainChar_of_isNumberChar (hchars d hd) with ⟨-, hdigit | hpoint⟩ | hother
    · exact .inl hdigit
    · exact .inr (.inl hpoint)
    · exact .inr (.inr hother)
  have hplain := fun c hc => apart_of_mark (hmarks c hc)
  have hhead : ∀ c ∈ (t.map plainChar).head?, c ∈ t.map plainChar :=
    fun c hc => List.mem_of_mem_head? hc
  rw [read?_of_untrimmed fun c hc => (hplain c hc).1,
    splitSign_of_notSign fun c hc => (hplain c (hhead c hc)).2.1,
    unsigned?_of_notWord fun c hc => (hplain c (hhead c hc)).2.2.1] at h
  obtain ⟨parts, hparts, -⟩ := Option.map_eq_some_iff.mp h
  have hread := digit_or_point_of_decimal? hparts fun c hc => (hplain c hc).2.2.2
  intro c hc
  rcases plainChar_of_isNumberChar (hchars c hc) with ⟨hplain, -⟩ | hother
  · exact hplain
  · have hmark := hread _ (List.mem_map_of_mem hc)
    rw [hother] at hmark
    exact absurd hmark (by decide)

end Numeral

namespace Display

open Numeral

/-- A plain number is a run that a token may hold, of decimal digits only. -/
theorem isPlainUnsigned_iff {t : Text} : isPlainUnsigned t = true ↔
    t ≠ [] ∧ Expression.isNumberRun t = true ∧ ∀ c ∈ t, isDecimalDigit c = true ∨ c = '.' := by
  have hcount : ∀ {u : Text}, (∀ c ∈ u, isDecimalDigit c = true) → u.count '.' = 0 := by
    intro u hu
    refine List.count_eq_zero_of_not_mem fun hmem => ?_
    exact absurd (hu '.' hmem) (by decide)
  constructor
  · intro h
    refine ⟨?_, ?_, digit_or_point_of_isPlainUnsigned h⟩
    · rintro rfl
      cases h
    · rcases isPlainUnsigned_cases h with ⟨-, hall⟩ | ⟨digits, places, rfl, hsome, hdigits, hplaces⟩
      · have hpoint : t ≠ ['.'] := by
          rintro rfl
          exact absurd (hall '.' List.mem_cons_self) (by decide)
        simp [Expression.isNumberRun, hcount hall, hpoint]
      · have hpoint : digits ++ '.' :: places ≠ ['.'] := by
          intro heq
          rw [List.append_eq_singleton_iff] at heq
          simp_all
        simp [Expression.isNumberRun, hcount hdigits, hcount hplaces, hpoint]
  · rintro ⟨ne, hrun, hchars⟩
    simp only [Expression.isNumberRun, Bool.and_eq_true, decide_eq_true_eq, bne_iff_ne] at hrun
    have hdigit : ∀ {u : Text}, u ⊆ t → '.' ∉ u → ∀ c ∈ u, isDecimalDigit c = true := by
      intro u hsub hu c hc
      exact (hchars c (hsub hc)).resolve_right fun hpoint => hu (hpoint ▸ hc)
    by_cases hpoint : '.' ∈ t
    · obtain ⟨digits, places, rfl⟩ := List.append_of_mem hpoint
      have hcounts := hrun.1
      rw [List.count_append, List.count_cons_self] at hcounts
      have hnone : '.' ∉ digits ∧ '.' ∉ places :=
        ⟨List.count_eq_zero.mp (by omega), List.count_eq_zero.mp (by omega)⟩
      refine isPlainUnsigned_pointed ?_ (hdigit (List.subset_append_left _ _) hnone.1)
        (hdigit ?_ hnone.2)
      · by_contra hempty
        simp_all
      · exact List.Subset.trans (List.subset_cons_self _ _) (List.subset_append_right _ _)
    · exact isPlainUnsigned_digits ne (hdigit (List.Subset.refl _) hpoint)

end Display

/-! ## What the evaluator makes of plain numbers -/

namespace Expression

theorem isNumberChar_of_digit_or_point {c : Char} (h : isDecimalDigit c = true ∨ c = '.') :
    isNumberChar c = true := by
  rcases h with hdigit | rfl
  · simp [isNumberChar, isDigit, hdigit]
  · rfl

theorem textValue?_eq_some {t : Text} {x : Binary64} : textValue? t = some x ↔
    ∃ tokens, tokenize t = .ok tokens ∧ evaluate tokens = .ok x := by
  unfold textValue? evaluateText
  cases tokenize t with
  | error e => simp [bind, Except.bind, Except.toOption]
  | ok tokens =>
      cases hvalue : evaluate tokens <;> simp [bind, Except.bind, Except.toOption, hvalue]

theorem lex_plain {t : Text} (h : Display.isPlainUnsigned t = true) : lex t = .ok [.number t] := by
  obtain ⟨ne, hrun, hchars⟩ := Display.isPlainUnsigned_iff.mp h
  have hlex := @lex_run t [] ne (fun c hc => isNumberChar_of_digit_or_point (hchars c hc)) hrun
    nofun
  rw [List.append_nil] at hlex
  rw [hlex, lex]
  rfl

theorem tidy_plain {t : Text} (h : Display.isPlain t = true) : tidy t = t := by
  have hunsigned : ∀ {u : Text}, Display.isPlainUnsigned u = true → ∀ c ∈ u,
      isBlank c = false ∧ Operator.plainGlyph c = c ∧ c ≠ ',' ∧ c ≠ '=' := fun hu c hc =>
    untouched_of_isNumberChar
      (isNumberChar_of_digit_or_point ((Display.isPlainUnsigned_iff.mp hu).2.2 c hc))
  have hchars : ∀ c ∈ t, isBlank c = false ∧ Operator.plainGlyph c = c ∧ c ≠ ',' ∧ c ≠ '=' := by
    unfold Display.isPlain at h
    split at h
    · intro c hc
      rcases List.mem_cons.mp hc with rfl | hc
      · decide
      · exact hunsigned h c hc
    · exact hunsigned h
  exact tidy_of_untouched (Text.trimBy_of_all_not fun c hc => (hchars c hc).1)
    fun c hc => (hchars c hc).2

theorem evaluate_negative {t : Text} {x : Binary64} (h : Numeral.read? t = some x) :
    evaluate [ofOperator .minus, .number t] = finiteResult x.neg := by
  have hvalue : (Phrase.negation (.number t)).value = .ok x.neg :=
    map_eq_ok.mpr ⟨x, Phrase.value_number.mpr h, rfl⟩
  exact evaluate_factor (.negation (.number t)) (show 2 ≤ nestingBudget by decide) hvalue

theorem evaluateText_plain {t : Text} {x : Binary64} (hplain : Display.isPlain t = true)
    (hread : Numeral.read? t = some x) : evaluateText t = finiteResult x := by
  have htidy := tidy_plain hplain
  unfold Display.isPlain at hplain
  simp only [evaluateText, tokenize, htidy]
  split at hplain
  · next u =>
      rw [Display.read?_minus_of_isPlainUnsigned hplain] at hread
      obtain ⟨y, hy, rfl⟩ := Option.map_eq_some_iff.mp hread
      rw [lex_symbol u (rfl : symbolToken? '-' = some (ofOperator .minus)), lex_plain hplain]
      exact evaluate_negative hy
  · rw [lex_plain hplain]
    exact evaluate_number hread

/-- The value of a plain number as an expression is what it reads as, if that is finite. -/
theorem textValue?_of_isPlain {t : Text} {x : Binary64} (hplain : Display.isPlain t = true)
    (hread : Numeral.read? t = some x) :
    textValue? t = if x.isFinite then some x else none := by
  rw [textValue?, evaluateText_plain hplain hread, finiteResult]
  split <;> rfl

end Expression

namespace Expression.Phrase

/-- There is no phrase without a number. -/
theorem exists_number {rank : Rank} (e : Phrase Text rank) : ∃ text, .number text ∈ e.tokens := by
  induction e with
  | number text => exact ⟨text, List.mem_cons_self⟩
  | negation operand ih =>
      obtain ⟨text, h⟩ := ih
      exact ⟨text, List.mem_cons_of_mem _ h⟩
  | group opening closing body ih =>
      obtain ⟨text, h⟩ := ih
      exact ⟨text, List.mem_cons_of_mem _ (List.mem_append_left _ h)⟩
  | single first ih => exact ih
  | step left op fits right ihLeft _ =>
      obtain ⟨text, h⟩ := ihLeft
      exact ⟨text, List.mem_append_left _ h⟩

/-- A phrase of nothing but numbers is one number. -/
theorem lone_of_isNumber {rank : Rank} (e : Phrase Text rank)
    (h : ∀ token ∈ e.tokens, token.isNumber = true) :
    ∃ text, e.tokens = [.number text] ∧ e.value = (number text).value := by
  induction e with
  | number text => exact ⟨text, rfl, rfl⟩
  | negation | group => cases h _ List.mem_cons_self
  | single first ih => exact ih h
  | step left op fits right =>
      cases h (.ofOperator op) (List.mem_append_right _ List.mem_cons_self)

end Expression.Phrase


/-! ## What has a value without being plain -/

namespace Expression

/-- A text with a value holds a digit or a point, of any kind. -/
theorem exists_numberChar_of_textValue? {t : Text} {x : Binary64} (h : textValue? t = some x) :
    ∃ c ∈ tidy t, isNumberChar c = true := by
  obtain ⟨tokens, htokens, hvalue⟩ := textValue?_eq_some.mp h
  obtain ⟨-, e, rfl, -⟩ := evaluate_eq_ok hvalue
  obtain ⟨text, htext⟩ := e.exists_number
  exact (lexed_of_lex htokens).exists_numberChar htext

/-- One character that has a value is no symbol. -/
theorem notMath_of_looksLikeMath {t : Text} {x : Binary64} (hmath : looksLikeMath t = false)
    (h : textValue? t = some x) : ∀ c ∈ t, mathChars.contains c = false := by
  rcases Bool.and_eq_false_iff.mp hmath with hlength | hnone
  · obtain ⟨d, hd, hnumber⟩ := exists_numberChar_of_textValue? h
    obtain ⟨c, hc, rfl⟩ := exists_glyph_of_mem_tidy hd
    have hsymbols : mathChars.all (fun c => !isNumberChar (Operator.plainGlyph c)) = true := by
      decide
    obtain ⟨e, rfl⟩ : ∃ e, t = [e] := by
      rw [← List.length_eq_one_iff]
      have := List.length_pos_of_mem hc
      simp at hlength
      omega
    intro c' hc'
    obtain rfl : c' = c := by simp_all
    rw [Bool.eq_false_iff]
    intro hmem
    have := List.all_eq_true.mp hsymbols c' (List.contains_iff_mem.mp hmem)
    simp [hnumber] at this
  · simpa using hnone

/-- A text without symbols that has a value is a plain number, if nothing is to be trimmed. -/
theorem isPlainUnsigned_of_textValue? {t : Text} {x : Binary64} (htrim : t.trim = t)
    (hcomma : ',' ∉ t) (hmath : ∀ c ∈ t, mathChars.contains c = false)
    (h : textValue? t = some x) :
    Display.isPlainUnsigned t = true ∧ Numeral.read? t = some x := by
  have huntouched := fun c hc => untouched_of_notMath (hmath c hc)
  have htidy : tidy t = t := tidy_of_untouched htrim fun c hc =>
    ⟨(huntouched c hc).1, fun hc' => hcomma (hc' ▸ hc), (huntouched c hc).2.1⟩
  obtain ⟨tokens, htokens, hvalue⟩ := textValue?_eq_some.mp h
  rw [tokenize, htidy] at htokens
  have hlexed := lexed_of_lex htokens
  obtain ⟨-, e, rfl, hphrase, -⟩ := evaluate_eq_ok hvalue
  obtain ⟨run, hlone, hnumber⟩ := e.lone_of_isNumber
    (hlexed.isNumber_of_mem fun c hc => (huntouched c hc).2.2)
  have hread : Numeral.read? run = some x := by
    rw [hphrase] at hnumber
    exact Phrase.value_number.mp hnumber.symm
  obtain ⟨hfront, hback⟩ := Text.ends_of_trimBy_eq htrim
  rw [hlone] at hlexed
  cases hlexed with
  | blank hblank _ =>
      rw [hfront _ rfl] at hblank
      cases hblank
  | symbol named _ =>
      cases (symbolToken?_eq_some named).2.2
  | @number _ rest _ ne chars isRun _ more =>
      -- No token is left for the rest, so it is blank, and nothing blank is at the end.
      have hrest : rest = [] := by
        have hblank : rest.filter (!isBlank ·) = [] := more.textOf_eq.symm
        rcases List.eq_nil_or_concat' rest with hnil | ⟨init, c, rfl⟩
        · exact hnil
        · have hc := hback c (by simp)
          simp [hc] at hblank
      rw [hrest, List.append_nil]
      exact ⟨Display.isPlainUnsigned_iff.mpr
        ⟨ne, isRun, Numeral.digit_or_point_of_read? chars hread⟩, hread⟩

end Expression

end FieldCalc
