import FieldCalc.Proofs.Calculator.Unfailing
import FieldCalc.Proofs.Field.TypedValue

/-!
# The two readers of a field agree

A field evaluates text that looks like an expression, and reads other text as a plain number. What
the evaluator turns down is read as a plain number too. None of this shows: a field takes what the
evaluator alone makes of the text, unless that is negative. There is one exception, a plain number
that is too large for a finite one.
-/

namespace FieldCalc

/-! ## Errors of typed text -/

namespace Expression

/-- An operator cut out of a text is never unknown. -/
theorem isShown_of_evaluateText {t : Text} {e : ExpressionError}
    (h : evaluateText t = .error e) : e.IsShown := by
  unfold evaluateText at h
  rcases bind_eq_error.mp h with htokens | ⟨tokens, htokens, hvalue⟩
  · exact .inl (isMalformed_of_lex htokens)
  · exact isShown_of_evaluate (fun _ => (lexed_of_lex htokens).exists_operator) hvalue

end Expression

/-! ## Plain numbers and expressions -/

namespace Display

variable {t : Text}

theorem isPlain_of_isPlainUnsigned (h : isPlainUnsigned t = true) : isPlain t = true := by
  unfold isPlain
  split
  · exact absurd (digit_or_point_of_isPlainUnsigned h '-' List.mem_cons_self) (by decide)
  · exact h

theorem plainNumber?_eq_some (htrim : t.trim = t) {x : Binary64} :
    plainNumber? t = some x ↔ isPlain t = true ∧ Numeral.read? t = some x := by
  simp [plainNumber?, htrim]

theorem textValue?_of_plainNumber? (htrim : t.trim = t) {x : Binary64}
    (h : plainNumber? t = some x) :
    Expression.textValue? t = if x.isFinite then some x else none := by
  obtain ⟨hplain, hread⟩ := (plainNumber?_eq_some htrim).mp h
  exact Expression.textValue?_of_isPlain hplain hread

theorem plainNumber?_of_textValue? (htrim : t.trim = t) (hcomma : ',' ∉ t) {x : Binary64}
    (hmath : Expression.looksLikeMath t = false) (h : Expression.textValue? t = some x) :
    plainNumber? t = some x := by
  obtain ⟨hplain, hread⟩ := Expression.isPlainUnsigned_of_textValue? htrim hcomma
    (Expression.notMath_of_looksLikeMath hmath h) h
  exact (plainNumber?_eq_some htrim).mpr ⟨isPlain_of_isPlainUnsigned hplain, hread⟩

end Display

namespace Field

open Display Expression

/-- A plain number without a sign that is too large for a finite one. -/
def Overflows (t : Text) : Prop :=
  isPlainUnsigned t = true ∧ Numeral.read? t = some (.infinite false)

variable {t : Text}

theorem comma_notMem_cleaned (t : Text) : ',' ∉ cleaned t := by
  intro h
  have hkept := (Text.trimBy_isInfix (t.filter (· != ','))).subset h
  simp at hkept

theorem overflows_iff : Overflows (cleaned t) ↔
    plainNumber? (cleaned t) = some (.infinite false) := by
  rw [plainNumber?_eq_some (trim_cleaned t)]
  exact ⟨fun h => ⟨isPlain_of_isPlainUnsigned h.1, h.2⟩,
    fun h => ⟨isPlainUnsigned_of_infinite h.1 h.2, h.2⟩⟩

/-- What is not a finite plain number is not read, unless it is positive infinity. -/
theorem isNonneg_plainNumber? {x : Binary64} (h : plainNumber? (cleaned t) = some x)
    (hnone : textValue? (cleaned t) = none) (hrange : ¬Overflows (cleaned t)) :
    x.isNonneg = false := by
  rw [textValue?_of_plainNumber? (trim_cleaned t) h] at hnone
  cases x with
  | nan => rfl
  | infinite negative =>
      cases negative with
      | true => rfl
      | false => exact absurd (overflows_iff.mpr h) hrange
  | finite => cases hnone

/-- After an evaluation that failed or was negative, no plain number is accepted. -/
theorem isNonneg_of_fallThrough (hmath : looksLikeMath (cleaned t) = true)
    (hturned : ∀ x, textValue? (cleaned t) = some x → x.isNonneg = false) {y : Binary64}
    (h : plainNumber? (cleaned t) = some y) : y.isNonneg = false := by
  cases hvalue : textValue? (cleaned t) with
  | some x =>
      have hsame := textValue?_of_plainNumber? (trim_cleaned t) h
      rw [hvalue] at hsame
      split at hsame
      · cases hsame
        exact hturned _ hvalue
      · cases hsame
  | none =>
      refine isNonneg_plainNumber? h hvalue fun hrange => ?_
      have hplain := isPlain_of_isPlainUnsigned hrange.1
      rw [notMath_of_infinite hplain hrange.2] at hmath
      cases hmath

theorem cleaned_ne_nil {x : Binary64} (h : textValue? (cleaned t) = some x) : cleaned t ≠ [] := by
  intro hnil
  obtain ⟨d, hd, -⟩ := exists_numberChar_of_textValue? h
  obtain ⟨c, hc, -⟩ := exists_glyph_of_mem_tidy hd
  simp [hnil] at hc

/-! ## What is typed -/

theorem typedValue?_of_value {x : Binary64} (h : textValue? (cleaned t) = some x) :
    typedValue? t = if x.isNonneg then some x else none := by
  have hempty : (cleaned t).isEmpty = false := by simpa using cleaned_ne_nil h
  simp only [typedValue?, hempty, expressionValue?, h, Bool.false_eq_true, if_false]
  cases hmath : looksLikeMath (cleaned t) with
  | false =>
      rw [plainNumber?_of_textValue? (trim_cleaned t) (comma_notMem_cleaned t) hmath h]
      simp [Option.filter]
  | true =>
      cases hsign : x.isNonneg with
      | true => simp [Option.filter, hsign]
      | false =>
          have hplain : (plainNumber? (cleaned t)).filter Binary64.isNonneg = none := by
            refine Option.filter_eq_none_iff.mpr fun y hy => ?_
            have hturned : ∀ z, textValue? (cleaned t) = some z → z.isNonneg = false := by
              intro z hz
              rw [h] at hz
              cases hz
              exact hsign
            simp [isNonneg_of_fallThrough hmath hturned hy]
          simp [Option.filter_some, hsign, hplain]

theorem typedValue?_of_unread (hempty : cleaned t ≠ []) (hnone : textValue? (cleaned t) = none)
    (hrange : ¬Overflows (cleaned t)) : typedValue? t = none := by
  have hexpression : expressionValue? (cleaned t) = none := by simp [expressionValue?, hnone]
  have hplain : (plainNumber? (cleaned t)).filter Binary64.isNonneg = none := by
    refine Option.filter_eq_none_iff.mpr fun y hy => ?_
    simp [isNonneg_plainNumber? hy hnone hrange]
  simp [typedValue?, hempty, hexpression, hplain]

variable {f : Field}

theorem submit_of_some (hdecimal : f.whole = false) {x : Binary64} (h : typedValue? t = some x) :
    f.submit t = .ok ({ f with value := x }, true) := by
  simp [submit, h, set, hdecimal, Except.map]

theorem submit_of_none (h : typedValue? t = none) : f.submit t = .ok (f, false) := by
  simp [submit, h]

/-- What typing a text into a field does, told by the evaluator. -/
structure ReadsAlike (f : Field) (t : Text) : Prop where
  blank : cleaned t = [] → f.submit t = .ok ({ f with value := .zero }, true)
  accepted : ∀ x, textValue? (cleaned t) = some x → x.isNonneg = true →
    f.submit t = .ok ({ f with value := x }, true)
  negative : ∀ x, textValue? (cleaned t) = some x → x.isNonneg = false →
    f.submit t = .ok (f, false)
  unread : cleaned t ≠ [] → textValue? (cleaned t) = none → ¬Overflows (cleaned t) →
    f.submit t = .ok (f, false)
  overflow : Overflows (cleaned t) → textValue? (cleaned t) = none ∧
    f.submit t = .ok ({ f with value := .infinite false }, true)
  fallThrough : looksLikeMath (cleaned t) = true →
    (∀ x, textValue? (cleaned t) = some x → x.isNonneg = false) →
      ∀ y, plainNumber? (cleaned t) = some y → y.isNonneg = false
  plain : ∀ x, plainNumber? (cleaned t) = some x →
    textValue? (cleaned t) = if x.isFinite then some x else none
  unlikeMath : looksLikeMath (cleaned t) = false →
    ∀ x, textValue? (cleaned t) = some x → plainNumber? (cleaned t) = some x
  errors : ∀ e, evaluateText (cleaned t) = .error e → e.IsShown

/-- A field takes from every text what the evaluator makes of it, whichever reader it asks. Only
a plain number that is too large for a finite one is taken though the evaluator refuses it. -/
theorem readsAlike (hdecimal : f.whole = false) (t : Text) : f.ReadsAlike t where
  blank hnil := submit_of_some hdecimal (by simp [typedValue?, hnil])
  accepted x hvalue hsign :=
    submit_of_some hdecimal (by rw [typedValue?_of_value hvalue, if_pos hsign])
  negative x hvalue hsign :=
    submit_of_none (by rw [typedValue?_of_value hvalue, if_neg (by simp [hsign])])
  unread hempty hnone hrange := submit_of_none (typedValue?_of_unread hempty hnone hrange)
  overflow hrange := by
    have hplain := overflows_iff.mp hrange
    refine ⟨?_, submit_of_some hdecimal (typedValue?_of_infinite hplain)⟩
    exact textValue?_of_plainNumber? (trim_cleaned t) hplain
  fallThrough hmath hturned _ := isNonneg_of_fallThrough hmath hturned
  plain _ := textValue?_of_plainNumber? (trim_cleaned t)
  unlikeMath hmath _ :=
    plainNumber?_of_textValue? (trim_cleaned t) (comma_notMem_cleaned t) hmath
  errors _ := isShown_of_evaluateText

/-- Digits of two scripts with a separator between them are read; a raised digit is not. -/
theorem readsAlike_scripts :
    let tips : Field := ⟨"tips", 2, false, .zero⟩
    tips.whole = false ∧
      tips.submit " 1,٢.5 ".toList =
        .ok (⟨"tips", 2, false, Binary64.ofDecimal false 125 (-1)⟩, true) ∧
      tips.submit "12²".toList = .ok (tips, false) := by
  intro tips
  have reads := fun t => @readsAlike tips rfl t
  refine ⟨rfl, (reads _).accepted _ (by decide +kernel) (by decide +kernel), ?_⟩
  refine (reads _).unread (by decide +kernel) (by decide +kernel) ?_
  rw [overflows_iff]
  decide +kernel

end Field

end FieldCalc
