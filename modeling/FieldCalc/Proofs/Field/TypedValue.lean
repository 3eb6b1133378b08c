import FieldCalc.Field
import FieldCalc.Proofs.Expression.PlainNumber

/-!
# What typed text is worth

Typed text gives no negative number and no NaN. An expression gives finite numbers only. A plain
number is not checked for being finite: one with too many digits is worth infinity.
-/

namespace FieldCalc

/-! ## Plain numbers -/

namespace Display

theorem notMath_of_isPlainUnsigned {t : Text} (h : isPlainUnsigned t = true) :
    Expression.looksLikeMath t = false := by
  have hnone : t.any Expression.mathChars.contains = false := by
    refine List.any_eq_false.mpr fun c hc => ?_
    rcases digit_or_point_of_isPlainUnsigned h c hc with hdigit | rfl
    · rw [Expression.notMath_of_isDecimalDigit hdigit]
      exact Bool.false_ne_true
    · decide
  rw [Expression.looksLikeMath, hnone, Bool.and_false]

/-- A plain number that is positive infinity has no minus sign, so it looks like no expression. -/
theorem notMath_of_infinite {t : Text} (hplain : isPlain t = true)
    (hread : Numeral.read? t = some (.infinite false)) : Expression.looksLikeMath t = false :=
  notMath_of_isPlainUnsigned (isPlainUnsigned_of_infinite hplain hread)

end Display

/-! ## Typed text -/

namespace Field

theorem trim_cleaned (t : Text) : (cleaned t).trim = cleaned t := Text.trimBy_trimBy _

theorem textValue?_finite {t : Text} {x : Binary64} (h : Expression.textValue? t = some x) :
    x.isFinite = true := by
  unfold Expression.textValue? Expression.evaluateText at h
  cases htokens : Expression.tokenize t with
  | error e =>
      rw [htokens] at h
      cases h
  | ok tokens =>
      simp only [htokens, bind, Except.bind] at h
      cases hvalue : Expression.evaluate tokens with
      | error e =>
          rw [hvalue] at h
          cases h
      | ok y =>
          rw [hvalue] at h
          cases h
          exact (Expression.evaluate_eq_ok hvalue).1

theorem expressionValue?_valid {t : Text} {x : Binary64} (h : expressionValue? t = some x) :
    x.isFinite = true ∧ x.isNonneg = true := by
  unfold expressionValue? at h
  split at h
  · obtain ⟨hvalue, hnonneg⟩ := Option.filter_eq_some_iff.mp h
    exact ⟨textValue?_finite hvalue, hnonneg⟩
  · cases h

theorem typedValue?_cases {t : Text} {x : Binary64} (h : typedValue? t = some x) :
    x.isNonneg = true ∧
      (x.isFinite = true ∨ Display.plainNumber? (cleaned t) = some (.infinite false)) := by
  unfold typedValue? at h
  simp only at h
  split at h
  · cases h
    exact ⟨rfl, .inl rfl⟩
  · cases hexpression : expressionValue? (cleaned t) with
    | some y =>
        rw [hexpression] at h
        cases h
        obtain ⟨hfinite, hnonneg⟩ := expressionValue?_valid hexpression
        exact ⟨hnonneg, .inl hfinite⟩
    | none =>
        rw [hexpression, Option.none_or] at h
        obtain ⟨hplain, hnonneg⟩ := Option.filter_eq_some_iff.mp h
        refine ⟨hnonneg, ?_⟩
        cases x with
        | nan => cases hnonneg
        | infinite negative =>
            cases negative with
            | true => cases hnonneg
            | false => exact .inr hplain
        | finite => exact .inl rfl

theorem typedValue?_of_infinite {t : Text}
    (h : Display.plainNumber? (cleaned t) = some (.infinite false)) :
    typedValue? t = some (.infinite false) := by
  have hread := h
  unfold Display.plainNumber? at hread
  rw [trim_cleaned] at hread
  split at hread
  · next hplain =>
      have hempty : (cleaned t).isEmpty = false := by
        cases hclean : cleaned t with
        | nil =>
            rw [hclean] at hplain
            cases hplain
        | cons c rest => rfl
      have hexpression : expressionValue? (cleaned t) = none := by
        rw [expressionValue?, Display.notMath_of_infinite hplain hread]
        rfl
      unfold typedValue?
      simp only [hempty, hexpression, h, Option.none_or]
      rfl
  · cases hread

end Field

end FieldCalc
