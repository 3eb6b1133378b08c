import FieldCalc.Proofs.Buffer.Typing
import FieldCalc.Proofs.Decimal.Canonical
import FieldCalc.Proofs.Expression.Defect

/-!
# Numbers typed and recalled

A number that is typed key by key after an operator or an opening parenthesis becomes a token of
its own. A lone zero gives way to its first digit. If that is a zero, it stands alone again and
gives way to the point after it, which brings a zero of its own. What is recalled in one go is the
same, except that a sign stays with its number where the number starts a token.
-/

namespace FieldCalc

/-- The whole part is a zero, before places or not, or it does not start with one. -/
theorem CanonicalDecimal.unsignedText_cases (d : CanonicalDecimal) :
    d.unsignedText = ['0'] ∨
      (∃ places, d.unsignedText = '0' :: '.' :: places) ∨
      ∃ c rest, c ≠ '0' ∧ d.unsignedText = c :: rest := by
  unfold unsignedText
  rcases d.wholeHead with hwhole | hhead
  · rw [hwhole]
    split
    · exact .inl rfl
    · exact .inr (.inl ⟨d.places, rfl⟩)
  · obtain ⟨c, more, hwhole⟩ := List.exists_cons_of_ne_nil d.wholeNe
    rw [hwhole] at hhead ⊢
    exact .inr (.inr ⟨c, _, fun hc => hhead (congrArg some hc), rfl⟩)

namespace Buffer

open Token FieldCalc.Action

/-! ## Typing a number -/

theorem waiting_typeNumber {text : Text} (ne : text ≠ []) (b : Buffer) :
    (b.typeNumber text).waiting = false := by
  obtain ⟨init, c, rfl⟩ := (List.eq_nil_or_concat' text).resolve_left ne
  rw [typeNumber, List.foldl_append, List.foldl_cons, List.foldl_nil]
  split <;> rfl

section

variable {b : Buffer}

/-- The first digit of a number may do anything, if it leaves itself as a number at the end. -/
theorem typeNumber_started {next : Buffer} {c : Char} {rest : Text}
    (htext : IsUnsigned (c :: rest)) (hfirst : b.typeDigits [c] = next)
    (hzero : next.isZero = false) (hlast : next.last = .number [c])
    (hwaiting : next.waiting = false) :
    b.typeNumber (c :: rest) = { next.replaceLast (.number (c :: rest)) with waiting := false } := by
  have hdigit : c ≠ '.' := by
    obtain ⟨d, more, heq, hd⟩ := htext.head_digit
    rintro rfl
    rw [← (List.cons.inj heq).1] at hd
    cases hd
  rw [typeNumber_cons, if_neg hdigit, hfirst,
    typeNumber_extends hzero hlast (List.cons_ne_nil _ _) htext.count_point_le, hwaiting,
    Bool.false_and]
  rfl

theorem isZero_of_dangles (h : b.last.dangles = true) : b.isZero = false := by
  cases hlast : b.last with
  | operator _ | openParen _ => simp [isZero, hlast, zero]
  | number _ | closeParen _ =>
      rw [hlast] at h
      cases h

theorem typeNumber_dangling {text : Text} (h : IsUnsigned text) (hlast : b.last.dangles = true) :
    b.typeNumber text = { b.push (.number text) with waiting := false } := by
  obtain ⟨c, rest, rfl, -⟩ := h.head_digit
  have hfirst : b.typeDigits [c] = { b.push (.number [c]) with waiting := false } := by
    simp only [typeDigits, isZero_of_dangles hlast, Bool.false_eq_true, if_false]
    cases hkind : b.last with
    | operator _ | openParen _ | closeParen _ => rfl
    | number _ =>
        rw [hkind] at hlast
        cases hlast
  exact typeNumber_started h hfirst (by simp [isZero, push]) rfl rfl

theorem typeNumber_zero (d : CanonicalDecimal) (hzero : b.isZero = true) :
    b.typeNumber d.unsignedText = { b.loadNumber d.unsignedText with waiting := false } := by
  have hunsigned := d.isUnsigned_unsignedText
  have hdigits : ∀ digits, b.typeDigits digits = { b.loadNumber digits with waiting := false } := by
    intro digits
    rw [typeDigits, if_pos hzero]
  rcases d.unsignedText_cases with htext | ⟨places, htext⟩ | ⟨c, rest, hc, htext⟩
  · rw [htext]
    exact hdigits ['0']
  · rw [htext] at hunsigned ⊢
    -- The zero that was typed stands alone like the one before it, so the point replaces it too.
    have hpoint : (b.typeDigits ['0']).typePoint =
        { b.loadNumber ['0', '.'] with waiting := false } := by
      rw [hdigits]
      rfl
    calc b.typeNumber ('0' :: '.' :: places)
        = (b.typeDigits ['0']).typePoint.typeNumber places := rfl
      _ = ({ b.loadNumber ['0', '.'] with waiting := false } : Buffer).typeNumber places := by
            rw [hpoint]
      _ = { b.loadNumber ('0' :: '.' :: places) with waiting := false } :=
            typeNumber_extends rfl rfl (List.cons_ne_nil '0' ['.']) hunsigned.count_point_le
  · rw [htext] at hunsigned ⊢
    exact typeNumber_started hunsigned (hdigits [c]) (by simp [isZero, loadNumber, zero, hc]) rfl
      rfl

/-! ## Recalling a number -/

theorem typeRecalled_zero (hzero : b.isZero = true) (text : Text) :
    b.typeRecalled text = { b.loadNumber text with waiting := false } := by
  unfold typeRecalled
  rw [if_pos hzero]

theorem typeRecalled_dangling (hlast : b.last.dangles = true) (text : Text) :
    b.typeRecalled text = { b.push (.number text) with waiting := false } := by
  unfold typeRecalled
  rw [isZero_of_dangles hlast, if_neg Bool.false_ne_true]
  cases hkind : b.last with
  | operator _ | openParen _ => rfl
  | number _ | closeParen _ =>
      rw [hkind] at hlast
      cases hlast

theorem typeRecalled_following {text : Text} (h : IsUnsigned text) (hzero : b.isZero = false)
    (hlast : b.last.dangles = false) : b.typeRecalled text = b.typeNumber text := by
  have hwaiting := waiting_typeNumber h.ne_nil b
  unfold typeRecalled
  rw [hzero, if_neg Bool.false_ne_true]
  cases hkind : b.last with
  | number _ | closeParen _ =>
      split
      · next heq => cases heq
      · next heq => cases heq
      · exact absurd rfl (h.ne_minus_cons _)
      · simp only [← hwaiting]
  | operator _ | openParen _ =>
      rw [hkind] at hlast
      cases hlast

theorem typeRecalled_unsigned (d : CanonicalDecimal) :
    b.typeRecalled d.unsignedText = b.typeNumber d.unsignedText := by
  have hunsigned := d.isUnsigned_unsignedText
  cases hzero : b.isZero with
  | true => rw [typeRecalled_zero hzero, typeNumber_zero d hzero]
  | false =>
      cases hlast : b.last.dangles with
      | true => rw [typeRecalled_dangling hlast, typeNumber_dangling hunsigned hlast]
      | false => exact typeRecalled_following hunsigned hzero hlast

/-- Recalling a number with a sign after another number is typing a subtraction, except that no
operator is noted as pending. -/
theorem typeRecalled_negative {text : Text} (h : IsUnsigned text) (hzero : b.isZero = false)
    (hlast : b.last.dangles = false) : b.typeRecalled ('-' :: text) =
      { (b.typeOperator .minus).typeNumber text with pending := b.pending } := by
  have hminus : b.typeOperator .minus =
      { b.push (ofOperator .minus) with pending := some .minus, waiting := false } := by
    simp only [typeOperator, hzero, Bool.false_eq_true, if_false]
    cases hkind : b.last with
    | number _ | closeParen _ | openParen _ => rfl
    | operator _ =>
        rw [hkind] at hlast
        cases hlast
  rw [hminus, typeNumber_dangling h rfl]
  unfold typeRecalled
  rw [hzero, if_neg Bool.false_ne_true]
  cases hkind : b.last with
  | number _ | closeParen _ => rfl
  | operator _ | openParen _ =>
      rw [hkind] at hlast
      cases hlast

end

end Buffer

end FieldCalc
