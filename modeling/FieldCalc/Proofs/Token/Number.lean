import FieldCalc.Buffer.Editing
import Mathlib.Data.List.Basic

/-!
# The texts of number tokens

A number text is an optional minus sign, at least one ASCII digit, and after the digits an
optional point with further digits. The editing keys change such a text one character at a time,
so each change is shown here to lead from one number text to another.
-/

namespace FieldCalc

def AllDigits (t : Text) : Prop := ∀ c ∈ t, isAsciiDigit c = true

inductive IsUnsigned : Text → Prop where
  | whole {digits : Text} (ne : digits ≠ []) (all : AllDigits digits) : IsUnsigned digits
  | pointed {digits places : Text} (ne : digits ≠ []) (all : AllDigits digits)
      (allPlaces : AllDigits places) : IsUnsigned (digits ++ '.' :: places)

inductive IsNumberText : Text → Prop where
  | plain {t : Text} (unsigned : IsUnsigned t) : IsNumberText t
  | negative {t : Text} (unsigned : IsUnsigned t) : IsNumberText ('-' :: t)

/-! ## Runs of digits -/

theorem AllDigits.nil : AllDigits [] := by
  intro c hc
  cases hc

theorem AllDigits.append {s t : Text} (hs : AllDigits s) (ht : AllDigits t) :
    AllDigits (s ++ t) := by
  intro c hc
  rcases List.mem_append.mp hc with hc | hc
  · exact hs c hc
  · exact ht c hc

theorem AllDigits.concat {t : Text} {c : Char} (ht : AllDigits t) (hc : isAsciiDigit c = true) :
    AllDigits (t ++ [c]) :=
  ht.append fun d hd => by
    rw [List.mem_singleton.mp hd]
    exact hc

theorem AllDigits.dropLast {t : Text} (ht : AllDigits t) : AllDigits t.dropLast :=
  fun c hc => ht c (List.dropLast_subset t hc)

theorem AllDigits.point_notMem {t : Text} (ht : AllDigits t) : '.' ∉ t := by
  intro h
  have := ht '.' h
  contradiction

theorem isAsciiDigit_digitChar (d : Fin 10) : isAsciiDigit (digitChar d.val) = true := by
  revert d
  decide

theorem exists_digitChar {c : Char} (h : isAsciiDigit c = true) :
    ∃ d : Fin 10, c = digitChar d.val := by
  have hrange : 48 ≤ c.toNat ∧ c.toNat ≤ 57 := by simpa [isAsciiDigit] using h
  have hvalue : 48 + (c.toNat - 48) = c.toNat := by omega
  exact ⟨⟨c.toNat - 48, by omega⟩, by rw [digitChar, hvalue, Char.ofNat_toNat]⟩

/-! ## Unsigned texts -/

namespace IsUnsigned

theorem digit {c : Char} (hc : isAsciiDigit c = true) : IsUnsigned [c] :=
  .whole (List.cons_ne_nil c []) (AllDigits.concat .nil hc)

theorem head_digit {t : Text} (h : IsUnsigned t) :
    ∃ c rest, t = c :: rest ∧ isAsciiDigit c = true := by
  cases h with
  | whole ne all =>
      obtain ⟨c, rest, rfl⟩ := List.exists_cons_of_ne_nil ne
      exact ⟨c, rest, rfl, all c List.mem_cons_self⟩
  | pointed ne all _ =>
      obtain ⟨c, rest, rfl⟩ := List.exists_cons_of_ne_nil ne
      exact ⟨c, _, rfl, all c List.mem_cons_self⟩

theorem ne_nil {t : Text} (h : IsUnsigned t) : t ≠ [] := by
  obtain ⟨c, rest, rfl, _⟩ := h.head_digit
  exact List.cons_ne_nil c rest

theorem ne_minus_cons {t : Text} (h : IsUnsigned t) (rest : Text) : t ≠ '-' :: rest := by
  obtain ⟨c, tail, rfl, hc⟩ := h.head_digit
  intro heq
  rw [(List.cons.inj heq).1] at hc
  contradiction

theorem digit_or_point {t : Text} (h : IsUnsigned t) :
    ∀ c ∈ t, isAsciiDigit c = true ∨ c = '.' := by
  intro c hc
  cases h with
  | whole _ all => exact .inl (all c hc)
  | pointed _ all allPlaces =>
      rcases List.mem_append.mp hc with hc | hc
      · exact .inl (all c hc)
      · rcases List.mem_cons.mp hc with rfl | hc
        · exact .inr rfl
        · exact .inl (allPlaces c hc)

theorem count_point_le {t : Text} (h : IsUnsigned t) : t.count '.' ≤ 1 := by
  cases h with
  | whole _ all => simp [List.count_eq_zero_of_not_mem all.point_notMem]
  | pointed _ all allPlaces =>
      simp [List.count_eq_zero_of_not_mem all.point_notMem,
        List.count_eq_zero_of_not_mem allPlaces.point_notMem]

/-! ## Typing and removing characters -/

theorem concat_digit {t : Text} {c : Char} (h : IsUnsigned t) (hc : isAsciiDigit c = true) :
    IsUnsigned (t ++ [c]) := by
  cases h with
  | whole ne all => exact .whole (by simp) (all.concat hc)
  | pointed ne all allPlaces =>
      rw [List.append_assoc, List.cons_append]
      exact .pointed ne all (allPlaces.concat hc)

theorem concat_point {t : Text} (h : IsUnsigned t) (hp : '.' ∉ t) : IsUnsigned (t ++ ['.']) := by
  cases h with
  | whole ne all => exact .pointed ne all .nil
  | pointed => simp at hp

theorem dropLast {t : Text} (h : IsUnsigned t) (hne : t.dropLast ≠ []) :
    IsUnsigned t.dropLast := by
  cases h with
  | whole ne all => exact .whole hne all.dropLast
  | @pointed digits places ne all allPlaces =>
      cases places with
      | nil =>
          rw [List.dropLast_concat]
          exact .whole ne all
      | cons p ps =>
          rw [List.dropLast_append_of_ne_nil (List.cons_ne_nil _ _), List.dropLast_cons_cons]
          exact .pointed ne all allPlaces.dropLast

theorem flipSign {t : Text} (h : IsUnsigned t) : Buffer.flipSign t = '-' :: t := by
  unfold Buffer.flipSign
  split
  · exact absurd rfl (h.ne_minus_cons _)
  · rfl

end IsUnsigned

/-! ## Number texts -/

namespace IsNumberText

theorem ne_nil {t : Text} (h : IsNumberText t) : t ≠ [] := by
  cases h with
  | plain unsigned => exact unsigned.ne_nil
  | negative => exact List.cons_ne_nil _ _

theorem digit_of_signed {c : Char} (h : IsNumberText ['-', c]) : isAsciiDigit c = true := by
  cases h with
  | plain unsigned => exact absurd rfl (unsigned.ne_minus_cons [c])
  | negative unsigned =>
      obtain ⟨d, rest, hd, hdigit⟩ := unsigned.head_digit
      cases hd
      exact hdigit

theorem concat_digit {t : Text} {c : Char} (h : IsNumberText t) (hc : isAsciiDigit c = true) :
    IsNumberText (t ++ [c]) := by
  cases h with
  | plain unsigned => exact .plain (unsigned.concat_digit hc)
  | negative unsigned => exact .negative (unsigned.concat_digit hc)

theorem concat_point {t : Text} (h : IsNumberText t) (hp : '.' ∉ t) :
    IsNumberText (t ++ ['.']) := by
  cases h with
  | plain unsigned => exact .plain (unsigned.concat_point hp)
  | negative unsigned => exact .negative (unsigned.concat_point fun h => hp (.tail _ h))

theorem dropLast {t : Text} (h : IsNumberText t) (hne : t.dropLast ≠ [])
    (hsign : t.dropLast ≠ ['-']) : IsNumberText t.dropLast := by
  cases h with
  | plain unsigned => exact .plain (unsigned.dropLast hne)
  | @negative u unsigned =>
      rw [List.dropLast_cons_of_ne_nil unsigned.ne_nil] at hsign ⊢
      refine .negative (unsigned.dropLast ?_)
      intro hnil
      exact hsign (by rw [hnil])

theorem flipSign {t : Text} (h : IsNumberText t) : IsNumberText (Buffer.flipSign t) := by
  cases h with
  | plain unsigned => exact unsigned.flipSign ▸ .negative unsigned
  | negative unsigned => exact .plain unsigned

/-- No number text has two signs, so the sign that is flipped twice is the one there was. -/
theorem flipSign_flipSign {t : Text} (h : IsNumberText t) :
    Buffer.flipSign (Buffer.flipSign t) = t := by
  cases h with
  | plain unsigned => rw [unsigned.flipSign, Buffer.flipSign]
  | negative unsigned => exact unsigned.flipSign

theorem flipSign_cases {t : Text} (h : IsNumberText t) :
    Buffer.flipSign t = '-' :: t ∨ t = '-' :: Buffer.flipSign t := by
  cases h with
  | plain unsigned => exact .inl unsigned.flipSign
  | negative unsigned => exact .inr rfl

end IsNumberText

end FieldCalc
