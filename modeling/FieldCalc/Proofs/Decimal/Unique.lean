import FieldCalc.Proofs.Decimal.Canonical

/-!
# Canonical decimals are told apart by their values

A canonical decimal is the one that its mantissa is written as, and zeros that are put after the
last place go again. So two of them that are worth the same are the same.
-/

namespace FieldCalc

open Numeral

/-! ## Digits of values -/

theorem digitChar_eq (d : Fin 10) : digitChar d.val = Nat.digitChar d.val := by
  revert d
  decide

theorem digitsValue_concat (t : Text) (d : Fin 10) :
    digitsValue (t ++ [digitChar d.val]) = digitsValue t * 10 + d.val := by
  rw [digitsValue_append, digitsValue_digitChar]
  rfl

theorem digitsValue_concat_div (t : Text) (d : Fin 10) :
    digitsValue (t ++ [digitChar d.val]) / 10 = digitsValue t := by
  rw [digitsValue_concat]
  omega

theorem digitsValue_concat_mod (t : Text) (d : Fin 10) :
    digitsValue (t ++ [digitChar d.val]) % 10 = d.val := by
  rw [digitsValue_concat]
  omega

/-- Digits are those of their value, unless the first one is a zero that may be left out. -/
theorem toDigits_digitsValue {t : Text} (all : AllDigits t) (ne : t ≠ [])
    (head : t = ['0'] ∨ t.head? ≠ some '0') : Nat.toDigits 10 (digitsValue t) = t := by
  induction t using List.reverseRecOn with
  | nil => exact absurd rfl ne
  | append_singleton init c ih =>
      obtain ⟨d, rfl⟩ := exists_digitChar (all c List.mem_concat_self)
      rcases eq_or_ne init [] with rfl | hinit
      · rw [List.nil_append, digitsValue_digitChar, digitChar_eq, Nat.toDigits_of_lt_base d.isLt]
      · have hhead : init.head? ≠ some '0' := by
          rw [List.head?_append_of_ne_nil _ hinit] at head
          exact head.resolve_left fun h => by simp [List.append_eq_singleton_iff, hinit] at h
        have hvalue := ih (fun c hc => all c (List.mem_append_left _ hc)) hinit (.inr hhead)
        have hpos : digitsValue init ≠ 0 := by
          intro hzero
          rw [hzero] at hvalue
          exact hhead (by rw [← hvalue]; rfl)
        have hlarge : ¬digitsValue (init ++ [digitChar d.val]) < 10 := by
          rw [digitsValue_concat]
          omega
        rw [Nat.toDigits_eq_if (by decide), if_neg hlarge, digitsValue_concat_div,
          digitsValue_concat_mod, hvalue, digitChar_eq]

theorem lastDigits_digitsValue {t : Text} (all : AllDigits t) :
    lastDigits t.length (digitsValue t) = t := by
  induction t using List.reverseRecOn with
  | nil => rfl
  | append_singleton init c ih =>
      obtain ⟨d, rfl⟩ := exists_digitChar (all c List.mem_concat_self)
      rw [List.length_append, List.length_singleton, lastDigits, digitsValue_concat_div,
        digitsValue_concat_mod, ih fun c hc => all c (List.mem_append_left _ hc)]

theorem digitsValue_lt {t : Text} (all : AllDigits t) : digitsValue t < tenTo t.length := by
  have h := digitsValue_lastDigits t.length (digitsValue t)
  rw [lastDigits_digitsValue all] at h
  rw [h]
  exact Nat.mod_lt _ (tenTo_pos _)

/-! ## Zeros at the end -/

theorem lastDigits_mul_tenTo (places extra n : Nat) :
    lastDigits (places + extra) (n * tenTo extra) =
      lastDigits places n ++ List.replicate extra '0' := by
  induction extra with
  | zero => simp [tenTo_zero]
  | succ extra ih =>
      rw [← Nat.add_assoc, lastDigits, tenTo_succ, ← Nat.mul_assoc,
        Nat.mul_div_cancel _ (by decide), Nat.mul_mod_left, ih, List.replicate_succ',
        List.append_assoc]
      rfl

theorem trimEndBy_append_zeros (t : Text) (count : Nat) :
    Text.trimEndBy (· == '0') (t ++ List.replicate count '0') = Text.trimEndBy (· == '0') t := by
  induction count with
  | zero => rw [List.replicate_zero, List.append_nil]
  | succ count ih =>
      rw [List.replicate_succ', ← List.append_assoc, Text.trimEndBy_concat_of rfl, ih]

theorem keptPlaces_mul_tenTo (places extra n : Nat) :
    keptPlaces (places + extra) (n * tenTo extra) = keptPlaces places n := by
  have hmod : n * tenTo extra % tenTo (places + extra) = n % tenTo places * tenTo extra := by
    rw [tenTo_add, Nat.mul_mod_mul_right]
  rw [keptPlaces, hmod, lastDigits_mul_tenTo, trimEndBy_append_zeros, ← keptPlaces]

namespace CanonicalDecimal

/-- More places of zeros do not change what is written. -/
theorem ofCount_mul_tenTo (negative : Bool) (places extra n : Nat) :
    ofCount negative (places + extra) (n * tenTo extra) = ofCount negative places n := by
  have hwhole : n * tenTo extra / tenTo (places + extra) = n / tenTo places := by
    rw [tenTo_add, Nat.mul_div_mul_right _ _ (tenTo_pos extra)]
  have hzero : (n * tenTo extra != 0) = (n != 0) := by
    rw [Bool.eq_iff_iff]
    simp [Nat.ne_of_gt (tenTo_pos extra)]
  simp only [ofCount, hwhole, keptPlaces_mul_tenTo, hzero]

/-- A canonical decimal is what its own mantissa is written as. -/
theorem ofCount_mantissa (d : CanonicalDecimal) :
    ofCount d.negative d.places.length d.mantissa = d := by
  obtain ⟨negative, whole, places, wholeDigits, placesDigits, wholeNe, wholeHead, placesLast,
    signed⟩ := d
  have hsplit := digitsValue_append whole places
  have hlt := digitsValue_lt placesDigits
  have hwhole : digitsValue (whole ++ places) / tenTo places.length = digitsValue whole := by
    rw [hsplit, Nat.mul_comm, Nat.mul_add_div (tenTo_pos _), Nat.div_eq_of_lt hlt, Nat.add_zero]
  have hplaces : keptPlaces places.length (digitsValue (whole ++ places)) = places := by
    rw [keptPlaces, hsplit, Nat.mul_comm, Nat.mul_add_mod, Nat.mod_eq_of_lt hlt,
      lastDigits_digitsValue placesDigits]
    rcases List.eq_nil_or_concat' places with rfl | ⟨init, c, rfl⟩
    · rfl
    · exact Text.trimEndBy_concat_of_not (by simpa using placesLast) init
  have hsign : (negative && digitsValue (whole ++ places) != 0) = negative := by
    cases negative with
    | false => rfl
    | true =>
        -- A zero without places would have no sign.
        rw [Bool.true_and, bne_iff_ne]
        intro hzero
        rw [hzero, Nat.zero_div] at hwhole
        rw [hzero, keptPlaces_zero] at hplaces
        have hdigits := toDigits_digitsValue wholeDigits wholeNe wholeHead
        rw [← hwhole] at hdigits
        exact signed rfl hdigits.symm hplaces.symm
  simp only [ofCount, mantissa, hwhole, hplaces, hsign,
    toDigits_digitsValue wholeDigits wholeNe wholeHead]

theorem ofCount_congr {s t : Bool} {m n : Nat} (h : signedCount s m = signedCount t n)
    (places : Nat) : ofCount s places m = ofCount t places n := by
  obtain rfl : m = n := by
    cases s <;> cases t <;> simp only [signedCount, Bool.false_eq_true, if_true, if_false] at h <;>
      omega
  have hsign : (s && m != 0) = (t && m != 0) := by
    cases s <;> cases t <;> simp only [signedCount, Bool.false_eq_true, if_true, if_false] at h <;>
      simp <;> omega
  simp only [ofCount, hsign]

/-- With the places of both, two decimals that are worth the same have the same count. -/
theorem eq_of_value_eq {d e : CanonicalDecimal} (h : d.value = e.value) : d = e := by
  have hd := ofCount_mul_tenTo d.negative d.places.length e.places.length d.mantissa
  have he := ofCount_mul_tenTo e.negative e.places.length d.places.length e.mantissa
  rw [ofCount_mantissa] at hd he
  rw [Nat.add_comm] at he
  have hcount := h
  rw [← congrArg value hd, ← congrArg value he, value_ofCount, value_ofCount,
    div_left_inj' (pow_ne_zero _ (by norm_num)), Int.cast_inj] at hcount
  exact (hd.symm.trans (ofCount_congr hcount _)).trans he

end CanonicalDecimal

end FieldCalc
