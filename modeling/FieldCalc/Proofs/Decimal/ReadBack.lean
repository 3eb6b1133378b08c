import FieldCalc.Proofs.Binary64.Nearest
import FieldCalc.Proofs.Decimal.Readable
import FieldCalc.Proofs.Display.Shape

/-!
# Decimal texts read back

A whole number of `10^-places`, written with a point and without trailing zeros, reads back as
the number nearest to it. Zeros that are cut off only take a power of ten off both sides of the
ratio.
-/

namespace FieldCalc

/-! ## Values of digits -/

namespace Numeral

theorem digitsValue_append (front back : Text) :
    digitsValue (front ++ back) = digitsValue front * tenTo back.length + digitsValue back := by
  unfold digitsValue
  rw [Nat.ofDigitChars_append, Nat.ofDigitChars_eq_ofDigitChars_zero, Nat.mul_comm]
  rfl

theorem digitsValue_toDigits (n : Nat) : digitsValue (Nat.toDigits 10 n) = n :=
  Nat.ofDigitChars_toDigits (by decide) (by decide)

theorem digitsValue_digitChar (d : Fin 10) : digitsValue [digitChar d.val] = d.val := by
  revert d
  decide

theorem digitsValue_lastDigits (count n : Nat) :
    digitsValue (lastDigits count n) = n % tenTo count := by
  induction count generalizing n with
  | zero => rw [tenTo_zero, Nat.mod_one]; rfl
  | succ count ih =>
      have hlast := digitsValue_digitChar ⟨n % 10, Nat.mod_lt n (by decide)⟩
      have hsplit : n % (10 * tenTo count) = n % 10 + 10 * (n / 10 % tenTo count) :=
        Nat.mod_mul
      simp only at hlast
      rw [lastDigits, digitsValue_append, ih, hlast, tenTo_succ, Nat.mul_comm (tenTo count), hsplit]
      change n / 10 % tenTo count * 10 + n % 10 = _
      omega

theorem digitsValue_zeros (count : Nat) : digitsValue (List.replicate count '0') = 0 := by
  induction count with
  | zero => rfl
  | succ count ih =>
      rw [List.replicate_succ, ← List.singleton_append, digitsValue_append, ih]
      exact Nat.zero_mul _

end Numeral

theorem Text.exists_trimmed_zeros (t : Text) :
    ∃ count, t = Text.trimEndBy (· == '0') t ++ List.replicate count '0' := by
  induction t using List.reverseRecOn with
  | nil => exact ⟨0, rfl⟩
  | append_singleton init c ih =>
      cases hc : (c == '0') with
      | false =>
          have htrim : Text.trimEndBy (· == '0') (init ++ [c]) = init ++ [c] :=
            @Text.trimEndBy_concat_of_not (· == '0') c hc init
          exact ⟨0, by rw [htrim, List.replicate_zero, List.append_nil]⟩
      | true =>
          have htrim : Text.trimEndBy (· == '0') (init ++ [c]) = Text.trimEndBy (· == '0') init :=
            @Text.trimEndBy_concat_of (· == '0') c hc init
          obtain ⟨count, hcount⟩ := ih
          refine ⟨count + 1, ?_⟩
          rw [htrim, List.replicate_succ', ← List.append_assoc, ← hcount, beq_iff_eq.mp hc]

/-- The digits that are left, and how many zeros were cut off. -/
theorem exists_keptPlaces (places n : Nat) :
    ∃ count, places = (keptPlaces places n).length + count ∧
      n = Numeral.digitsValue (Nat.toDigits 10 (n / tenTo places) ++ keptPlaces places n) *
        tenTo count := by
  obtain ⟨count, hcount⟩ := Text.exists_trimmed_zeros (lastDigits places (n % tenTo places))
  rw [← keptPlaces] at hcount
  have hlength := congrArg List.length hcount
  rw [length_lastDigits, List.length_append, List.length_replicate] at hlength
  have hvalue := Numeral.digitsValue_lastDigits places (n % tenTo places)
  rw [hcount, Numeral.digitsValue_append, Numeral.digitsValue_zeros, List.length_replicate,
    Nat.add_zero, Nat.mod_mod] at hvalue
  have hsplit := Nat.div_add_mod' n (tenTo places)
  refine ⟨count, hlength, ?_⟩
  rw [Numeral.digitsValue_append, Numeral.digitsValue_toDigits, Nat.add_mul, hvalue,
    Nat.mul_assoc, ← tenTo_add, ← hlength, hsplit]

/-! ## Rounding what was read -/

/-- Eight is a power of two below ten. -/
theorem two_pow_le_tenTo (n : Nat) : 2 ^ (3 * n) ≤ tenTo n := by
  rw [Nat.pow_mul]
  exact Nat.pow_le_pow_left (by decide) n

theorem two_mul_units_lt_tenTo {mantissa places : Nat} (h : mantissa.log2 + 1081 ≤ 3 * places) :
    2 * (mantissa * unitsPerOne) < tenTo places := by
  have hbits : 1 + (mantissa.log2 + 1) + unitBits ≤ 3 * places :=
    Nat.le_trans (by unfold unitBits; omega) h
  have hmantissa : mantissa < 2 ^ (mantissa.log2 + 1) := Nat.lt_log2_self
  calc 2 * (mantissa * unitsPerOne)
      < 2 * (2 ^ (mantissa.log2 + 1) * unitsPerOne) :=
        Nat.mul_lt_mul_of_pos_left (Nat.mul_lt_mul_of_pos_right hmantissa unitsPerOne_pos)
          (by decide)
    _ = 2 ^ (1 + (mantissa.log2 + 1) + unitBits) := by
        rw [← two_pow_mul_unitsPerOne, Nat.pow_add 2 1, Nat.pow_one, Nat.mul_assoc]
    _ ≤ 2 ^ (3 * places) := Nat.pow_le_pow_right (by decide) hbits
    _ ≤ tenTo places := two_pow_le_tenTo places

namespace Binary64

/-- The shortcut for values far below the least positive number gives what rounding gives. -/
theorem ofDecimal_neg (negative : Bool) (mantissa places : Nat) :
    ofDecimal negative mantissa (-(places : Int)) =
      ofRatio negative (mantissa * unitsPerOne) (tenTo places) := by
  cases places with
  | zero =>
      change ofDecimal negative mantissa (Int.ofNat 0) = _
      simp only [ofDecimal]
      split
      · next hzero => rw [hzero, Nat.zero_mul, ofRatio_of_tiny _ (tenTo_pos 0)]
      · rw [if_neg (by decide), tenTo_zero, Nat.mul_one]
  | succ places =>
      change ofDecimal negative mantissa (Int.negSucc places) = _
      simp only [ofDecimal]
      split
      · next hshort =>
          refine (ofRatio_of_tiny _ ?_).symm
          rcases hshort with rfl | hlog
          · rw [Nat.zero_mul]
            exact tenTo_pos _
          · exact two_mul_units_lt_tenTo hlog
      · rfl

end Binary64

/-! ## Trimmed texts -/

namespace Numeral

theorem read?_parts {digits places : Text} (ne : digits ≠ []) (all : AllDigits digits)
    (allPlaces : AllDigits places) : read? (digits ++ if places = [] then [] else '.' :: places) =
      some (Binary64.ofRatio false (digitsValue (digits ++ places) * unitsPerOne)
        (tenTo places.length)) := by
  rw [read?_of_isUnsigned (.ofParts ne all allPlaces), ← Binary64.ofDecimal_neg]
  split
  · next hnil =>
      rw [hnil, List.append_nil, decimal?_digits ne all]
      rfl
  · rw [decimal?_pointed (.inl ne) all allPlaces]
    rfl

theorem read?_trimmedText (places n : Nat) : read? (trimmedText places n) =
    some (Binary64.ofRatio false (n * unitsPerOne) (tenTo places)) := by
  obtain ⟨count, hplaces, hn⟩ := exists_keptPlaces places n
  have hratio : Binary64.ofRatio false (n * unitsPerOne) (tenTo places) =
      Binary64.ofRatio false
        (digitsValue (Nat.toDigits 10 (n / tenTo places) ++ keptPlaces places n) * unitsPerOne)
        (tenTo (keptPlaces places n).length) := by
    refine Eq.trans ?_ (Binary64.ofRatio_mul_mul _ _ _ (tenTo_pos count))
    rw [Nat.mul_right_comm, ← hn, ← tenTo_add, ← hplaces]
  rw [trimmedText_eq, hratio]
  exact read?_parts Nat.toDigits_ne_nil (allDigits_toDigits _) (allDigits_keptPlaces places n)

end Numeral

end FieldCalc
