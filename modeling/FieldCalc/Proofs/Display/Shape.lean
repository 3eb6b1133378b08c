import FieldCalc.Proofs.Text.Trim
import FieldCalc.Proofs.Token.Number

/-!
# The shape of display texts

A finite number is shown as a number text: its whole part, and the places that are left when
trailing zeros go, after a point if any are left.
-/

namespace FieldCalc

theorem AllDigits.trimEndBy {drop : Char → Bool} {t : Text} (h : AllDigits t) :
    AllDigits (Text.trimEndBy drop t) :=
  fun c hc => h c (Text.mem_of_mem_trimEndBy hc)

theorem AllDigits.ne_point {t : Text} (h : AllDigits t) : ∀ c ∈ t, (c == '.') = false := by
  intro c hc
  have hne : c ≠ '.' := fun heq => h.point_notMem (heq ▸ hc)
  simpa using hne

/-! ## Digits of numbers -/

theorem isAsciiDigit_of_isDigit {c : Char} (h : c.isDigit = true) : isAsciiDigit c = true := by
  rw [Char.isDigit_iff_toNat] at h
  simpa [isAsciiDigit] using h

theorem allDigits_toDigits (n : Nat) : AllDigits (Nat.toDigits 10 n) := by
  intro c hc
  exact isAsciiDigit_of_isDigit (Nat.isDigit_of_mem_toDigits (by decide) (by decide) hc)

theorem allDigits_lastDigits (count n : Nat) : AllDigits (lastDigits count n) := by
  induction count generalizing n with
  | zero => exact AllDigits.nil
  | succ count ih =>
      exact (ih (n / 10)).concat (isAsciiDigit_digitChar ⟨n % 10, Nat.mod_lt n (by decide)⟩)

/-! ## Fixed places -/

/-- The places of a number that are left when trailing zeros go. -/
def keptPlaces (places n : Nat) : Text :=
  Text.trimEndBy (· == '0') (lastDigits places (n % tenTo places))

theorem allDigits_keptPlaces (places n : Nat) : AllDigits (keptPlaces places n) :=
  (allDigits_lastDigits _ _).trimEndBy

theorem trimmedText_eq (places n : Nat) :
    trimmedText places n =
      Nat.toDigits 10 (n / tenTo places) ++
        (if keptPlaces places n = [] then [] else '.' :: keptPlaces places n) := by
  have hwhole := (allDigits_toDigits (n / tenTo places)).ne_point
  have hkept := (allDigits_keptPlaces places n).ne_point
  unfold trimmedText fixedText
  rw [Text.trimEndBy_append_cons rfl, ← keptPlaces]
  split
  · next hnil =>
      rw [hnil, List.append_nil, Text.trimEndBy_concat_of rfl, Text.trimEndBy_of_all_not hwhole]
  · next hne =>
      obtain ⟨init, c, h⟩ := (List.eq_nil_or_concat' (keptPlaces places n)).resolve_left hne
      rw [h] at hkept ⊢
      rw [← List.cons_append, ← List.append_assoc]
      refine Text.trimEndBy_concat_of_not ?_ _
      exact hkept c List.mem_concat_self

theorem IsUnsigned.ofParts {digits places : Text} (ne : digits ≠ []) (all : AllDigits digits)
    (allPlaces : AllDigits places) :
    IsUnsigned (digits ++ if places = [] then [] else '.' :: places) := by
  split
  · rw [List.append_nil]
    exact .whole ne all
  · exact .pointed ne all allPlaces

theorem isUnsigned_trimmedText (places n : Nat) : IsUnsigned (trimmedText places n) := by
  rw [trimmedText_eq]
  exact .ofParts Nat.toDigits_ne_nil (allDigits_toDigits _) (allDigits_keptPlaces _ _)

/-! ## Display texts -/

namespace Display

theorem isNumberText_finiteText (places : Nat) (negative : Bool) (units : Nat) :
    IsNumberText (finiteText places negative units) := by
  simp only [finiteText]
  split
  · exact .plain (.digit rfl)
  · cases negative with
    | false => exact .plain (isUnsigned_trimmedText _ _)
    | true => exact .negative (isUnsigned_trimmedText _ _)

theorem shownPlaces_le_iff {places : Nat} :
    shownPlaces places ≤ maxShownPlaces ↔ places ≤ maxShownPlaces := by
  simp only [shownPlaces, Nat.max_le, and_iff_left_iff_imp]
  exact fun _ => by decide

/-- A finite number is shown where its places are few enough, and places beyond the exact ones are
not written. -/
theorem format_finite_eq_ok_iff {places : Nat} {negative : Bool} {units : Nat}
    {h : Representable units} {t : Text} : format places (.finite negative units h) = .ok t ↔
      places ≤ maxShownPlaces ∧ finiteText (min (shownPlaces places) exactPlaces) negative units = t := by
  have hasked : maxShownPlaces ≤ maxAskedPlaces := by decide
  rw [← shownPlaces_le_iff]
  simp only [format]
  split
  · next hmany => exact iff_of_false (by simp) fun hfew => by omega
  · split
    · next hmany => exact iff_of_false (by simp) fun hfew => by omega
    · next hfew => simp [Nat.le_of_not_lt hfew]

theorem format_of_showable {places : Nat} (h : places ≤ maxShownPlaces) (x : Binary64) :
    ∃ t, format places x = .ok t := by
  cases x with
  | finite => exact ⟨_, format_finite_eq_ok_iff.mpr ⟨h, rfl⟩⟩
  | infinite | nan => exact ⟨_, rfl⟩

theorem exists_format_error {places : Nat} (h : maxShownPlaces < places) {x : Binary64}
    (hx : x.isFinite = true) : ∃ fault, format places x = .error fault := by
  cases x with
  | nan | infinite _ => cases hx
  | finite negative units hunits =>
      cases hformat : format places (.finite negative units hunits) with
      | error fault => exact ⟨fault, rfl⟩
      | ok t =>
          have hfew := (format_finite_eq_ok_iff.mp hformat).1
          omega

theorem isNumberText_of_format {places : Nat} {x : Binary64} {t : Text}
    (hx : x.isFinite = true) (h : format places x = .ok t) : IsNumberText t := by
  cases x with
  | nan | infinite _ => cases hx
  | finite negative units hunits =>
      obtain ⟨-, rfl⟩ := format_finite_eq_ok_iff.mp h
      exact isNumberText_finiteText _ _ _

end Display

end FieldCalc
