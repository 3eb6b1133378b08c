import FieldCalc.Proofs.Display.Nearest
import FieldCalc.Proofs.Field.Reopened
import FieldCalc.Proofs.Field.TypedValue

/-!
# Submitting what a field shows

A field shows the number that it holds with a few places, and takes from that text the number shown.
That is another number if the field held one with more places. It is the same number if the field
had taken it from a session, if it is whole, and ever after.
-/

namespace FieldCalc

/-! ## Whole numbers -/

theorem nearestToPlaces_zero (places : Nat) : nearestToPlaces places 0 = 0 :=
  nearestToPlaces_of_whole representable_zero (Nat.zero_mul unitsPerOne).symm places

/-- A number rounded to no places is whole, so that more places do not change it. -/
theorem nearestToPlaces_of_zero {units : Nat} (h : Representable units)
    (hfixed : nearestToPlaces 0 units = units) (places : Nat) :
    nearestToPlaces places units = units := by
  refine nearestToPlaces_of_whole h (n := scaledUnits 0 units) ?_ places
  have hself : scaledUnits 0 units * unitsPerOne * tenTo 0 = scaledUnits 0 units * unitsPerOne :=
    Nat.mul_one _
  have hexact := dist_nearestUnits_le (scaledUnits 0 units * unitsPerOne) (tenTo_pos 0)
    (precise_scaledUnits_zero h)
  rw [← nearestToPlaces, hfixed, hself, Nat.dist_self, Nat.le_zero] at hexact
  exact (Nat.mul_one units).symm.trans (Nat.eq_of_dist_eq_zero hexact)

namespace Display

variable {places units : Nat}

theorem isUnsigned_finiteText (places units : Nat) :
    IsUnsigned (finiteText places false units) := by
  simp only [finiteText]
  split
  · exact .digit rfl
  · exact isUnsigned_trimmedText _ _

/-- A number without a sign is shown as a text that reads as that number, rounded. -/
theorem plainNumber?_of_format {t : Text} (h : Representable units)
    (hformat : format places (.finite false units h) = .ok t) : IsUnsigned t ∧
      plainNumber? t = some (roundTo (shownPlaces places) (.finite false units h)) := by
  obtain ⟨-, rfl⟩ := format_finite_eq_ok_iff.mp hformat
  refine ⟨isUnsigned_finiteText _ _, (plainNumber?_finiteText _ h false).trans ?_⟩
  simp only [roundTo_finite, nearestToPlaces_exactPlaces h, Bool.false_and]

end Display

namespace Field

open Display

variable {f g : Field} {t : Text}

/-! ## Values that are taken as they are -/

/-- The field would take the value that it holds. -/
def Settled (f : Field) : Prop := f.set f.value = .ok f

theorem wholeValue_wholeValue {x y : Binary64} (h : wholeValue x = .ok y) :
    wholeValue y = .ok y := by
  cases x with
  | nan | infinite _ => cases h
  | finite negative units hunits =>
      rw [wholeValue_finite] at h
      cases h
      simp only [wholeValue_finite, nearestToPlaces_nearestToPlaces hunits,
        scaledUnits_nearestToPlaces hunits, Bool.and_assoc, Bool.and_self]

theorem set_eq_ok_iff {x : Binary64} : f.set x = .ok g ↔
    ∃ y, { f with value := y } = g ∧ if f.whole then wholeValue x = .ok y else x = y := by
  unfold set
  split
  · cases wholeValue x with
    | error fault => exact iff_of_false nofun fun ⟨_, _, hy⟩ => nomatch hy
    | ok y => simp [Except.map]
  · simp

theorem settled_of_set {x : Binary64} (h : f.set x = .ok g) : g.Settled := by
  obtain ⟨y, rfl, hy⟩ := set_eq_ok_iff.mp h
  refine set_eq_ok_iff.mpr ⟨y, rfl, ?_⟩
  cases hwhole : f.whole with
  | false => rfl
  | true =>
      rw [hwhole, if_pos rfl] at hy
      exact wholeValue_wholeValue hy

theorem settled_of_make {name : String} {value : Json} {places : Int} {whole : Bool}
    (h : make name value places whole = .ok f) : f.Settled := by
  unfold make at h
  cases hplaces : Display.checkPlaces (if whole then 0 else places) with
  | error fault =>
      rw [hplaces] at h
      cases h
  | ok n =>
      cases hvalue : value.toNumber with
      | error fault =>
          rw [hplaces, hvalue] at h
          cases h
      | ok x =>
          rw [hplaces, hvalue] at h
          exact settled_of_set h

theorem Settled.submit {accepted : Bool} (h : f.Settled) (hsubmit : f.submit t = .ok (g, accepted)) :
    g.Settled := by
  unfold Field.submit at hsubmit
  split at hsubmit
  · cases hsubmit
    exact h
  · next x _ =>
      cases hset : f.set x with
      | error fault =>
          rw [hset] at hsubmit
          cases hsubmit
      | ok next =>
          rw [hset] at hsubmit
          cases hsubmit
          exact settled_of_set hset

theorem Settled.wholeValue_eq (h : f.Settled) (hwhole : f.whole = true) :
    wholeValue f.value = .ok f.value := by
  obtain ⟨x, hx, hset⟩ := set_eq_ok_iff.mp h
  rw [hwhole, if_pos rfl] at hset
  exact hset.trans (by rw [← hx])

/-- The fields that there are: they are made, and then set or typed into any number of times. -/
inductive Reached : Field → Prop where
  | made {f : Field} {name : String} {value : Json} {places : Int} {whole : Bool}
      (made : make name value places whole = .ok f) : Reached f
  | set {f g : Field} {x : Binary64} (reached : Reached f) (set : f.set x = .ok g) : Reached g
  | submitted {f g : Field} {t : Text} {accepted : Bool} (reached : Reached f)
      (submit : f.submit t = .ok (g, accepted)) : Reached g

theorem Reached.settled (h : f.Reached) : f.Settled := by
  induction h with
  | made made => exact settled_of_make made
  | set _ set _ => exact settled_of_set set
  | submitted _ submit ih => exact ih.submit submit

/-- A field that is not for whole numbers may hold any number. -/
theorem reached_of_decimal (h : f.whole = false) : f.Reached := by
  obtain ⟨name, places, whole, value⟩ := f
  obtain rfl : whole = false := h
  refine @Reached.made _ name (.float value) places false ?_
  have hplaces : checkPlaces places = .ok places := by simp [checkPlaces]
  simp [make, hplaces, Json.toNumber, Field.set, bind, Except.bind]

/-! ## The value shown -/

/-- The number that the text of a field reads as. -/
def shownValue (f : Field) : Binary64 :=
  if f.value.isPositive then roundTo (shownPlaces f.places) f.value else .zero

/-- The number shown is the value rounded to the places shown, and a zero without its sign. -/
theorem shownValue_eq (hfinite : f.value.isFinite = true) (hsign : f.value.isNonneg = true) :
    ∃ negative units, ∃ h : Representable units, f.value = .finite negative units h ∧
      (negative = true → units = 0) ∧
        f.shownValue = .finite false (nearestToPlaces (shownPlaces f.places) units)
          (representable_nearestToPlaces h _) := by
  obtain ⟨negative, units, h, hvalue⟩ := Binary64.exists_eq_finite hfinite
  unfold shownValue
  rw [hvalue] at hsign ⊢
  have hzero : negative = true → units = 0 := by
    rintro rfl
    simpa [Binary64.isNonneg] using hsign
  refine ⟨negative, units, h, rfl, hzero, ?_⟩
  cases negative with
  | true =>
      obtain rfl := hzero rfl
      simp only [Binary64.isPositive, Bool.not_true, Bool.false_and, Bool.false_eq_true,
        if_false, nearestToPlaces_zero]
      rfl
  | false =>
      split
      · exact roundTo_finite _ _ h
      · next hnone =>
          obtain rfl : units = 0 := by simpa [Binary64.isPositive] using hnone
          simp only [nearestToPlaces_zero]
          rfl

theorem typedValue?_of_isUnsigned (h : IsUnsigned t) {x : Binary64}
    (hread : plainNumber? t = some x) (hsign : x.isNonneg = true) : typedValue? t = some x := by
  have hcomma : t.filter (· != ',') = t := by
    refine List.filter_eq_self.mpr fun c hc => ?_
    rcases h.digit_or_point c hc with hdigit | rfl
    · refine bne_iff_ne.mpr ?_
      rintro rfl
      exact absurd hdigit (by decide)
    · decide
  have htrim : t.trim = t := Text.trimBy_of_all_not (notBlank_of_isNumberText (.plain h))
  have hclean : cleaned t = t := by rw [cleaned, hcomma, htrim]
  have hmath := notMath_of_isPlainUnsigned (isPlainUnsigned_of_isUnsigned h)
  simp [typedValue?, hclean, h.ne_nil, expressionValue?, hmath, hread, hsign]

theorem plainNumber?_text (hfinite : f.value.isFinite = true) (hpositive : f.value.isPositive = true)
    (h : f.text = .ok t) :
    format f.places f.value = .ok t ∧ IsUnsigned t ∧ plainNumber? t = some f.shownValue := by
  rw [text, if_pos hpositive] at h
  refine ⟨h, ?_⟩
  obtain ⟨negative, units, hunits, hvalue⟩ := Binary64.exists_eq_finite hfinite
  rw [shownValue, if_pos hpositive]
  rw [hvalue] at h hpositive ⊢
  obtain rfl : negative = false := by
    simp only [Binary64.isPositive, Bool.and_eq_true, Bool.not_eq_true'] at hpositive
    exact hpositive.1
  exact plainNumber?_of_format hunits h

theorem shownValue_valid (hfinite : f.value.isFinite = true) (hsign : f.value.isNonneg = true) :
    f.shownValue.isFinite = true ∧ f.shownValue.isNonneg = true := by
  obtain ⟨_, _, _, -, -, hshown⟩ := shownValue_eq hfinite hsign
  rw [hshown]
  exact ⟨rfl, rfl⟩

theorem typedValue?_text (hfinite : f.value.isFinite = true) (hsign : f.value.isNonneg = true)
    (h : f.text = .ok t) : typedValue? t = some f.shownValue := by
  cases hpositive : f.value.isPositive with
  | true =>
      obtain ⟨-, hunsigned, hread⟩ := plainNumber?_text hfinite hpositive h
      exact typedValue?_of_isUnsigned hunsigned hread (shownValue_valid hfinite hsign).2
  | false =>
      rw [text, hpositive, if_neg Bool.false_ne_true] at h
      cases h
      rw [shownValue, hpositive, if_neg Bool.false_ne_true]
      rfl

theorem shownValue_of_whole (h : f.Settled) (hwhole : f.whole = true)
    (hfinite : f.value.isFinite = true) (hsign : f.value.isNonneg = true) :
    f.shownValue = f.value := by
  obtain ⟨negative, units, hunits, hvalue, hzero, hshown⟩ := shownValue_eq hfinite hsign
  have hsame := h.wholeValue_eq hwhole
  rw [hvalue, wholeValue_finite, Except.ok.injEq, Binary64.finite.injEq] at hsame
  obtain ⟨hnegative, hnearest⟩ := hsame
  obtain rfl : negative = false := by
    cases negative with
    | false => rfl
    | true =>
        rw [hzero rfl, scaledUnits_zero] at hnegative
        exact absurd hnegative (by decide)
  simp only [hshown, hvalue, nearestToPlaces_of_zero hunits hnearest]

theorem shownValue_of_commit (h : commit f.places f.value = f.value) : f.shownValue = f.value := by
  obtain ⟨units, hunits, hvalue, hnearest⟩ := exists_units_of_commit_eq h
  obtain ⟨negative, other, hother, hsame, -, hshown⟩ :=
    @shownValue_eq f (by rw [hvalue]; rfl) (by rw [hvalue]; rfl)
  rw [hvalue, Binary64.finite.injEq] at hsame
  obtain ⟨rfl, rfl⟩ := hsame
  simp only [hshown, hvalue, nearestToPlaces_shownPlaces hunits hnearest]

theorem shownValue_shownValue (hfinite : f.value.isFinite = true) (hsign : f.value.isNonneg = true) :
    shownValue { f with value := f.shownValue } = f.shownValue := by
  obtain ⟨negative, units, hunits, hvalue, -, hshown⟩ := shownValue_eq hfinite hsign
  obtain ⟨sign, other, hother, hsame, -, hagain⟩ :=
    @shownValue_eq { f with value := f.shownValue } (by rw [hshown]; rfl) (by rw [hshown]; rfl)
  simp only [hshown, Binary64.finite.injEq] at hsame
  obtain ⟨rfl, rfl⟩ := hsame
  refine hagain.trans ?_
  simp only [hshown, nearestToPlaces_nearestToPlaces hunits]

theorem rounds_shownValue (hfinite : f.value.isFinite = true) (hsign : f.value.isNonneg = true)
    {q : ℚ} (hq : f.value.toRat? = some q) : ∃ n : ℤ,
      IsNearest n (q * 10 ^ shownPlaces f.places) ∧
        f.shownValue.Rounds (n / 10 ^ shownPlaces f.places) := by
  obtain ⟨negative, units, hunits, hvalue, hzero, hshown⟩ := shownValue_eq hfinite hsign
  rw [hvalue, Binary64.toRat?_finite] at hq
  obtain rfl := Option.some.inj hq
  have hlt := nearestUnits_scaledUnits_lt hunits (shownPlaces f.places)
  have hrounds := Binary64.rounds_places hlt false
  have hcount : signedCount false (scaledUnits (shownPlaces f.places) units) =
      signedCount negative (scaledUnits (shownPlaces f.places) units) := by
    cases negative with
    | false => rfl
    | true =>
        rw [hzero rfl, scaledUnits_zero]
        rfl
  rw [Binary64.ofRatio_of_lt false hlt, hcount] at hrounds
  refine ⟨_, isNearest_scaledUnits _ units negative, ?_⟩
  rw [hshown]
  exact hrounds

/-! ## Submitting the text -/

theorem text_eq_ok_iff (hfinite : f.value.isFinite = true) :
    (∃ t, f.text = .ok t) ↔ f.value.isPositive = false ∨ f.places ≤ maxShownPlaces := by
  unfold text
  cases hpositive : f.value.isPositive with
  | false => simp
  | true =>
      obtain ⟨negative, units, h, hvalue⟩ := Binary64.exists_eq_finite hfinite
      simp [hvalue, format_eq_ok_iff h negative]

theorem set_shownValue (h : f.Settled) (hfinite : f.value.isFinite = true)
    (hsign : f.value.isNonneg = true) :
    f.set f.shownValue = .ok { f with value := f.shownValue } := by
  refine set_eq_ok_iff.mpr ⟨_, rfl, ?_⟩
  split
  · next hwhole =>
      rw [shownValue_of_whole h hwhole hfinite hsign]
      exact h.wholeValue_eq hwhole
  · rfl

theorem submit_text (h : f.Settled) (hfinite : f.value.isFinite = true)
    (hsign : f.value.isNonneg = true) (htext : f.text = .ok t) :
    f.submit t = .ok ({ f with value := f.shownValue }, true) := by
  simp only [submit, typedValue?_text hfinite hsign htext, set_shownValue h hfinite hsign]
  rfl

theorem submit_shown (h : f.Settled) (hfinite : f.value.isFinite = true)
    (hsign : f.value.isNonneg = true) (htext : text { f with value := f.shownValue } = .ok t) :
    submit { f with value := f.shownValue } t = .ok ({ f with value := f.shownValue }, true) := by
  have hsettled := settled_of_set (set_shownValue h hfinite hsign)
  obtain ⟨hshown, hnonneg⟩ := shownValue_valid hfinite hsign
  have hsubmit := submit_text hsettled hshown hnonneg htext
  rwa [shownValue_shownValue hfinite hsign] at hsubmit

theorem text_shown (hfinite : f.value.isFinite = true) (htext : f.text = .ok t)
    (hpositive : f.shownValue.isPositive = true) :
    text { f with value := f.shownValue } = .ok t := by
  have hvalue : f.value.isPositive = true := by
    by_contra hnone
    rw [shownValue, if_neg hnone] at hpositive
    cases hpositive
  obtain ⟨hformat, -, hread⟩ := plainNumber?_text hfinite hvalue htext
  obtain ⟨x, hx, -, hsame⟩ := format_of_read hfinite hformat
  rw [hread] at hx
  cases hx
  rw [text, if_pos hpositive]
  exact hsame

theorem units?_shownValue (hfinite : f.value.isFinite = true) (hsign : f.value.isNonneg = true) :
    f.shownValue.units? = (roundTo (shownPlaces f.places) f.value).units? := by
  obtain ⟨negative, units, hunits, hvalue, hzero, hshown⟩ := shownValue_eq hfinite hsign
  rw [hshown, hvalue, roundTo_finite]
  cases negative with
  | false => rfl
  | true => simp [Binary64.units?, hzero, nearestToPlaces_zero]

/-- What submitting the text of a field does to it. -/
structure TakesShown (f : Field) : Prop where
  shows_iff : (∃ t, f.text = .ok t) ↔ f.value.isPositive = false ∨ f.places ≤ maxShownPlaces
  submits : ∀ t, f.text = .ok t → f.submit t = .ok ({ f with value := f.shownValue }, true)
  rounds : ∀ q, f.value.toRat? = some q → ∃ n : ℤ,
    IsNearest n (q * 10 ^ shownPlaces f.places) ∧
      f.shownValue.Rounds (n / 10 ^ shownPlaces f.places)
  rounded : f.shownValue.units? = (roundTo (shownPlaces f.places) f.value).units?
  shows : ∀ t, f.text = .ok t → f.shownValue.isPositive = true →
    text { f with value := f.shownValue } = .ok t
  committed : commit f.places f.value = f.value → f.shownValue = f.value
  whole : f.whole = true → f.shownValue = f.value
  again : ∀ t, text { f with value := f.shownValue } = .ok t →
    submit { f with value := f.shownValue } t = .ok ({ f with value := f.shownValue }, true)

/-- Submitting what a field shows is accepted and takes the number shown: the value rounded to the
places that are shown. A value that has no more places than that is kept, and so is what a session
committed, what a field for whole numbers holds, and what was taken so once. -/
theorem takesShown (h : f.Reached) (hfinite : f.value.isFinite = true)
    (hsign : f.value.isNonneg = true) : f.TakesShown where
  shows_iff := text_eq_ok_iff hfinite
  submits _ := submit_text h.settled hfinite hsign
  rounds _ := rounds_shownValue hfinite hsign
  rounded := units?_shownValue hfinite hsign
  shows _ := text_shown hfinite
  committed := shownValue_of_commit
  whole hwhole := shownValue_of_whole h.settled hwhole hfinite hsign
  again _ := submit_shown h.settled hfinite hsign

/-- A tenth has one place, and is kept by a field with two. -/
theorem takesShown_tenth :
    TakesShown ⟨"tips", 2, false, Binary64.ofDecimal false 1 (-1)⟩ ∧
      shownValue ⟨"tips", 2, false, Binary64.ofDecimal false 1 (-1)⟩ =
        Binary64.ofDecimal false 1 (-1) := by
  have takes := @takesShown ⟨"tips", 2, false, Binary64.ofDecimal false 1 (-1)⟩
    (reached_of_decimal rfl) (by decide +kernel) (by decide +kernel)
  have kept := takes.committed (by decide +kernel)
  simp only at kept
  exact ⟨takes, kept⟩

/-- A third has more places than any text shows. -/
theorem text_third_lost :
    let third : Field := ⟨"tips", 2, false, (Binary64.ofNat 1).div (Binary64.ofNat 3)⟩
    third.Reached ∧ third.value.isFinite = true ∧ third.value.isNonneg = true ∧
      ∃ t g, third.text = .ok t ∧ t = "0.333333".toList ∧ third.submit t = .ok (g, true) ∧
        g.value.units? ≠ third.value.units? := by
  intro third
  have hreached : third.Reached := reached_of_decimal rfl
  have hfinite : third.value.isFinite = true := by decide +kernel
  have hsign : third.value.isNonneg = true := by decide +kernel
  have hshown : third.text.toOption = some "0.333333".toList := by decide +kernel
  obtain ⟨t, ht⟩ := (text_eq_ok_iff hfinite).mpr (.inr (by decide))
  rw [ht] at hshown
  exact ⟨hreached, hfinite, hsign, t, _, ht, Option.some.inj hshown,
    submit_text hreached.settled hfinite hsign ht, by decide +kernel⟩

end Field

end FieldCalc
