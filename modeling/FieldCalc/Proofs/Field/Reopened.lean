import FieldCalc.Field
import FieldCalc.Proofs.Calculator.Showable
import FieldCalc.Proofs.Session.Result

/-!
# Opening a field and committing at once

A value that a field has taken from a session is shown at the start of the next one. If that is
committed with no key pressed, the field holds the same value as before, to the last bit. The only
values that cannot be shown so are those of fields with more places than a text may have.
-/

namespace FieldCalc

namespace Display

variable {places units : Nat}

/-- What a commit leaves as it is, is not negative and is rounded to the places. -/
theorem exists_units_of_commit_eq {x : Binary64} (h : commit places x = x) :
    ∃ units, ∃ hunits : Representable units, x = .finite false units hunits ∧
      nearestToPlaces places units = units := by
  cases x with
  | nan | infinite _ => cases h
  | finite negative units hunits =>
      cases negative with
      | true =>
          rw [commit_negative] at h
          cases h
      | false =>
          rw [commit_positive, Binary64.finite.injEq] at h
          exact ⟨units, hunits, rfl, h.2⟩

theorem nearestToPlaces_shownPlaces (h : Representable units)
    (hfixed : nearestToPlaces places units = units) :
    nearestToPlaces (shownPlaces places) units = units := by
  rcases Nat.le_total places minPlaces with hfew | hmany
  · rw [shownPlaces, Nat.max_eq_right hfew]
    exact nearestToPlaces_minPlaces h hfew hfixed
  · rw [shownPlaces, Nat.max_eq_left hmany]
    exact hfixed

theorem format_eq_ok_iff (h : Representable units) (negative : Bool) :
    (∃ t, format places (.finite negative units h) = .ok t) ↔ places ≤ maxShownPlaces := by
  simp only [format_finite_eq_ok_iff, exists_and_left, exists_eq', and_true]

end Display

/-! ## The session that is opened -/

namespace Session

variable {places units : Nat} {s : Session}

theorem opened_zero (places : Nat) :
    opened .zero places = .ok ⟨Calculator.fresh places, .open, Buffer.fresh⟩ := rfl

theorem opened_positive (h : Representable units) (hpos : 0 < units) (places : Nat) :
    opened (.finite false units h) places =
      (Display.format places (.finite false units h)).map fun text =>
        let seeded := (Calculator.fresh places).edit (·.loadNumber text)
        ⟨seeded, .open, seeded.buffer⟩ := by
  have hseeded : ((Binary64.finite false units h).isFinite &&
      (Binary64.finite false units h).isPositive) = true := by
    simpa [Binary64.isFinite, Binary64.isPositive] using Nat.pos_iff_ne_zero.mp hpos
  rw [opened, if_pos hseeded]
  cases Display.format places (.finite false units h) <;> rfl

theorem resultValue_fresh (places : Nat) :
    resultValue ⟨Calculator.fresh places, .open, Buffer.fresh⟩ = .zero := by
  have hread : Display.plainNumber? ['0'] = some .zero := by
    rw [Display.plainNumber?_of_isNumberText (.plain (.digit rfl)), Display.read?_zero]
  have hdisplay : (⟨Calculator.fresh places, .open, Buffer.fresh⟩ : Session).display = ['0'] :=
    textOf_number ['0']
  rw [resultValue, hdisplay, hread]
  exact Display.commit_zero places

/-- A session that has just been opened on a rounded value would commit that value. -/
theorem resultValue_opened (h : Representable units)
    (hfixed : nearestToPlaces places units = units)
    (hopened : opened (.finite false units h) places = .ok s) :
    s.resultValue = .finite false units h := by
  rcases Nat.eq_zero_or_pos units with rfl | hpos
  · cases (opened_zero places).symm.trans hopened
    exact resultValue_fresh places
  · rw [opened_positive h hpos] at hopened
    cases hformat : Display.format places (.finite false units h) with
    | error fault =>
        rw [hformat] at hopened
        cases hopened
    | ok text =>
        rw [hformat] at hopened
        have hshown : s.places = places ∧ s.display = text := by
          cases hopened
          exact ⟨rfl, textOf_number text⟩
        rw [resultValue_of_shown rfl (hshown.1.symm ▸ hformat) hshown.2, hshown.1]
        simp only [Display.roundTo_finite, Display.commit_positive,
          Display.nearestToPlaces_shownPlaces h hfixed, hfixed]

theorem commit_resultValue (s : Session) :
    Display.commit s.places s.resultValue = s.resultValue := by
  unfold resultValue
  split
  · exact Display.commit_commit _ _
  · exact Display.commit_zero _

end Session

/-! ## The field -/

namespace Field

variable {f : Field} {units : Nat}

/-- Rounding to a whole number is rounding to no places, but zero has no sign. -/
theorem wholeValue_finite (negative : Bool) (h : Representable units) :
    wholeValue (.finite negative units h) =
      .ok (.finite (negative && scaledUnits 0 units != 0) (nearestToPlaces 0 units)
        (representable_nearestToPlaces h 0)) := by
  have hround : ∀ n : Int, n.natAbs = scaledUnits 0 units → Binary64.ofInt n =
      .finite (n < 0) (nearestToPlaces 0 units) (representable_nearestToPlaces h 0) := by
    intro n hn
    rw [Binary64.ofInt, hn]
    exact Binary64.ofRatio_of_lt _ (nearestUnits_scaledUnits_lt h 0)
  have hscaled : roundDiv units unitsPerOne = scaledUnits 0 units := by
    rw [scaledUnits, tenTo_zero, Nat.mul_one]
  have hvalue : wholeValue (.finite negative units h) = .ok (Binary64.ofInt
      (if negative then -(scaledUnits 0 units : Int) else scaledUnits 0 units)) := by
    rw [← hscaled]
    rfl
  rw [hvalue, hround _ (by cases negative <;> simp)]
  congr 2
  cases negative with
  | false => simp
  | true => by_cases hzero : scaledUnits 0 units = 0 <;> simp [hzero, Nat.pos_iff_ne_zero]

theorem set_value (hwhole : f.whole = true → f.places = 0)
    (hfixed : Display.commit f.places f.value = f.value) : f.set f.value = .ok f := by
  unfold set
  split
  · next h =>
      obtain ⟨units, hunits, hvalue, hnearest⟩ := Display.exists_units_of_commit_eq hfixed
      rw [hwhole h] at hnearest
      have hsame : wholeValue f.value = .ok f.value := by
        rw [hvalue, wholeValue_finite]
        simp only [hnearest, Bool.false_and]
      rw [hsame]
      rfl
  · rfl

theorem openSession_iff (hfixed : Display.commit f.places f.value = f.value) :
    (∃ s, f.openSession = .ok s) ↔ f.value = .zero ∨ f.places ≤ Display.maxShownPlaces := by
  obtain ⟨units, hunits, hvalue, -⟩ := Display.exists_units_of_commit_eq hfixed
  rw [openSession, hvalue]
  rcases Nat.eq_zero_or_pos units with rfl | hpos
  · exact iff_of_true ⟨_, Session.opened_zero f.places⟩ (.inl rfl)
  · have hne : Binary64.finite false units hunits ≠ .zero := by
      intro hzero
      rw [Binary64.zero, Binary64.finite.injEq] at hzero
      omega
    rw [Session.opened_positive hunits hpos, or_iff_right hne,
      ← Display.format_eq_ok_iff hunits false]
    cases Display.format f.places (.finite false units hunits) with
    | error fault =>
        constructor
        · rintro ⟨s, hs⟩
          cases hs
        · rintro ⟨t, ht⟩
          cases ht
    | ok text => exact iff_of_true ⟨_, rfl⟩ ⟨_, rfl⟩

/-- Opening a field and committing at once leaves it as it was. Every value that a session with
the precision of the field commits qualifies, and nothing but too high a precision keeps the
session from being opened. -/
theorem reopened_keeps (hwhole : f.whole = true → f.places = 0)
    (hfixed : Display.commit f.places f.value = f.value) :
    (∀ s, f.openSession = .ok s →
      ∃ closed, s.commit = .ok (closed, f.value) ∧ f.set f.value = .ok f) ∧
    ((∃ s, f.openSession = .ok s) ↔ f.value = .zero ∨ f.places ≤ Display.maxShownPlaces) ∧
    ∀ s : Session, s.places = f.places →
      Display.commit f.places s.resultValue = s.resultValue := by
  refine ⟨?_, openSession_iff hfixed, ?_⟩
  · intro s h
    obtain ⟨units, hunits, hvalue, hnearest⟩ := Display.exists_units_of_commit_eq hfixed
    have hcommit := Session.commit_of_open (Session.isOpen_opened h)
    rw [openSession, hvalue] at h
    rw [Session.resultValue_opened hunits hnearest h, ← hvalue] at hcommit
    exact ⟨_, hcommit, set_value hwhole hfixed⟩
  · rintro s hs
    rw [← hs]
    exact s.commit_resultValue

/-- A field with two places that holds a tenth. -/
theorem reopened_keeps_tenth :
    ∃ s closed, openSession ⟨"tips", 2, false, Binary64.ofDecimal false 1 (-1)⟩ = .ok s ∧
      s.commit = .ok (closed, Binary64.ofDecimal false 1 (-1)) := by
  obtain ⟨hcommit, hopens, -⟩ :=
    @reopened_keeps ⟨"tips", 2, false, Binary64.ofDecimal false 1 (-1)⟩ (fun h => nomatch h)
      (by decide +kernel)
  obtain ⟨s, hs⟩ := hopens.mpr (.inr (by decide +kernel))
  obtain ⟨closed, hclosed, -⟩ := hcommit s hs
  simp only at hclosed
  exact ⟨s, closed, hs, hclosed⟩

end Field

end FieldCalc
