import FieldCalc.Proofs.Calculator.CurrentValue
import FieldCalc.Proofs.Calculator.Typing
import FieldCalc.Proofs.Display.Nearest
import FieldCalc.Proofs.Field.Reopened
import Mathlib.Logic.Relation

/-!
# Texts that are shown again

The text of a number is read as another number in general, but as one that is shown as the same
text. So it does not matter how often it is read, seeds a session or goes through the memory.
-/

namespace FieldCalc

/-! ## Reading a display text -/

namespace Display

variable {places : Nat} {x : Binary64} {t : Text}

/-- The sign of a zero is not shown. -/
theorem finiteText_zero (places : Nat) (negative : Bool) : finiteText places negative 0 = ['0'] := by
  rw [finiteText, scaledUnits_zero]
  rfl

theorem format_zero_add (hx : x.isFinite = true) (places : Nat) :
    (Binary64.zero.add x).isFinite = true ∧
      format places (Binary64.zero.add x) = format places x := by
  cases x with
  | nan | infinite _ => cases hx
  | finite negative units h =>
      rw [Binary64.zero_add_finite]
      refine ⟨rfl, ?_⟩
      by_cases hzero : units = 0
      · subst hzero
        simp only [format, finiteText_zero]
      · have hsign : (units != 0) = true := by simpa using hzero
        rw [hsign, Bool.and_true]

/-- A number that is not below zero seeds a session with its text. -/
theorem display_opened {s : Session} (hx : x.isFinite = true) (hnonneg : x.isNonneg = true)
    (hformat : format places x = .ok t) (h : Session.opened x places = .ok s) : s.display = t := by
  cases x with
  | nan | infinite _ => cases hx
  | finite negative units hunits =>
      rcases Nat.eq_zero_or_pos units with rfl | hpos
      · obtain ⟨-, rfl⟩ := format_finite_eq_ok_iff.mp hformat
        have hseed : (Binary64.finite negative 0 hunits).isPositive = false := by
          simp [Binary64.isPositive]
        rw [Session.opened, hseed, Bool.and_false, if_neg Bool.false_ne_true] at h
        cases h
        rw [finiteText_zero]
        exact Session.textOf_number ['0']
      · obtain rfl : negative = false := by
          simpa [Binary64.isNonneg, Nat.ne_of_gt hpos] using hnonneg
        rw [Session.opened_positive hunits hpos, hformat] at h
        cases h
        exact Session.textOf_number t

end Display

/-! ## Recalling -/

namespace Calculator

variable {c : Calculator} {x : Binary64} {t : Text}

/-- The keys that take the number on the display into the memory alone, and recall it. -/
def recallKeys : List Action := [.memoryClear, .memoryAdd, .allClear, .memoryRecall]

theorem currentValue_of_lone (hshown : c.buffer.IsLone t) (hread : Numeral.read? t = some x)
    (hx : x.isFinite = true) : c.currentValue = x := by
  refine currentValue_of_ok hshown.1 ?_
  rw [hshown.2, Expression.evaluate_number hread, Expression.finiteResult, if_pos hx]

/-- A number that is recalled on a cleared display stands there by itself. -/
theorem ends_recallKeys (hshown : c.buffer.IsLone t) (hread : Numeral.read? t = some x)
    (hx : x.isFinite = true) (hformat : Display.format c.places x = .ok t) :
    ∃ next, (c.pressAll recallKeys).Ends next ∧ next.places = c.places ∧
      next.buffer.IsLone t := by
  let memory : Memory := ⟨Binary64.zero.add x⟩
  have hadd : (c.memoryClear.press .memoryAdd).Ends { c with memory } := by
    refine (silent_press (.inr rfl) ?_).ends
    have hvalue : c.memoryClear.currentValue = x := currentValue_of_lone hshown hread hx
    rw [perform, memoryAdd, hvalue]
    rfl
  have hrecall : ((⟨c.places, .fresh, memory⟩ : Calculator).press .memoryRecall).Ends
      ⟨c.places, Buffer.fresh.typeRecalled t, memory⟩ := by
    refine (silent_press (.inl rfl) ?_).ends
    obtain ⟨hfinite, hsame⟩ := Display.format_zero_add hx c.places
    simp only [perform, memoryRecall, memory, hfinite, hsame, hformat, if_true]
    rfl
  refine ⟨⟨c.places, Buffer.fresh.typeRecalled t, memory⟩, ?_, rfl, rfl, rfl⟩
  have hclear := (@silent_press c _ .memoryClear (.inr rfl) rfl).ends
  have hfresh := (@silent_press { c with memory } _ .allClear (.inr rfl) rfl).ends
  exact hclear.forEach_cons <| hadd.forEach_cons <| hfresh.forEach_cons <|
    hrecall.forEach_cons <| Outcome.ends_quiet _

end Calculator

/-! ## Any number of times -/

namespace Display

variable {places : Nat} {x : Binary64} {t : Text}

/-- How a text that shows a number comes to be shown again: it is read and shown, it seeds a
session, or it goes through the memory of a calculator. Only a number above zero is a seed. -/
inductive ShownAgain (places : Nat) (t : Text) : Text → Prop where
  | read {x : Binary64} {shown : Text} (read : plainNumber? t = some x)
      (format : format places x = .ok shown) : ShownAgain places t shown
  | seeded {x : Binary64} {s : Session} (read : plainNumber? t = some x)
      (nonneg : x.isNonneg = true) (opens : Session.opened x places = .ok s) :
      ShownAgain places t s.display
  | recalled {c : Calculator} (precision : c.places = places) (lone : c.buffer.IsLone t) :
      ShownAgain places t (c.pressAll Calculator.recallKeys).state.display

theorem ShownAgain.eq {shown : Text} (h : ShownAgain places t shown) (hx : x.isFinite = true)
    (hformat : format places x = .ok t) : shown = t := by
  obtain ⟨y, hread, hy, hsame⟩ := format_of_read hx hformat
  have hspelled := isNumberText_of_format hx hformat
  cases h with
  | read read format =>
      rw [hread] at read
      cases read
      rw [hsame] at format
      exact (Except.ok.inj format).symm
  | seeded read nonneg opens =>
      rw [hread] at read
      cases read
      exact display_opened hy nonneg hsame opens
  | recalled precision lone =>
      subst precision
      rw [plainNumber?_of_isNumberText hspelled] at hread
      obtain ⟨next, ⟨hstate, -⟩, -, hnext⟩ := Calculator.ends_recallKeys lone hread hy hsame
      rw [hstate]
      exact hnext.text_eq

theorem ShownAgain.run_eq {shown : Text} (h : Relation.ReflTransGen (ShownAgain places) t shown)
    (hx : x.isFinite = true) (hformat : format places x = .ok t) : shown = t := by
  induction h with
  | refl => rfl
  | tail _ hlast ih =>
      subst ih
      exact hlast.eq hx hformat

/-- What becomes of a decimal that is shown. -/
structure StaysShown (places : Nat) (d : CanonicalDecimal) : Prop where
  rereads : ∃ y, plainNumber? d.text = some y ∧ y.Rounds d.value ∧ format places y = .ok d.text
  seeds : ∀ y, plainNumber? d.text = some y → ∃ s, Session.opened y places = .ok s
  recalls : ∀ c : Calculator, c.places = places → c.buffer.IsLone d.text →
    ∃ next, (c.pressAll Calculator.recallKeys).Ends next ∧ next.places = places ∧
      next.buffer.IsLone d.text
  again : ∀ shown, Relation.ReflTransGen (ShownAgain places) d.text shown → shown = d.text

/-- A finite number is shown as a text that is read as a number with that same text, and it stays
the same however often it is read, seeds a session or is recalled. -/
theorem staysShown (h : places ≤ maxShownPlaces) (hx : x.isFinite = true) :
    ∃ d : CanonicalDecimal, format places x = .ok d.text ∧ StaysShown places d := by
  obtain ⟨d, hformat⟩ := exists_shownDecimal h hx
  obtain ⟨y, hplain, hy, hsame⟩ := format_of_read hx hformat
  have hread := hplain
  rw [plainNumber?_of_isNumberText d.isNumberText_text] at hread
  refine ⟨d, hformat, ⟨y, hplain, d.rounds_read? hread hy, hsame⟩, ?_, ?_, ?_⟩
  · intro z hz
    exact Session.exists_opened h z
  · intro c hplaces hlone
    subst hplaces
    exact Calculator.ends_recallKeys hlone hread hy hsame
  · intro shown hshown
    exact ShownAgain.run_eq hshown hx hformat

/-- Two thirds are not what the text shown reads as. -/
theorem staysShown_twoThirds :
    ∃ d : CanonicalDecimal, format 2 ((Binary64.ofNat 2).div (Binary64.ofNat 3)) = .ok d.text ∧
      StaysShown 2 d ∧ d.text = "0.666667".toList ∧
        plainNumber? d.text ≠ some ((Binary64.ofNat 2).div (Binary64.ofNat 3)) := by
  obtain ⟨d, hformat, stays⟩ :=
    @staysShown 2 ((Binary64.ofNat 2).div (Binary64.ofNat 3)) (by decide) (by decide +kernel)
  have htext : (format 2 ((Binary64.ofNat 2).div (Binary64.ofNat 3))).toOption =
      some "0.666667".toList := by
    decide +kernel
  rw [hformat] at htext
  have htext : d.text = "0.666667".toList := Option.some.inj htext
  refine ⟨d, hformat, stays, htext, ?_⟩
  rw [htext]
  decide +kernel

end Display

end FieldCalc
