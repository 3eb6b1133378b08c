import FieldCalc.Proofs.Calculator.Stroke
import FieldCalc.Proofs.Display.ReadBack
import FieldCalc.Proofs.Expression.Grammar
import FieldCalc.Proofs.Session.Lifecycle

/-!
# From a result to the value committed

A result is shown with at least six places, and what is committed is read off the display. With
fewer places in the field it is rounded twice. The first rounding changes what the second gives
only if it leaves a text that stands exactly halfway between two values of the field.
-/

namespace FieldCalc

namespace Display

variable {units places : Nat}

/-- The value shown stands exactly halfway between two values of the field, and it is rounded to
the other one of them than the number itself. -/
def TipsOver (places : Nat) : Binary64 → Prop
  | .finite false units _ =>
      places < minPlaces ∧
        2 * (scaledUnits minPlaces units % tenTo (minPlaces - places)) =
          tenTo (minPlaces - places) ∧
        scaledUnits places (nearestToPlaces minPlaces units) ≠ scaledUnits places units
  | _ => False

theorem nearestToPlaces_eq_iff {other : Nat} (h : Representable units)
    (hother : Representable other) : nearestToPlaces places other = nearestToPlaces places units ↔
      scaledUnits places other = scaledUnits places units := by
  constructor
  · intro heq
    rw [← scaledUnits_nearestToPlaces h, ← heq, scaledUnits_nearestToPlaces hother]
  · intro heq
    rw [nearestToPlaces, heq, nearestToPlaces]

/-- Away from halfway the value shown is rounded to where the number itself is. -/
theorem scaledUnits_shown (h : Representable units) (hplaces : places < minPlaces)
    (hhalf : 2 * (scaledUnits minPlaces units % tenTo (minPlaces - places)) ≠
      tenTo (minPlaces - places)) :
    scaledUnits places (nearestToPlaces minPlaces units) = scaledUnits places units := by
  obtain ⟨extra, hextra⟩ := Nat.exists_eq_add_of_lt hplaces
  have hmin : minPlaces = places + (extra + 1) := hextra
  have hrest : minPlaces - places = extra + 1 := by omega
  rw [hrest] at hhalf
  have hshown := two_mul_dist_scaledUnits_le minPlaces (nearestToPlaces minPlaces units)
  have hunits := two_mul_dist_scaledUnits_le minPlaces units
  rw [scaledUnits_nearestToPlaces h] at hshown
  generalize nearestToPlaces minPlaces units = shown at *
  rw [hmin] at hshown hunits hhalf
  rw [scaledUnits_of_not_half hshown hhalf, scaledUnits_of_not_half hunits hhalf]

theorem commit_roundTo_iff (places : Nat) (x : Binary64) :
    commit places (roundTo (shownPlaces places) x) = commit places x ↔ ¬TipsOver places x := by
  cases x with
  | nan | infinite _ => exact iff_of_true rfl id
  | finite negative units h =>
      rw [roundTo_finite]
      cases negative with
      | true => exact iff_of_true (by rw [commit_negative, commit_negative]) id
      | false =>
          have hshown := representable_nearestToPlaces h (shownPlaces places)
          have hcommit : commit places (.finite false _ hshown) =
              commit places (.finite false units h) ↔
                nearestToPlaces places (nearestToPlaces (shownPlaces places) units) =
                  nearestToPlaces places units := by
            rw [commit_positive, commit_positive, Binary64.finite.injEq]
            exact and_iff_right rfl
          rw [hcommit, nearestToPlaces_eq_iff h hshown]
          rcases Nat.lt_or_ge places minPlaces with hfew | hmany
          · have hplaces : shownPlaces places = minPlaces := Nat.max_eq_right (Nat.le_of_lt hfew)
            rw [hplaces]
            constructor
            · rintro heq ⟨-, -, hne⟩
              exact hne heq
            · intro hstays
              by_contra hne
              refine hstays ⟨hfew, ?_, hne⟩
              by_contra hhalf
              exact hne (scaledUnits_shown h hfew hhalf)
          · -- What is shown is rounded to the places of the field already.
            have hplaces : shownPlaces places = places := Nat.max_eq_left hmany
            rw [hplaces]
            refine iff_of_true (scaledUnits_nearestToPlaces h places) ?_
            rintro ⟨hfew, -⟩
            omega

end Display

namespace Session

variable {s : Session}

/-- A display that shows a number is committed as that number, rounded to the places shown. -/
theorem resultValue_of_shown {x : Binary64} {t : Text} (hx : x.isFinite = true)
    (hformat : Display.format s.places x = .ok t) (hdisplay : s.display = t) :
    s.resultValue = Display.commit s.places (Display.roundTo (Display.shownPlaces s.places) x) := by
  obtain ⟨y, hread, hcommit⟩ := Display.commit_readBack hx hformat
  rw [resultValue, hdisplay, hread]
  exact hcommit s.places

theorem textOf_number (t : Text) : Token.textOf [Token.number t] = t := List.append_nil t

/-- A press of equals that records a calculation and raises no fault shows the result. -/
theorem shown_after_equals {step : Step} (hopen : s.isOpen = true)
    (hsteps : (s.perform .equals).steps = [step]) (hfault : (s.perform .equals).fault = none) :
    step.result.isFinite = true ∧ (s.perform .equals).state.places = s.places ∧
      Display.format s.places step.result = .ok (s.perform .equals).state.display := by
  rw [perform_of_open hopen] at hsteps hfault ⊢
  have stroke := s.calculator.stroke_press .equals
  simp only [Outcome.map] at hsteps hfault ⊢
  generalize (s.calculator.press .equals).state = next at *
  generalize (s.calculator.press .equals).steps = steps at *
  generalize (s.calculator.press .equals).fault = fault at *
  subst hsteps hfault
  cases stroke with
  | evaluated _ _ value format =>
      refine ⟨(Expression.evaluate_eq_ok value).1, rfl, format.trans ?_⟩
      exact congrArg Except.ok (textOf_number _).symm

/-- Committing right after a calculation commits its result, rounded to the places shown and then
to those of the field. This is the result rounded once unless the text shown tips over. -/
theorem commit_after_equals {step : Step} (hopen : s.isOpen = true)
    (hsteps : (s.perform .equals).steps = [step]) (hfault : (s.perform .equals).fault = none) :
    ∃ closed value, (s.perform .equals).state.commit = .ok (closed, value) ∧
      value = Display.commit s.places
        (Display.roundTo (Display.shownPlaces s.places) step.result) ∧
      (value = Display.commit s.places step.result ↔ ¬Display.TipsOver s.places step.result) := by
  obtain ⟨hfinite, hplaces, hformat⟩ := shown_after_equals hopen hsteps hfault
  have hstill := (s.isOpen_perform .equals).trans hopen
  rw [← hplaces] at hformat
  have hvalue := resultValue_of_shown hfinite hformat rfl
  rw [hplaces] at hvalue
  refine ⟨_, _, commit_of_open hstill, hvalue, ?_⟩
  rw [hvalue]
  exact Display.commit_roundTo_iff s.places step.result

/-- A result a little below five thousandths is shown as five thousandths, and a hundredth is
committed for it. -/
theorem commit_after_equals_five_thousandths :
    ∃ (s : Session) (result : Binary64) (closed : Session),
      (s.perform .equals).steps = [⟨"0.0049999999+0".toList, result⟩] ∧
      Display.commit s.places result = .zero ∧
      (s.perform .equals).state.commit = .ok (closed, Binary64.ofDecimal false 1 (-2)) := by
  let s := (pressAll ⟨Calculator.fresh 2, .open, Buffer.fresh⟩
    (["0", ".", "0", "0", "4", "9", "9", "9", "9", "9", "9", "9", "+", "0"].map
      LooseText.ofString)).state
  let result := Binary64.ofDecimal false 49999999 (-10)
  have hsteps : (s.perform .equals).steps = [⟨"0.0049999999+0".toList, result⟩] := by
    decide +kernel
  obtain ⟨closed, value, hcommit, hvalue, -⟩ :=
    commit_after_equals (by decide +kernel) hsteps (by decide +kernel)
  have hhundredth : value = Binary64.ofDecimal false 1 (-2) := by
    rw [hvalue]
    decide +kernel
  have hrounded : Display.commit s.places result = .zero := by decide +kernel
  rw [hhundredth] at hcommit
  exact ⟨s, result, closed, hsteps, hrounded, hcommit⟩

end Session

end FieldCalc
