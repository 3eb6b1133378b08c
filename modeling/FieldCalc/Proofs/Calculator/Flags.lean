import FieldCalc.Proofs.Buffer.Typing
import FieldCalc.Proofs.Calculator.Reached
import FieldCalc.Proofs.Session.LoneNumber

/-!
# The flags of a calculator

A display that waits for an operand shows an error or one plain number, and no operator is pending
behind it. Some keys leave the flags alone. While the display waits they find a single number
token and leave one, and a closing parenthesis is refused then, since none is open. Every other
key that changes the tokens takes the flag away.
-/

namespace FieldCalc

namespace Buffer

/-- The flags fit the tokens. -/
structure Flagged (b : Buffer) : Prop where
  error : b.error = true → b.waiting = true ∧ b.pending = none
  waiting : b.waiting = true → b.error = false → b.pending = none ∧ ∃ t, b.tokens = [.number t]

variable {b : Buffer}

theorem Flagged.of_idle (ready : b.error = false) (idle : b.waiting = false) : b.Flagged where
  error h := by
    rw [ready] at h
    cases h
  waiting h := by
    rw [idle] at h
    cases h

theorem Flagged.of_number {t : Text} (ready : b.error = false) (pending : b.pending = none)
    (tokens : b.tokens = [.number t]) : b.Flagged where
  error h := by
    rw [ready] at h
    cases h
  waiting _ _ := ⟨pending, t, tokens⟩

theorem flagged_fresh : fresh.Flagged := .of_idle rfl rfl

theorem flagged_showError (b : Buffer) : b.showError.Flagged where
  error _ := ⟨rfl, rfl⟩
  waiting _ := nofun

/-- A buffer that waits without an error is pinned down up to its number. -/
theorem Flagged.eq_waiting (h : b.Flagged) (waiting : b.waiting = true) (ready : b.error = false) :
    ∃ t, b = ⟨[], .number t, true, none, false⟩ := by
  obtain ⟨hpending, t, htokens⟩ := h.waiting waiting ready
  obtain ⟨before, last, _, _, _⟩ := b
  have hlone : before = [] ∧ last = .number t := by
    cases before <;> simp_all [tokens]
  obtain ⟨rfl, rfl⟩ := hlone
  cases waiting
  cases ready
  cases hpending
  exact ⟨t, rfl⟩

/-! ## Editing -/

theorem waiting_pop (b : Buffer) : b.pop.waiting = b.waiting := by
  unfold pop
  split <;> rfl

theorem waiting_edited (idle : b.waiting = false) (action : Action) :
    (b.edited action).waiting = false := by
  cases action with
  | digit _ | point | operator _ | allClear => rfl
  | openParen =>
      simp only [edited, typeOpen]
      split
      · rfl
      · cases b.last with
        | number _ | operator _ | openParen _ => rfl
        | closeParen _ => exact idle
  | closeParen =>
      simp only [edited, typeClose]
      split
      · rfl
      · exact idle
  | backspace =>
      simp only [edited, backspace]
      split
      · rfl
      · cases b.last with
        | number text =>
            simp only
            split
            · exact (waiting_pop b).trans idle
            · exact idle
        | operator _ | openParen _ | closeParen _ => exact (waiting_pop b).trans idle
  | toggleSign =>
      simp only [edited, toggleSign]
      cases b.last <;> exact idle
  | percent | equals | memoryAdd | memorySubtract | memoryRecall | memoryClear => exact idle

theorem flagged_edited_waiting (t : Text) (action : Action) :
    (edited ⟨[], .number t, true, none, false⟩ action).Flagged := by
  have herror := @error_edited ⟨[], .number t, true, none, false⟩ rfl action
  cases action with
  | digit _ | point | operator _ | allClear => exact .of_idle herror rfl
  | openParen =>
      refine .of_idle herror ?_
      simp only [edited, typeOpen]
      split <;> rfl
  | closeParen => exact .of_number herror rfl rfl
  | backspace =>
      simp only [edited, backspace, Bool.false_eq_true, if_false]
      split
      · exact .of_number rfl rfl rfl
      · exact .of_number rfl rfl rfl
  | toggleSign => exact .of_number herror rfl rfl
  | percent | equals | memoryAdd | memorySubtract | memoryRecall | memoryClear =>
      exact .of_number herror rfl rfl

theorem Flagged.edited (h : b.Flagged) (ready : b.error = false) (action : Action) :
    (b.edited action).Flagged := by
  cases hwaiting : b.waiting with
  | false => exact .of_idle (error_edited ready action) (waiting_edited hwaiting action)
  | true =>
      obtain ⟨t, rfl⟩ := h.eq_waiting hwaiting ready
      exact flagged_edited_waiting t action

theorem Flagged.replaceNumber (h : b.Flagged) (ready : b.error = false) (t : Text) :
    (b.replaceLast (.number t)).Flagged := by
  cases hwaiting : b.waiting with
  | false => exact .of_idle ready hwaiting
  | true =>
      obtain ⟨_, rfl⟩ := h.eq_waiting hwaiting ready
      exact .of_number rfl rfl rfl

theorem error_typeNumber (ready : b.error = false) (digits : Text) :
    (b.typeNumber digits).error = false := by
  induction digits generalizing b with
  | nil => exact ready
  | cons c rest ih =>
      rw [typeNumber_cons]
      refine ih ?_
      split
      · exact error_typePoint ready
      · exact error_typeDigits ready [c]

theorem error_typeRecalled (ready : b.error = false) (digits : Text) :
    (b.typeRecalled digits).error = false := by
  unfold typeRecalled
  split
  · rfl
  · split
    · exact ready
    · exact ready
    · exact (error_append b _).trans ready
    · exact error_typeNumber ready _

end Buffer

/-! ## Keys -/

namespace Calculator

variable {c c' : Calculator} {action : Action} {steps : List Step} {fault : Option Fault}

theorem Stroke.flagged (h : Stroke c action c' steps fault) (hflags : c.buffer.Flagged) :
    c'.buffer.Flagged := by
  cases h with
  | recovered => exact Buffer.flagged_fresh
  | edited ready => exact hflags.edited ready _
  | outOfRange | failed => exact Buffer.flagged_showError _
  | percent ready => exact hflags.replaceNumber ready _
  | evaluated => exact .of_number rfl rfl rfl
  | recalled ready => exact .of_idle (Buffer.error_typeRecalled ready _) rfl
  | ignored | noNumber | notNumeral | percentUnshown | noCalculation | resultUnshown | added
    | subtracted | forgotten | notRecalled | recallUnshown => exact hflags

/-- How the flags of a calculator go with its tokens and its display. -/
structure Flags (c : Calculator) : Prop where
  error : c.buffer.error = true → c.buffer.waiting = true ∧ c.buffer.pending = none
  waiting : c.buffer.waiting = true → c.buffer.error = false →
    c.buffer.pending = none ∧ ∃ t, IsNumberText t ∧ c.buffer.tokens = [.number t]
  shown : c.buffer.waiting = true →
    c.display = Display.errorText ∨ ∃ x, Display.plainNumber? c.display = some x
  pending : ∀ op, c.buffer.pending = some op → op.text ∈ [['+'], ['-'], ['*'], ['/']]

end Calculator

theorem Reached.flagged {c : Calculator} {tape : Tape} (h : Reached c tape) :
    c.buffer.Flagged := by
  induction h with
  | opened start =>
      rcases Session.opened_cases start with hfresh | ⟨text, -, -, hseeded⟩
      · rw [hfresh]
        exact Buffer.flagged_fresh
      · rw [hseeded]
        exact .of_idle rfl rfl
  | pressed _ _ ih => exact (Calculator.stroke_press _ _).flagged ih

/-- In every state that keys lead to, a waiting display is an error or a plain number with no
operator pending. -/
theorem Reached.flags {c : Calculator} {tape : Tape} (h : Reached c tape) : c.Flags where
  error := h.flagged.error
  waiting hwaiting hready := by
    obtain ⟨hpending, t, htokens⟩ := h.flagged.waiting hwaiting hready
    have hspelled := h.typable.spelled (.number t) (htokens ▸ List.mem_singleton_self _)
    exact ⟨hpending, t, hspelled, htokens⟩
  shown hwaiting := by
    cases herror : c.buffer.error with
    | true => exact .inl (if_pos herror)
    | false =>
        obtain ⟨-, t, htokens⟩ := h.flagged.waiting hwaiting herror
        have hlone : c.buffer.IsLone t := ⟨herror, htokens⟩
        obtain ⟨x, -, hx⟩ := hlone.plainNumber? h.typable
        exact .inr ⟨x, hx⟩
  pending op _ := by cases op <;> decide

/-- A sum of which the sign was turned, a hundredth taken and the last digit erased, and which a
closing parenthesis was refused after. -/
theorem flags_afterSum : ∃ (c : Calculator) (tape : Tape), Reached c tape ∧
    c.buffer.waiting = true ∧ c.buffer.pending = none ∧
      c.buffer.tokens = [.number "-0.0".toList] := by
  have sum := (((Reached.fresh 2).press (.digit 2)).press (.operator .plus)).press (.digit 3)
  have changed := ((((sum.press .equals).press .toggleSign).press .percent).press
    .backspace).press .closeParen
  have hwaiting : ∀ c : Calculator, c.Flags → c.buffer.waiting = true → c.buffer.error = false →
      c.buffer.pending = none := fun c flags h ready => (flags.waiting h ready).1
  exact ⟨_, _, changed, by decide +kernel,
    hwaiting _ changed.flags (by decide +kernel) (by decide +kernel), by decide +kernel⟩

end FieldCalc
