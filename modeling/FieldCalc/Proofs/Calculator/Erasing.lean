import FieldCalc.Proofs.Buffer.Erasing
import FieldCalc.Proofs.Calculator.Typing

/-!
# The backspace key

On every display but an error, backspace takes the last character away and nothing else changes:
no calculation is recorded, and the memory stays. The display is empty at last, which a lone zero
shows. What a key has put at the end as one character is taken back.
-/

namespace FieldCalc

namespace Calculator

variable {c : Calculator}

/-- Whether backspace gives the tokens back that were there before a key. -/
def Undoes (c : Calculator) (action : Action) : Prop :=
  ∃ b, (c.pressAll [action, .backspace]).Silent { c with buffer := b } ∧
    b.tokens = c.buffer.tokens

/-- What backspace does to the display and the tokens, and what it takes back. -/
structure Erases (c : Calculator) : Prop where
  only : c.press .backspace = .quiet { c with buffer := (c.press .backspace).state.buffer }
  one : (∀ d, isAsciiDigit d = true → c.buffer.last ≠ .number ['-', d]) →
    (c.press .backspace).state.display = Text.orZero c.display.dropLast
  signed : ∀ d, c.buffer.last = .number ['-', d] → ∃ front, c.display = front ++ ['-', d] ∧
    (c.press .backspace).state.display = Text.orZero front
  emptied : ∃ b, (c.pressAll (List.replicate c.display.length .backspace)).Silent
    { c with buffer := b } ∧ b.error = false ∧ b.tokens = [Token.zero]
  digit : ∀ d, c.Undoes (.digit d)
  /-- An operator or a parenthesis, if its key has put one at the end. -/
  symbol : ∀ action token, action.isSymbol = true →
    (c.press action).state.buffer.tokens = c.buffer.tokens ++ [token] → c.Undoes action
  /-- A parenthesis that has replaced a zero. -/
  onZero : c.buffer.tokens = [Token.zero] → c.Undoes .openParen

theorem press_backspace (ready : c.buffer.error = false) :
    c.press .backspace = .quiet (c.edit Buffer.backspace) :=
  press_quiet (.inl ready) rfl

theorem undoes_of_edited {action : Action} (ready : c.buffer.error = false)
    (edits : action.isEdit = true)
    (h : (c.buffer.edited action).backspace.tokens = c.buffer.tokens) : c.Undoes action := by
  have hedits : ∀ a ∈ [action, .backspace], a.isEdit = true :=
    List.forall_mem_cons.mpr ⟨edits, List.forall_mem_singleton.mpr rfl⟩
  exact ⟨_, pressAll_edits ready hedits, h⟩

end Calculator

open Calculator

/-- Backspace takes one character away, or a sign with its only digit, and empties every
display. -/
theorem Reached.erases {c : Calculator} {tape : Tape} (h : Reached c tape)
    (ready : c.buffer.error = false) : c.Erases where
  only := by
    rw [press_backspace ready]
    rfl
  one hlast := by
    rw [press_backspace ready]
    refine Buffer.text_backspace_of_unsigned ready h.typable fun d hd => ?_
    have hnumber := Buffer.isNumberText_last h.typable hd
    exact hlast d hnumber.digit_of_signed hd
  signed d hlast := by
    rw [press_backspace ready]
    exact ⟨_, Buffer.text_backspace_of_signed ready h.typable hlast⟩
  emptied := by
    have hedits : ∀ a ∈ List.replicate c.display.length Action.backspace, a.isEdit = true := by
      intro a ha
      rw [List.eq_of_mem_replicate ha]
      rfl
    exact ⟨_, pressAll_edits ready hedits, Buffer.error_editedBy ready _,
      Buffer.tokens_backspaces ready h.typable (Nat.le_refl _)⟩
  digit d := undoes_of_edited ready rfl (Buffer.backspace_typeDigits ready h.typable _)
  symbol action token hkey happended := by
    have hedits := Action.isEdit_of_isSymbol hkey
    obtain ⟨feedback, hpress⟩ := press_edit ready hedits
    rw [hpress] at happended
    exact undoes_of_edited ready hedits (Buffer.backspace_symbol ready hkey happended)
  onZero hzero :=
    undoes_of_edited ready rfl
      (Buffer.backspace_openParen_zero (Buffer.isZero_iff.mpr ⟨ready, hzero⟩))

/-- A sum with a negative number at its end, from which the sign goes with its digit. -/
theorem erases_signed : ∃ (c : Calculator) (tape : Tape), Reached c tape ∧
    c.display = "3+-5".toList ∧ (c.press .backspace).state.display = "3+".toList ∧
      c.Erases := by
  have typed := ((((Reached.fresh 2).press (.digit 3)).press (.operator .plus)).press
    (.digit 5)).press .toggleSign
  refine ⟨_, _, typed, ?_, ?_, typed.erases ?_⟩
  all_goals decide +kernel

end FieldCalc
