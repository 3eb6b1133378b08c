import FieldCalc.Action
import FieldCalc.Proofs.Buffer.Typable

/-!
# Editing keeps what can be typed

Every editing key leads from a token list that can be typed to another one. The keys that only
edit, and neither evaluate nor recall, are gathered in one function, so that a run of them is a
fold over buffers.
-/

namespace FieldCalc

namespace Action

def isEdit : Action → Bool
  | digit _ | point | operator _ | openParen | closeParen => true
  | backspace | allClear | toggleSign => true
  | _ => false

end Action

namespace Buffer

open Token

/-- The buffer after an action that only edits. -/
def edited (b : Buffer) : Action → Buffer
  | .digit d => b.typeDigits (Action.digitText d)
  | .point => b.typePoint
  | .operator op => b.typeOperator op
  | .openParen => b.typeOpen
  | .closeParen => b.typeClose
  | .backspace => b.backspace
  | .allClear => fresh
  | .toggleSign => b.toggleSign
  | _ => b

theorem isZero_iff {b : Buffer} : b.isZero = true ↔ b.error = false ∧ b.tokens = [zero] := by
  obtain ⟨before, last, waiting, pending, error⟩ := b
  cases before <;> simp [isZero, tokens]

theorem tokens_ne_zero {b : Buffer} (herror : b.error = false) (h : b.isZero = false) :
    b.tokens ≠ [zero] := by
  intro hzero
  rw [isZero_iff.mpr ⟨herror, hzero⟩] at h
  contradiction

theorem push_ne_zero (b : Buffer) (token : Token) : (b.push token).tokens ≠ [zero] := by
  intro heq
  rw [tokens_push] at heq
  simpa using congrArg List.length heq

theorem typable_push {b : Buffer} (token : Token) (h : Typable b.tokens)
    (hzero : b.tokens ≠ [zero]) (hfollow : b.last.mayFollow token = true)
    (hspelled : token.IsSpelled)
    (hclose : token.isClose = true → b.closeCount < b.openCount) :
    Typable (b.tokens ++ [token]) :=
  Typable.concat_iff.mpr ⟨h, hfollow, hspelled, hclose, hzero⟩

theorem typable_pop {b : Buffer} (h : Typable b.tokens) : Typable b.pop.tokens := by
  rw [tokens_pop]
  split
  · exact Typable.zero
  · next hne => exact h.of_prefix (List.prefix_append _ _) hne

theorem typable_replaceNumber (b : Buffer) {text text' : Text} (h : Typable b.tokens)
    (hlast : b.last = .number text) (htext : IsNumberText text') :
    Typable (b.before ++ [.number text']) := by
  rw [tokens, hlast] at h
  exact h.exchange rfl htext

theorem isNumberText_last {b : Buffer} {text : Text} (h : Typable b.tokens)
    (hlast : b.last = .number text) : IsNumberText text := by
  have hmem : Token.number text ∈ b.tokens := by
    rw [tokens, hlast]
    exact List.mem_concat_self
  exact h.spelled _ hmem

/-! ## One key -/

theorem typable_typeDigits {b : Buffer} {c : Char} (herror : b.error = false)
    (h : Typable b.tokens) (hc : isAsciiDigit c = true) : Typable (b.typeDigits [c]).tokens := by
  have hdigit : IsNumberText [c] := .plain (.digit hc)
  unfold typeDigits
  split
  · exact Typable.number hdigit
  · next hzero =>
      have hzero := tokens_ne_zero herror (by simpa using hzero)
      cases hlast : b.last with
      | number text =>
          exact typable_replaceNumber b h hlast ((isNumberText_last h hlast).concat_digit hc)
      | operator _ | openParen _ | closeParen _ =>
          exact typable_push (.number [c]) h hzero (by rw [hlast]; rfl) hdigit nofun

theorem typable_typePoint {b : Buffer} (herror : b.error = false) (h : Typable b.tokens) :
    Typable b.typePoint.tokens := by
  have hpoint : IsNumberText "0.".toList :=
    .plain ((IsUnsigned.digit rfl).concat_point (by decide))
  unfold typePoint
  split
  · exact Typable.number hpoint
  · next hzero =>
      have hzero := tokens_ne_zero herror (by simpa using hzero)
      cases hlast : b.last with
      | number text =>
          by_cases hp : text.contains '.' = true
          · simp only [hp, if_true]
            exact h
          · simp only [hp]
            refine typable_replaceNumber b h hlast ((isNumberText_last h hlast).concat_point ?_)
            simpa using hp
      | operator _ | openParen _ =>
          exact typable_push (.number "0.".toList) h hzero (by rw [hlast]; rfl) hpoint nofun
      | closeParen _ => exact h

theorem typable_typeOperator {b : Buffer} (herror : b.error = false) (h : Typable b.tokens)
    (op : Operator) : Typable (b.typeOperator op).tokens := by
  unfold typeOperator
  split
  · exact h
  · next hzero =>
      have hzero := tokens_ne_zero herror (by simpa using hzero)
      cases hlast : b.last with
      | operator text =>
          have h' : Typable (b.before ++ [b.last]) := h
          rw [hlast] at h'
          have hspelled : (ofOperator op).IsSpelled := ⟨op, rfl⟩
          exact h'.exchange rfl hspelled
      | number _ | openParen _ | closeParen _ =>
          exact typable_push (ofOperator op) h hzero (by rw [hlast]; rfl) ⟨op, rfl⟩ nofun

theorem typable_typeOpen {b : Buffer} (herror : b.error = false) (h : Typable b.tokens) :
    Typable b.typeOpen.tokens := by
  unfold typeOpen
  split
  · exact Typable.singleton_iff.mpr ⟨rfl, rfl⟩
  · next hzero =>
      have hzero := tokens_ne_zero herror (by simpa using hzero)
      cases hlast : b.last with
      | number text =>
          have htimes : Typable (b.push (ofOperator .times)).tokens :=
            typable_push (ofOperator .times) h hzero (by rw [hlast]; rfl) ⟨.times, rfl⟩ nofun
          exact typable_push opening htimes (push_ne_zero _ _) rfl rfl nofun
      | operator _ | openParen _ =>
          exact typable_push opening h hzero (by rw [hlast]; rfl) rfl nofun
      | closeParen _ => exact h

theorem typable_typeClose {b : Buffer} (h : Typable b.tokens) :
    Typable b.typeClose.tokens := by
  unfold typeClose
  split
  · next hclose =>
      simp only [Bool.and_eq_true, decide_eq_true_eq, Bool.or_eq_true] at hclose
      refine typable_push closing h ?_ ?_ rfl fun _ => hclose.1
      · intro hzero
        have hcount := hclose.1
        rw [closeCount, openCount, hzero] at hcount
        contradiction
      · rcases hclose.2 with hlast | hlast
        · cases hb : b.last <;> simp_all [isNumber, mayFollow, closing, isClose]
        · cases hb : b.last <;> simp_all [isClose, mayFollow, closing]
  · exact h

theorem typable_backspace {b : Buffer} (herror : b.error = false) (h : Typable b.tokens) :
    Typable b.backspace.tokens := by
  unfold backspace
  rw [herror, if_neg Bool.false_ne_true]
  cases hlast : b.last with
  | number text =>
      by_cases hgone : text.dropLast = [] ∨ text.dropLast = ['-']
      · simp only [hgone, if_true]
        exact typable_pop h
      · simp only [hgone, if_false]
        rw [not_or] at hgone
        exact typable_replaceNumber b h hlast
          ((isNumberText_last h hlast).dropLast hgone.1 hgone.2)
  | operator _ | openParen _ | closeParen _ => exact typable_pop h

theorem typable_toggleSign {b : Buffer} (h : Typable b.tokens) :
    Typable b.toggleSign.tokens := by
  unfold toggleSign
  cases hlast : b.last with
  | number text => exact typable_replaceNumber b h hlast (isNumberText_last h hlast).flipSign
  | operator _ | openParen _ | closeParen _ => exact h

/-! ## The error display

Editing keys never bring an error up.
-/

theorem error_typeDigits {b : Buffer} (h : b.error = false) (digits : Text) :
    (b.typeDigits digits).error = false := by
  unfold typeDigits
  split
  · rfl
  · cases b.last <;> exact h

theorem error_typePoint {b : Buffer} (h : b.error = false) : b.typePoint.error = false := by
  unfold typePoint
  split
  · rfl
  · cases b.last with
    | number text =>
        cases hp : text.contains '.' <;> simp only [hp, if_true] <;> exact h
    | operator _ | openParen _ | closeParen _ => exact h

theorem error_append (b : Buffer) (tokens : List Token) :
    (b.append tokens).error = b.error := by
  induction tokens generalizing b with
  | nil => rfl
  | cons token rest ih => exact ih (b.push token)

theorem error_pop (b : Buffer) : b.pop.error = b.error := by
  unfold pop
  split <;> rfl

theorem error_edited {b : Buffer} (h : b.error = false) (action : Action) :
    (b.edited action).error = false := by
  cases action with
  | digit d => exact error_typeDigits h _
  | point => exact error_typePoint h
  | operator op =>
      simp only [edited, typeOperator]
      split
      · exact h
      · cases b.last <;> exact h
  | openParen =>
      simp only [edited, typeOpen]
      split
      · exact h
      · cases b.last with
        | number _ => exact (error_append b _).trans h
        | operator _ | openParen _ | closeParen _ => exact h
  | closeParen =>
      simp only [edited, typeClose]
      split <;> exact h
  | backspace =>
      simp only [edited, backspace]
      rw [h, if_neg Bool.false_ne_true]
      cases b.last with
      | number text =>
          simp only
          split
          · exact (error_pop b).trans h
          · exact h
      | operator _ | openParen _ | closeParen _ => exact (error_pop b).trans h
  | allClear => rfl
  | toggleSign =>
      simp only [edited, toggleSign]
      cases b.last <;> exact h
  | percent | equals | memoryAdd | memorySubtract | memoryRecall | memoryClear => exact h

/-! ## Runs of keys -/

theorem typable_edited {b : Buffer} (herror : b.error = false) (h : Typable b.tokens)
    (action : Action) : Typable (b.edited action).tokens := by
  cases action with
  | digit d => exact typable_typeDigits herror h (isAsciiDigit_digitChar d)
  | point => exact typable_typePoint herror h
  | operator op => exact typable_typeOperator herror h op
  | openParen => exact typable_typeOpen herror h
  | closeParen => exact typable_typeClose h
  | backspace => exact typable_backspace herror h
  | allClear => exact Typable.zero
  | toggleSign => exact typable_toggleSign h
  | percent | equals | memoryAdd | memorySubtract | memoryRecall | memoryClear => exact h

theorem typable_typeNumber {b : Buffer} {text : Text} (herror : b.error = false)
    (h : Typable b.tokens) (htext : ∀ c ∈ text, isAsciiDigit c = true ∨ c = '.') :
    Typable (b.typeNumber text).tokens := by
  induction text generalizing b with
  | nil => exact h
  | cons c rest ih =>
      have hrest : ∀ d ∈ rest, isAsciiDigit d = true ∨ d = '.' :=
        fun d hd => htext d (List.mem_cons_of_mem c hd)
      simp only [typeNumber, List.foldl_cons] at ih ⊢
      by_cases hc : c = '.'
      · rw [if_pos hc]
        exact ih (error_typePoint herror) (typable_typePoint herror h) hrest
      · rw [if_neg hc]
        have hdigit := (htext c List.mem_cons_self).resolve_right hc
        exact ih (error_typeDigits herror _) (typable_typeDigits herror h hdigit) hrest

/-- Recalling a number is typing: what can be typed stays so. -/
theorem typable_typeRecalled {b : Buffer} {text : Text} (herror : b.error = false)
    (h : Typable b.tokens) (htext : IsNumberText text) :
    Typable (b.typeRecalled text).tokens := by
  unfold typeRecalled
  split
  · exact Typable.number htext
  · next hzero =>
      have hzero := tokens_ne_zero herror (by simpa using hzero)
      cases hlast : b.last with
      | operator _ | openParen _ =>
          exact typable_push (.number text) h hzero (by rw [hlast]; rfl) htext nofun
      | number _ | closeParen _ =>
          cases htext with
          | negative unsigned =>
              have hminus : Typable (b.push (ofOperator .minus)).tokens :=
                typable_push (ofOperator .minus) h hzero (by rw [hlast]; rfl) ⟨.minus, rfl⟩ nofun
              exact typable_push (.number _) hminus (push_ne_zero _ _) rfl (.plain unsigned) nofun
          | plain unsigned =>
              split
              · next heq => cases heq
              · next heq => cases heq
              · exact absurd rfl (unsigned.ne_minus_cons _)
              · exact typable_typeNumber herror h unsigned.digit_or_point

end Buffer

end FieldCalc
