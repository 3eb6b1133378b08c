import FieldCalc.Proofs.Buffer.Editing
import Mathlib.Data.List.Induction

/-!
# Keys that type a given token list

Every token list that can be typed is typed on a fresh buffer by editing keys alone. A number is
typed with its sign turned to minus right after the first digit: such a number is never the lone
zero that the next digit would replace, so leading zeros stay. A positive number gets its sign
back at the end.
-/

namespace FieldCalc

namespace Action

def ofNumberChar (c : Char) : Action := ((digitOfText? [c]).map digit).getD point

def forNegated : Text → List Action
  | [] => []
  | c :: rest => ofNumberChar c :: toggleSign :: rest.map ofNumberChar

def forToken : Token → List Action
  | .number ('-' :: unsigned) => forNegated unsigned
  | .number unsigned => forNegated unsigned ++ [toggleSign]
  | .operator text => (Operator.ofText? text).toList.map operator
  | .openParen _ => [openParen]
  | .closeParen _ => [closeParen]

def forTokens (tokens : List Token) : List Action := tokens.flatMap forToken

theorem forToken_plain {u : Text} (h : IsUnsigned u) :
    forToken (.number u) = forNegated u ++ [toggleSign] := by
  unfold forToken
  split
  · next heq => exact absurd (Token.number.inj heq) (h.ne_minus_cons _)
  · next heq => rw [Token.number.inj heq]
  · next heq => cases heq
  · next heq => cases heq
  · next heq => cases heq

theorem isEdit_ofNumberChar (c : Char) : (ofNumberChar c).isEdit = true := by
  unfold ofNumberChar
  cases digitOfText? [c] <;> rfl

theorem isEdit_numberChars (text : Text) :
    ∀ action ∈ text.map ofNumberChar, action.isEdit = true := by
  intro action h
  obtain ⟨c, -, rfl⟩ := List.mem_map.mp h
  exact isEdit_ofNumberChar c

theorem isEdit_forNegated (text : Text) : ∀ action ∈ forNegated text, action.isEdit = true := by
  cases text with
  | nil => nofun
  | cons c rest =>
      exact List.forall_mem_cons.mpr ⟨isEdit_ofNumberChar c,
        List.forall_mem_cons.mpr ⟨rfl, isEdit_numberChars rest⟩⟩

theorem isEdit_forTokens (tokens : List Token) :
    ∀ action ∈ forTokens tokens, action.isEdit = true := by
  intro action h
  obtain ⟨token, -, h⟩ := List.mem_flatMap.mp h
  unfold forToken at h
  split at h
  · exact isEdit_forNegated _ action h
  · rcases List.mem_append.mp h with h | h
    · exact isEdit_forNegated _ action h
    · rw [List.mem_singleton.mp h]
      rfl
  · obtain ⟨op, -, rfl⟩ := List.mem_map.mp h
    rfl
  · rw [List.mem_singleton.mp h]
    rfl
  · rw [List.mem_singleton.mp h]
    rfl

theorem ofNumberChar_digit {c : Char} (h : isAsciiDigit c = true) :
    ∃ d, ofNumberChar c = digit d ∧ digitText d = [c] := by
  obtain ⟨d, rfl⟩ := exists_digitChar h
  refine ⟨d, ?_, rfl⟩
  revert d
  decide

end Action

namespace Buffer

open Token FieldCalc.Action

/-- The buffer after several actions that only edit. -/
def editedBy (b : Buffer) (actions : List Action) : Buffer := actions.foldl edited b

@[simp] theorem editedBy_nil (b : Buffer) : b.editedBy [] = b := rfl

@[simp] theorem editedBy_cons (b : Buffer) (action : Action) (actions : List Action) :
    b.editedBy (action :: actions) = (b.edited action).editedBy actions := rfl

theorem editedBy_append (b : Buffer) (front back : List Action) :
    b.editedBy (front ++ back) = (b.editedBy front).editedBy back := List.foldl_append

theorem error_editedBy {b : Buffer} (herror : b.error = false) (actions : List Action) :
    (b.editedBy actions).error = false := by
  induction actions generalizing b with
  | nil => exact herror
  | cons action rest ih => exact ih (error_edited herror action)

/-- Whether a buffer shows no error and ends in a token after some others. -/
structure Ends (b : Buffer) (before : List Token) (last : Token) : Prop where
  error : b.error = false
  before : b.before = before
  last : b.last = last

theorem Ends.tokens {b : Buffer} {before : List Token} {last : Token} (h : b.Ends before last) :
    b.tokens = before ++ [last] := by
  rw [Buffer.tokens, h.before, h.last]

/-! ## Numbers -/

theorem typeNumber_cons (b : Buffer) (c : Char) (rest : Text) : b.typeNumber (c :: rest) =
    (if c = '.' then b.typePoint else b.typeDigits [c]).typeNumber rest := rfl

theorem editedBy_numberChars {text : Text} (h : ∀ c ∈ text, isAsciiDigit c = true ∨ c = '.')
    (b : Buffer) : b.editedBy (text.map ofNumberChar) = b.typeNumber text := by
  induction text generalizing b with
  | nil => rfl
  | cons c rest ih =>
      obtain ⟨hc, hrest⟩ := List.forall_mem_cons.mp h
      rw [List.map_cons, editedBy_cons, ih hrest, typeNumber_cons]
      congr 1
      split
      · next hpoint =>
          rw [hpoint]
          rfl
      · next hpoint =>
          obtain ⟨d, hkey, htext⟩ := ofNumberChar_digit (hc.resolve_right hpoint)
          rw [hkey, ← htext]
          rfl

section Numbers

variable {b : Buffer} {before : List Token} {t : Text}

theorem typeDigits_number (hzero : b.isZero = false) (hlast : b.last = .number t) (digits : Text) :
    b.typeDigits digits = { b.replaceLast (.number (t ++ digits)) with waiting := false } := by
  simp only [typeDigits, hzero, hlast, Bool.false_eq_true, if_false]

theorem typePoint_number (hzero : b.isZero = false) (hlast : b.last = .number t) (hp : '.' ∉ t) :
    b.typePoint = { b.replaceLast (.number (t ++ ['.'])) with waiting := false } := by
  have hfree : t.contains '.' = false := by simpa using hp
  simp only [typePoint, hzero, hlast, hfree, Bool.false_eq_true, if_false]

/-- Typing the characters of a number one by one extends a number at the end, if there is at most
one point in all. -/
theorem typeNumber_extends {rest : Text} (hzero : b.isZero = false) (hlast : b.last = .number t)
    (ne : t ≠ []) (hcount : (t ++ rest).count '.' ≤ 1) :
    b.typeNumber rest =
      { b.replaceLast (.number (t ++ rest)) with waiting := b.waiting && rest.isEmpty } := by
  induction rest generalizing b t with
  | nil =>
      rw [List.append_nil, ← hlast, List.isEmpty_nil, Bool.and_true]
      rfl
  | cons c rest ih =>
      have hstep : (if c = '.' then b.typePoint else b.typeDigits [c]) =
          { b.replaceLast (.number (t ++ [c])) with waiting := false } := by
        split
        · next hpoint =>
            subst hpoint
            refine typePoint_number hzero hlast fun hmem => ?_
            have hpos := List.count_pos_iff.mpr hmem
            rw [List.count_append, List.count_cons_self] at hcount
            omega
        · exact typeDigits_number hzero hlast [c]
      have hlonger :
          ({ b.replaceLast (.number (t ++ [c])) with waiting := false } : Buffer).isZero = false := by
        obtain ⟨d, more, rfl⟩ := List.exists_cons_of_ne_nil ne
        simp [isZero, replaceLast, zero]
      rw [List.append_cons] at hcount ⊢
      rw [typeNumber_cons, hstep, ih hlonger rfl (by simp) hcount, List.isEmpty_cons,
        Bool.and_false]
      rfl

theorem Ends.notZero_negative (h : b.Ends before (.number ('-' :: t))) : b.isZero = false := by
  simp [isZero, h.last, Token.zero]

theorem Ends.editedBy_chars {rest : Text} (h : b.Ends before (.number ('-' :: t)))
    (hchars : ∀ c ∈ rest, isAsciiDigit c = true ∨ c = '.')
    (hcount : (t ++ rest).count '.' ≤ 1) :
    (b.editedBy (rest.map ofNumberChar)).Ends before (.number ('-' :: (t ++ rest))) := by
  have hsigned : ('-' :: t ++ rest).count '.' ≤ 1 := by simpa using hcount
  rw [editedBy_numberChars hchars,
    typeNumber_extends h.notZero_negative h.last (List.cons_ne_nil _ _) hsigned]
  exact ⟨h.error, h.before, rfl⟩

theorem Ends.edited_toggleSign (h : b.Ends before (.number t)) :
    (b.edited .toggleSign).Ends before (.number (flipSign t)) := by
  refine ⟨error_edited h.error _, ?_, ?_⟩
  all_goals simp only [edited, toggleSign, h.last]
  · exact h.before
  · rfl

/-- Typing a number where its first digit starts a token types all of it. -/
theorem editedBy_number {text : Text} (htext : IsNumberText text)
    (hstart : ∀ c, isAsciiDigit c = true →
      (b.edited (ofNumberChar c)).Ends before (.number [c])) :
    (b.editedBy (forToken (.number text))).Ends before (.number text) := by
  -- The sign goes on after the first digit, so that no lone zero is left to be replaced.
  have hnegated : ∀ {u}, IsUnsigned u →
      (b.editedBy (forNegated u)).Ends before (.number ('-' :: u)) := by
    intro u hu
    have hchars := hu.digit_or_point
    have hcount := hu.count_point_le
    obtain ⟨c, rest, rfl, hc⟩ := hu.head_digit
    have hfirst := (hstart c hc).edited_toggleSign
    rw [(IsUnsigned.digit hc).flipSign] at hfirst
    exact hfirst.editedBy_chars (fun d hd => hchars d (List.mem_cons_of_mem c hd)) hcount
  cases htext with
  | negative unsigned => exact hnegated unsigned
  | plain unsigned =>
      rw [forToken_plain unsigned, editedBy_append]
      exact (hnegated unsigned).edited_toggleSign

end Numbers

/-! ## One token after another -/

section Following

variable {b : Buffer} {before : List Token} {last : Token}

theorem Ends.push {b' : Buffer} {token : Token} (h : b.Ends before last) (herror : b'.error = false)
    (hbefore : b'.before = b.tokens) (hlast : b'.last = token) :
    b'.Ends (before ++ [last]) token :=
  ⟨herror, hbefore.trans h.tokens, hlast⟩

theorem Ends.edited_first {c : Char} {text : Text} (h : b.Ends before last)
    (hzero : b.isZero = false) (hfollow : last.mayFollow (.number text) = true)
    (hc : isAsciiDigit c = true) :
    (b.edited (ofNumberChar c)).Ends (before ++ [last]) (.number [c]) := by
  obtain ⟨d, hkey, htext⟩ := ofNumberChar_digit hc
  refine h.push (error_edited h.error _) ?_ ?_
  all_goals
    simp only [hkey, edited, htext, typeDigits, hzero, h.last, Bool.false_eq_true, if_false]
    cases last with
    | number _ => exact absurd hfollow Bool.false_ne_true
    | operator _ | openParen _ | closeParen _ => rfl

theorem Ends.edited_operator {op : Operator} (h : b.Ends before last) (hzero : b.isZero = false)
    (hfollow : last.mayFollow (ofOperator op) = true) :
    (b.edited (.operator op)).Ends (before ++ [last]) (ofOperator op) := by
  refine h.push (error_edited h.error _) ?_ ?_
  all_goals
    simp only [edited, typeOperator, hzero, h.last, Bool.false_eq_true, if_false]
    cases last with
    | operator _ => exact absurd hfollow Bool.false_ne_true
    | number _ | openParen _ | closeParen _ => rfl

theorem Ends.edited_openParen (h : b.Ends before last) (hzero : b.isZero = false)
    (hfollow : last.mayFollow opening = true) :
    (b.edited .openParen).Ends (before ++ [last]) opening := by
  refine h.push (error_edited h.error _) ?_ ?_
  all_goals
    simp only [edited, typeOpen, hzero, h.last, Bool.false_eq_true, if_false]
    cases last with
    | number _ | closeParen _ => exact absurd hfollow Bool.false_ne_true
    | operator _ | openParen _ => rfl

theorem Ends.edited_closeParen (h : b.Ends before last)
    (hcount : closes (before ++ [last]) < opens (before ++ [last]))
    (hfollow : last.mayFollow closing = true) :
    (b.edited .closeParen).Ends (before ++ [last]) closing := by
  have hopen : b.closeCount < b.openCount := by
    rw [closeCount, openCount, h.tokens]
    exact hcount
  have hlast : (b.last.isNumber || b.last.isClose) = true := by
    rw [h.last]
    cases last with
    | number _ | closeParen _ => rfl
    | operator _ | openParen _ => exact absurd hfollow Bool.false_ne_true
  refine h.push (error_edited h.error _) ?_ ?_
  all_goals
    simp only [edited, typeClose, hopen, hlast, decide_true, Bool.and_self, if_true]
    rfl

/-! ## Token lists -/

theorem editedBy_concat {token : Token} (h : b.Ends before last)
    (htyped : Typable (before ++ [last] ++ [token])) :
    (b.editedBy (forToken token)).Ends (before ++ [last]) token := by
  obtain ⟨-, hfollow, hspelled, hclose, hne⟩ := Typable.concat_iff.mp htyped
  have hzero : b.isZero = false := by
    rw [← Bool.not_eq_true, isZero_iff, h.tokens]
    exact fun hb => hne hb.2
  cases token with
  | number text => exact editedBy_number hspelled fun c hc => h.edited_first hzero hfollow hc
  | operator text =>
      obtain ⟨op, rfl⟩ := hspelled
      simp only [forToken, Operator.ofText?_text, Option.toList_some, List.map_cons, List.map_nil]
      exact h.edited_operator hzero hfollow
  | openParen text =>
      cases hspelled
      exact h.edited_openParen hzero hfollow
  | closeParen text =>
      cases hspelled
      exact h.edited_closeParen (hclose rfl) hfollow

end Following

theorem editedBy_singleton {token : Token} (h : Typable [token]) :
    (fresh.editedBy (forToken token)).Ends [] token := by
  obtain ⟨hstart, hspelled⟩ := Typable.singleton_iff.mp h
  cases token with
  | number text =>
      refine editedBy_number hspelled fun c hc => ?_
      obtain ⟨d, hkey, htext⟩ := ofNumberChar_digit hc
      simp only [hkey, edited, htext]
      exact ⟨rfl, rfl, rfl⟩
  | openParen text =>
      cases hspelled
      exact ⟨rfl, rfl, rfl⟩
  | operator _ | closeParen _ => exact absurd hstart Bool.false_ne_true

theorem editedBy_forTokens {before : List Token} {last : Token}
    (h : Typable (before ++ [last])) :
    (fresh.editedBy (forTokens (before ++ [last]))).Ends before last := by
  -- Tokens are only ever typed at the end, so the induction takes them off there.
  induction before using List.reverseRecOn generalizing last with
  | nil =>
      simp only [forTokens, List.nil_append, List.flatMap_cons, List.flatMap_nil, List.append_nil]
      exact editedBy_singleton h
  | append_singleton earlier previous ih =>
      have hearlier : Typable (earlier ++ [previous]) := (Typable.concat_iff.mp h).1
      have hkeys : forTokens (earlier ++ [previous] ++ [last]) =
          forTokens (earlier ++ [previous]) ++ forToken last := by
        simp [forTokens, List.append_assoc]
      rw [hkeys, editedBy_append]
      exact editedBy_concat (ih hearlier) h

end Buffer

end FieldCalc
