import FieldCalc.Proofs.Buffer.Typing

/-!
# Erasing

Backspace works on the last token, and what it does is said here of the text. One character goes,
or two where the text ends in a number that is a sign and one digit, since no number is a sign
alone. Where nothing would be left, there is a zero. So each press leaves a lone zero or makes the
text shorter, and a key that typed one character is undone.
-/

namespace FieldCalc

/-- The text, or a zero where it is empty. -/
def Text.orZero (t : Text) : Text := if t = [] then ['0'] else t

theorem Text.orZero_of_ne_nil {t : Text} (h : t ≠ []) : orZero t = t := if_neg h

/-- An operator or a parenthesis. -/
def Action.isSymbol : Action → Bool
  | operator _ | openParen | closeParen => true
  | _ => false

theorem Action.isEdit_of_isSymbol {action : Action} (h : action.isSymbol = true) :
    action.isEdit = true := by
  cases action <;> first
    | rfl
    | cases h

namespace Token

/-- What backspace leaves of the text of a token. -/
def erased : Token → Text
  | number t => if t.dropLast = ['-'] then [] else t.dropLast
  | _ => []

theorem erased_number_eq_nil_iff {t : Text} :
    erased (number t) = [] ↔ t.dropLast = [] ∨ t.dropLast = ['-'] := by
  by_cases hsign : t.dropLast = ['-'] <;> simp [erased, hsign]

theorem IsSpelled.text_ne_nil {token : Token} (h : token.IsSpelled) : token.text ≠ [] := by
  cases token with
  | number t => exact IsNumberText.ne_nil h
  | operator t =>
      obtain ⟨op, rfl⟩ := h
      exact List.cons_ne_nil _ _
  | openParen t | closeParen t =>
      cases h
      exact List.cons_ne_nil _ _

theorem IsSpelled.erased_eq {token : Token} (h : token.IsSpelled)
    (hsigned : ∀ c, token ≠ number ['-', c]) : token.erased = token.text.dropLast := by
  cases token with
  | number t =>
      refine if_neg fun hsign => ?_
      obtain ⟨init, c, rfl⟩ := (List.eq_nil_or_concat' t).resolve_left (IsNumberText.ne_nil h)
      rw [List.dropLast_concat] at hsign
      exact hsigned c (by rw [hsign]; rfl)
  | operator t =>
      obtain ⟨op, rfl⟩ := h
      rfl
  | openParen t | closeParen t =>
      cases h
      rfl

theorem IsSpelled.length_erased_lt {token : Token} (h : token.IsSpelled) :
    token.erased.length < token.text.length := by
  have hpos := List.length_pos_iff.mpr h.text_ne_nil
  have hlt : token.text.dropLast.length < token.text.length := by
    rw [List.length_dropLast]
    omega
  cases token with
  | number t =>
      by_cases hsign : t.dropLast = ['-']
      · rw [erased, if_pos hsign]
        exact hpos
      · rw [erased, if_neg hsign]
        exact hlt
  | operator _ | openParen _ | closeParen _ => exact hpos

theorem textOf_eq_nil_iff {tokens : List Token} (h : ∀ token ∈ tokens, token.IsSpelled) :
    textOf tokens = [] ↔ tokens = [] := by
  cases tokens with
  | nil => exact iff_of_true rfl rfl
  | cons first rest =>
      refine iff_of_false (fun hnil => ?_) (List.cons_ne_nil first rest)
      exact (h first List.mem_cons_self).text_ne_nil (List.append_eq_nil_iff.mp hnil).1

end Token

open Token

namespace Buffer

variable {b : Buffer} {front : List Token} {token : Token}

theorem text_of_ready (ready : b.error = false) : b.text = textOf b.before ++ b.last.text := by
  rw [text, ready, if_neg Bool.false_ne_true, tokens, textOf_append, textOf_cons, textOf_nil,
    List.append_nil]

/-! ## One press -/

theorem tokens_backspace (ready : b.error = false) : b.backspace.tokens =
    if b.last.erased ≠ [] then b.before ++ [.number b.last.erased]
    else if b.before ≠ [] then b.before else [zero] := by
  have hpop : b.pop.tokens = if b.before ≠ [] then b.before else [zero] := by
    rw [tokens_pop, ite_not]
  unfold backspace
  rw [ready, if_neg Bool.false_ne_true, ← hpop]
  cases b.last with
  | number t =>
      by_cases hgone : t.dropLast = [] ∨ t.dropLast = ['-']
      · rw [if_neg (not_not.mpr (erased_number_eq_nil_iff.mpr hgone))]
        simp only [hgone, if_true]
      · have herased : erased (number t) = t.dropLast := if_neg (not_or.mp hgone).2
        rw [if_pos (erased_number_eq_nil_iff.not.mpr hgone), herased]
        simp only [hgone, if_false]
        rfl
  | operator _ | openParen _ | closeParen _ => rfl

theorem text_backspace (ready : b.error = false) (htyped : Typable b.tokens) :
    b.backspace.text = Text.orZero (textOf b.before ++ b.last.erased) := by
  have hready : b.backspace.error = false := error_edited ready .backspace
  rw [text, hready, if_neg Bool.false_ne_true, tokens_backspace ready]
  split
  · next hleft =>
      rw [Text.orZero_of_ne_nil (List.append_ne_nil_of_right_ne_nil _ hleft), textOf_append,
        textOf_cons, textOf_nil, List.append_nil]
      rfl
  · next hgone =>
      have hbefore : ∀ token ∈ b.before, token.IsSpelled :=
        fun token h => htyped.spelled token (List.mem_append_left _ h)
      rw [not_not.mp hgone, List.append_nil]
      split
      · next hne => rw [Text.orZero_of_ne_nil ((textOf_eq_nil_iff hbefore).not.mpr hne)]
      · next hnil =>
          rw [not_not.mp hnil]
          rfl

theorem text_backspace_of_unsigned (ready : b.error = false) (htyped : Typable b.tokens)
    (hlast : ∀ c, b.last ≠ .number ['-', c]) :
    b.backspace.text = Text.orZero b.text.dropLast := by
  have hspelled : b.last.IsSpelled := htyped.spelled _ List.mem_concat_self
  rw [text_backspace ready htyped, text_of_ready ready, hspelled.erased_eq hlast,
    List.dropLast_append_of_ne_nil hspelled.text_ne_nil]

/-- A sign goes with the only digit after it. -/
theorem text_backspace_of_signed {c : Char} (ready : b.error = false) (htyped : Typable b.tokens)
    (hlast : b.last = .number ['-', c]) :
    b.text = textOf b.before ++ ['-', c] ∧ b.backspace.text = Text.orZero (textOf b.before) := by
  rw [text_backspace ready htyped, text_of_ready ready, hlast]
  exact ⟨rfl, congrArg Text.orZero (List.append_nil _)⟩

/-! ## Any number of presses -/

theorem backspace_shorter (ready : b.error = false) (htyped : Typable b.tokens) :
    b.backspace.tokens = [zero] ∨ b.backspace.text.length < b.text.length := by
  have hlt := (htyped.spelled b.last List.mem_concat_self).length_erased_lt
  by_cases hnil : textOf b.before ++ b.last.erased = []
  · obtain ⟨hbefore, hgone⟩ := List.append_eq_nil_iff.mp hnil
    have hfront := (textOf_eq_nil_iff fun token h =>
      htyped.spelled token (List.mem_append_left _ h)).mp hbefore
    exact .inl (by rw [tokens_backspace ready, if_neg (not_not.mpr hgone),
      if_neg (not_not.mpr hfront)])
  · refine .inr ?_
    rw [text_backspace ready htyped, Text.orZero_of_ne_nil hnil, text_of_ready ready,
      List.length_append, List.length_append]
    omega

theorem tokens_backspace_zero (ready : b.error = false) (h : b.tokens = [zero]) :
    b.backspace.tokens = [zero] := by
  obtain ⟨hbefore, hlast⟩ : b.before = [] ∧ b.last = zero := by
    simpa [tokens, List.append_eq_singleton_iff] using h
  rw [tokens_backspace ready, hbefore, hlast]
  rfl

theorem tokens_backspaces_zero (ready : b.error = false) (h : b.tokens = [zero]) (n : Nat) :
    (b.editedBy (List.replicate n .backspace)).tokens = [zero] := by
  induction n generalizing b with
  | zero => exact h
  | succ n ih => exact ih (error_edited ready .backspace) (tokens_backspace_zero ready h)

/-- As many presses as the text has characters leave the lone zero. -/
theorem tokens_backspaces (ready : b.error = false) (htyped : Typable b.tokens) {n : Nat}
    (hn : b.text.length ≤ n) : (b.editedBy (List.replicate n .backspace)).tokens = [zero] := by
  induction n generalizing b with
  | zero =>
      have hne := (htyped.spelled b.last List.mem_concat_self).text_ne_nil
      rw [Nat.le_zero, List.length_eq_zero_iff, text_of_ready ready] at hn
      exact absurd (List.append_eq_nil_iff.mp hn).2 hne
  | succ n ih =>
      have hready : b.backspace.error = false := error_edited ready .backspace
      rcases backspace_shorter ready htyped with hzero | hshorter
      · exact tokens_backspaces_zero hready hzero n
      · exact ih hready (typable_backspace ready htyped)
          (Nat.le_of_lt_succ (Nat.lt_of_lt_of_le hshorter hn))

/-! ## Undoing a key -/

/-- A token of one character after others is all that goes. -/
theorem tokens_backspace_concat (ready : b.error = false) (h : b.tokens = front ++ [token])
    (hne : front ≠ []) (hone : token.text.length = 1) : b.backspace.tokens = front := by
  obtain ⟨hbefore, hlast⟩ := List.append_inj' h rfl
  obtain rfl : b.last = token := List.singleton_inj.mp hlast
  have hgone : b.last.erased = [] := by
    cases hkind : b.last with
    | number t =>
        rw [hkind] at hone
        obtain ⟨c, rfl⟩ := List.length_eq_one_iff.mp hone
        rfl
    | operator _ | openParen _ | closeParen _ => rfl
  rw [tokens_backspace ready, hgone, hbefore, if_neg (not_not.mpr rfl), if_pos hne]

theorem tokens_backspace_longer {t : Text} (ready : b.error = false) (h : IsNumberText t)
    (c : Char) (hlast : b.last = .number (t ++ [c])) :
    b.backspace.tokens = b.before ++ [.number t] := by
  have hsign : t ≠ ['-'] := by
    rintro rfl
    cases h with
    | plain unsigned => exact unsigned.ne_minus_cons [] rfl
    | negative unsigned => exact unsigned.ne_nil rfl
  have hleft : erased (.number (t ++ [c])) = t := by
    rw [erased, List.dropLast_concat, if_neg hsign]
  rw [tokens_backspace ready, hlast, hleft, if_pos h.ne_nil]

theorem backspace_typeDigits (ready : b.error = false) (htyped : Typable b.tokens) (c : Char) :
    (b.typeDigits [c]).backspace.tokens = b.tokens := by
  have hready := error_typeDigits ready [c]
  cases hzero : b.isZero with
  | true =>
      rw [(isZero_iff.mp hzero).2, tokens_backspace hready, typeDigits, if_pos hzero]
      rfl
  | false =>
      cases hlast : b.last with
      | number t =>
          rw [typeDigits_number hzero hlast] at hready ⊢
          rw [tokens_backspace_longer hready (isNumberText_last htyped hlast) c rfl, tokens, hlast]
          rfl
      | operator _ | openParen _ | closeParen _ =>
          refine tokens_backspace_concat hready ?_ (tokens_ne_nil b)
            (show (Token.number [c]).text.length = 1 from rfl)
          simp only [typeDigits, hzero, hlast, Bool.false_eq_true, if_false]
          rfl

theorem tokens_typeOperator (b : Buffer) (op : Operator) :
    (b.typeOperator op).tokens = b.tokens ∨
      (b.typeOperator op).tokens = b.before ++ [ofOperator op] ∨
        (b.typeOperator op).tokens = b.tokens ++ [ofOperator op] := by
  unfold typeOperator
  split
  · exact .inl rfl
  · cases b.last with
    | operator _ => exact .inr (.inl rfl)
    | number _ | openParen _ | closeParen _ => exact .inr (.inr rfl)

theorem tokens_typeOpen (b : Buffer) :
    b.typeOpen.tokens = b.tokens ∨ b.typeOpen.tokens = [opening] ∨
      b.typeOpen.tokens = b.tokens ++ [opening] ∨
        b.typeOpen.tokens = b.tokens ++ [ofOperator .times, opening] := by
  unfold typeOpen
  split
  · exact .inr (.inl rfl)
  · cases b.last with
    | number _ => exact .inr (.inr (.inr (tokens_append b _)))
    | closeParen _ => exact .inl rfl
    | operator _ | openParen _ => exact .inr (.inr (.inl rfl))

theorem tokens_typeClose (b : Buffer) :
    b.typeClose.tokens = b.tokens ∨ b.typeClose.tokens = b.tokens ++ [closing] := by
  unfold typeClose
  split
  · exact .inr rfl
  · exact .inl rfl

/-- An operator or a parenthesis that a key puts at the end is one character. -/
theorem length_text_appended {action : Action} (hkey : action.isSymbol = true)
    (h : (b.edited action).tokens = b.tokens ++ [token]) : token.text.length = 1 := by
  have hsymbol : ∀ {symbol : Token}, (b.edited action).tokens = b.tokens ++ [symbol] →
      symbol = token :=
    fun hpushed => List.singleton_inj.mp (List.append_cancel_left (hpushed.symm.trans h))
  -- Any other change leaves a list of another length.
  have hlength : ∀ {tokens : List Token}, (b.edited action).tokens = tokens →
      tokens.length = b.before.length + 2 := by
    rintro tokens rfl
    rw [h, tokens, List.length_append, List.length_append]
    rfl
  cases action with
  | operator op =>
      rcases tokens_typeOperator b op with hsame | hreplaced | hpushed
      · simpa [tokens] using hlength hsame
      · simpa using hlength hreplaced
      · rw [← hsymbol hpushed]
        cases op <;> rfl
  | openParen =>
      rcases tokens_typeOpen b with hsame | hloaded | hpushed | hboth
      · simpa [tokens] using hlength hsame
      · simpa using hlength hloaded
      · rw [← hsymbol hpushed]
        rfl
      · simpa [tokens] using hlength hboth
  | closeParen =>
      rcases tokens_typeClose b with hsame | hpushed
      · simpa [tokens] using hlength hsame
      · rw [← hsymbol hpushed]
        rfl
  | digit _ | point | backspace | allClear | toggleSign | percent | equals | memoryAdd
    | memorySubtract | memoryRecall | memoryClear => cases hkey

theorem backspace_symbol {action : Action} (ready : b.error = false)
    (hkey : action.isSymbol = true) (h : (b.edited action).tokens = b.tokens ++ [token]) :
    (b.edited action).backspace.tokens = b.tokens :=
  tokens_backspace_concat (error_edited ready action) h (tokens_ne_nil b)
    (length_text_appended hkey h)

theorem backspace_openParen_zero (h : b.isZero = true) :
    b.typeOpen.backspace.tokens = b.tokens := by
  have hopened : b.typeOpen = { b with before := [], last := opening, waiting := false } :=
    if_pos h
  obtain ⟨ready, hzero⟩ := isZero_iff.mp h
  have hready : b.typeOpen.error = false := error_edited ready .openParen
  rw [tokens_backspace hready, hopened, hzero]
  rfl

end Buffer

end FieldCalc
