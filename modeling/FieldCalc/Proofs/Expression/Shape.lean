import FieldCalc.Expression.Shape
import FieldCalc.Proofs.Expression.Defect
import FieldCalc.Proofs.Expression.Lexeme
import FieldCalc.Proofs.Expression.PlainNumber

/-!
# Shapes that are tested cheaply

The cheap test looks at the characters of a text alone. It refuses none that has a value: the
parentheses of a phrase balance wherever the phrase stands, and no phrase starts or ends with an
operator that needs an operand there. What is between the tokens is blank, which changes neither.
-/

namespace FieldCalc.Expression

open Token

/-! ## Parentheses -/

theorem balanced_cons {c : Char} (hopen : c ≠ '(') (hclose : c ≠ ')') (depth : Nat) (rest : Text) :
    balanced depth (c :: rest) = balanced depth rest := by
  rw [balanced.eq_def]
  simp only [if_neg hopen, if_neg hclose]

theorem balanced_filter (depth : Nat) (t : Text) :
    balanced depth (t.filter (!isBlank ·)) = balanced depth t := by
  have hparens : isBlank '(' = false ∧ isBlank ')' = false := by decide
  fun_induction balanced depth t with
  | case1 depth => rfl
  | case2 depth rest ih =>
      rw [List.filter_cons, if_pos (by simp [hparens])]
      exact ih
  | case3 rest =>
      rw [List.filter_cons, if_pos (by simp [hparens])]
      rfl
  | case4 rest _ depth ih =>
      rw [List.filter_cons, if_pos (by simp [hparens])]
      exact ih
  | case5 depth c rest hopen hclose ih =>
      rw [List.filter_cons]
      split
      · rw [balanced_cons hopen hclose, ih]
      · exact ih

theorem balanced_run {run : Text} (h : ∀ c ∈ run, isNumberChar c = true) (depth : Nat)
    (rest : Text) : balanced depth (run ++ rest) = balanced depth rest := by
  induction run with
  | nil => rfl
  | cons c more ih =>
      obtain ⟨hc, hmore⟩ := List.forall_mem_cons.mp h
      have hparen : ∀ d, isNumberChar d = false → c ≠ d := by
        rintro d hd rfl
        rw [hc] at hd
        cases hd
      rw [List.cons_append, balanced_cons (hparen '(' (by decide)) (hparen ')' (by decide)),
        ih hmore]

namespace Phrase

/-- A phrase leaves as many parentheses open as were open before it. -/
theorem balanced_textOf {rank : Rank} (e : Phrase Text rank)
    (h : ∀ token ∈ e.tokens, token.IsLexeme) (depth : Nat) (rest : Text) :
    balanced depth (textOf e.tokens ++ rest) = balanced depth rest := by
  induction e generalizing depth rest with
  | number text =>
      obtain ⟨-, hchars, -⟩ := isLexeme_number_iff.mp (h (.number text) List.mem_cons_self)
      rw [tokens, textOf_cons, textOf_nil, List.append_nil]
      exact balanced_run hchars depth rest
  | negation operand ih =>
      rw [tokens, textOf_cons]
      exact ih (List.forall_mem_cons.mp h).2 depth rest
  | group opening closing body ih =>
      obtain ⟨hopening, hrest⟩ := List.forall_mem_cons.mp h
      obtain ⟨hbody, hclosing⟩ := List.forall_mem_append.mp hrest
      obtain rfl : opening = ['('] := hopening
      obtain rfl : closing = [')'] := hclosing _ List.mem_cons_self
      rw [tokens, textOf_cons, textOf_append, List.append_assoc, List.append_assoc]
      exact ih hbody (depth + 1) (')' :: rest)
  | single first ih => exact ih h depth rest
  | step left op fits right ihLeft ihRight =>
      obtain ⟨hleft, hrest⟩ := List.forall_mem_append.mp h
      rw [tokens, textOf_append, List.append_assoc, ihLeft hleft, textOf_cons, List.append_assoc]
      have hsymbol : ∀ more, balanced depth (op.text ++ more) = balanced depth more :=
        fun more => by cases op <;> rfl
      exact (hsymbol _).trans (ihRight (List.forall_mem_cons.mp hrest).2 depth rest)

end Phrase

/-! ## Ends -/

theorem symbol_of_needsOperands {c : Char} (h : needsOperands c = true) :
    c ∈ "()+-*/".toList := by
  simp only [needsOperands, Bool.or_eq_true, beq_iff_eq] at h
  rcases h with (rfl | rfl) | rfl <;> decide

theorem exists_operator_of_needsOperands {token : Token} (hlexeme : token.IsLexeme) {c : Char}
    (hc : c ∈ token.text) (h : needsOperands c = true) :
    ∃ op : Operator, op ≠ .minus ∧ token = ofOperator op := by
  cases token with
  | number run =>
      have hnumber := (apart_of_symbol (symbol_of_needsOperands h)).2
      rw [(isLexeme_number_iff.mp hlexeme).2.1 c hc] at hnumber
      cases hnumber
  | operator text =>
      obtain ⟨op, rfl⟩ := hlexeme
      refine ⟨op, ?_, rfl⟩
      rintro rfl
      obtain rfl := List.mem_singleton.mp hc
      cases h
  | openParen text | closeParen text =>
      cases hlexeme
      obtain rfl := List.mem_singleton.mp hc
      cases h

theorem text_ne_nil {token : Token} (h : token.IsLexeme) : token.text ≠ [] := by
  cases token with
  | number run => exact (isLexeme_number_iff.mp h).1
  | operator text =>
      obtain ⟨op, rfl⟩ := h
      exact List.cons_ne_nil _ _
  | openParen text | closeParen text =>
      cases h
      exact List.cons_ne_nil _ _

namespace Phrase

variable {rank : Rank} (e : Phrase Text rank) (h : ∀ token ∈ e.tokens, token.IsLexeme)

include h

theorem head_textOf : ∀ c ∈ (textOf e.tokens).head?, needsOperands c = false := by
  intro c hc
  by_contra hneeds
  obtain ⟨first, rest, htokens⟩ := List.exists_cons_of_ne_nil e.tokens_ne_nil
  have hfirst := h first (htokens ▸ List.mem_cons_self)
  rw [htokens, textOf_cons, List.head?_append_of_ne_nil _ (text_ne_nil hfirst)] at hc
  obtain ⟨op, hop, rfl⟩ := exists_operator_of_needsOperands hfirst (List.mem_of_mem_head? hc)
    (by simpa using hneeds)
  have hclash := e.head_tokens (ofOperator op) (by rw [htokens]; rfl) []
  cases op with
  | minus => exact hop rfl
  | plus | times | divide => cases hclash

theorem last_textOf : ∀ c ∈ (textOf e.tokens).getLast?, needsOperands c = false := by
  intro c hc
  by_contra hneeds
  obtain ⟨before, last, htokens⟩ := (List.eq_nil_or_concat' e.tokens).resolve_left e.tokens_ne_nil
  have hlast := h last (htokens ▸ List.mem_concat_self)
  rw [htokens, textOf_append, textOf_cons, textOf_nil, List.append_nil,
    List.getLast?_append_of_ne_nil _ (text_ne_nil hlast)] at hc
  obtain ⟨op, -, rfl⟩ := exists_operator_of_needsOperands hlast (List.mem_of_getLast? hc)
    (by simpa using hneeds)
  have hdangles := e.dangles_last (ofOperator op) (by rw [htokens]; exact List.getLast?_concat)
  cases hdangles

end Phrase

/-- Blanks hide no operator at the ends of a text. -/
theorem ends_filter {t : Text} {c : Char} (h : needsOperands c = true) :
    (c ∈ t.head? → c ∈ (t.filter (!isBlank ·)).head?) ∧
      (c ∈ t.getLast? → c ∈ (t.filter (!isBlank ·)).getLast?) := by
  have hkept : (!isBlank c) = true := by
    simp [(apart_of_symbol (symbol_of_needsOperands h)).1]
  constructor
  · intro hc
    obtain ⟨rest, rfl⟩ := List.head?_eq_some_iff.mp hc
    rw [List.filter_cons, if_pos hkept]
    rfl
  · intro hc
    obtain ⟨init, rfl⟩ := List.getLast?_eq_some_iff.mp hc
    rw [List.filter_append, List.filter_cons, if_pos hkept]
    exact List.getLast?_concat

/-- The cheap test refuses no expression that has a value. -/
theorem wellShaped_of_value {t : Text} (hmath : looksLikeMath t = true) {x : Binary64}
    (h : textValue? t = some x) : wellShaped t = true := by
  obtain ⟨tokens, htokens, hvalue⟩ := textValue?_eq_some.mp h
  obtain ⟨-, e, rfl, -⟩ := evaluate_eq_ok hvalue
  have hlexed := lexed_of_lex htokens
  have hends : ∀ c, (c ∈ (tidy t).head? ∨ c ∈ (tidy t).getLast?) → needsOperands c = false := by
    intro c hc
    by_contra hneeds
    obtain ⟨hhead, hlast⟩ := @ends_filter (tidy t) c (by simpa using hneeds)
    rw [← hlexed.textOf_eq] at hhead hlast
    rcases hc with hc | hc
    · exact hneeds (e.head_textOf hlexed.isLexeme c (hhead hc))
    · exact hneeds (e.last_textOf hlexed.isLexeme c (hlast hc))
  have hbalanced : balanced 0 (tidy t) = true := by
    have hwhole := e.balanced_textOf hlexed.isLexeme 0 []
    rw [List.append_nil, hlexed.textOf_eq, balanced_filter] at hwhole
    exact hwhole
  obtain ⟨d, hd, -⟩ := exists_numberChar_of_textValue? h
  obtain ⟨c, rest, htidy⟩ := List.exists_cons_of_ne_nil (List.ne_nil_of_mem hd)
  rw [htidy] at hends hbalanced
  have hfirst := hends c (.inl rfl)
  have hlast := hends _ (.inr (List.getLast?_eq_some_getLast (List.cons_ne_nil c rest)))
  simp only [wellShaped, hmath, htidy, hfirst, hlast, hbalanced, Bool.not_false, Bool.and_self]

end FieldCalc.Expression
