import FieldCalc.Proofs.Calculator.Reached
import FieldCalc.Proofs.Display.Plain
import FieldCalc.Proofs.Display.ReadBack
import FieldCalc.Proofs.Expression.Relex
import FieldCalc.Proofs.Session.Lifecycle

/-!
# A display that reads as a number

What is committed is decided by the text of the display alone. In a plain number only a minus sign
may stand beside the digits and the point, and only at the front, where no operator of a token list
that can be typed stands. So the text of such a list is a plain number just where the list is a
number by itself, and an expression that was not evaluated is never taken for one.
-/

namespace FieldCalc

/-! ## Plain texts -/

namespace Display

theorem head_of_isPlain {t : Text} (h : isPlain t = true) :
    ∀ c ∈ t.head?, c = '-' ∨ isDecimalDigit c = true ∨ c = '.' := by
  intro c hc
  unfold isPlain at h
  split at h
  · exact .inl (Option.some.inj hc).symm
  · exact .inr (digit_or_point_of_isPlainUnsigned h c (List.mem_of_mem_head? hc))

theorem tail_of_isPlain {t : Text} (h : isPlain t = true) :
    ∀ c ∈ t.tail, isDecimalDigit c = true ∨ c = '.' := by
  unfold isPlain at h
  split at h
  · exact digit_or_point_of_isPlainUnsigned h
  · exact fun c hc => digit_or_point_of_isPlainUnsigned h c (List.mem_of_mem_tail hc)

theorem plainNumber?_errorText : plainNumber? errorText = none := by
  decide

end Display

/-! ## Token lists that can be typed -/

namespace Token

/-- What may follow a number starts with a character that no plain number has. -/
theorem exists_symbol_of_follows_number {text : Text} {next : Token}
    (hfollow : (number text).mayFollow next = true) (h : next.IsSpelled) :
    ∃ c rest, next.text = c :: rest ∧ isDecimalDigit c = false ∧ c ≠ '.' := by
  cases next with
  | operator symbol =>
      obtain ⟨op, rfl⟩ := h
      exact ⟨op.symbol, [], rfl, by cases op <;> decide, by cases op <;> decide⟩
  | closeParen symbol =>
      cases h
      exact ⟨')', [], rfl, by decide, by decide⟩
  | number _ | openParen _ => cases hfollow

end Token

open Token

namespace Typable

variable {tokens : List Token}

/-- Only a number by itself is made of numbers alone. -/
theorem lone_of_all_number (h : Typable tokens) (hall : ∀ token ∈ tokens, token.isNumber = true) :
    ∃ t, tokens = [.number t] := by
  obtain ⟨first, rest, rfl⟩ := List.exists_cons_of_ne_nil h.nonempty
  cases first with
  | number t =>
      cases rest with
      | nil => exact ⟨t, rfl⟩
      | cons next more =>
          have hfollow := (List.isChain_cons_cons.mp h.follows).1
          have hnext := hall next (List.mem_cons_of_mem _ List.mem_cons_self)
          cases next with
          | number _ => cases hfollow
          | operator _ | openParen _ | closeParen _ => cases hnext
  | operator _ | openParen _ | closeParen _ => cases hall _ List.mem_cons_self

theorem lone_of_isPlain (h : Typable tokens) (hplain : Display.isPlain (textOf tokens) = true) :
    ∃ t, tokens = [.number t] := by
  obtain ⟨first, rest, rfl⟩ := List.exists_cons_of_ne_nil h.nonempty
  cases first with
  | number t =>
      cases rest with
      | nil => exact ⟨t, rfl⟩
      | cons next more =>
          have hspelled : IsNumberText t := h.spelled (.number t) List.mem_cons_self
          obtain ⟨c, symbols, hsymbol, hdigit, hpoint⟩ := exists_symbol_of_follows_number
            (List.isChain_cons_cons.mp h.follows).1
            (h.spelled next (List.mem_cons_of_mem _ List.mem_cons_self))
          -- The number is not empty, so that this character is not at the front.
          obtain ⟨d, digits, rfl⟩ := List.exists_cons_of_ne_nil hspelled.ne_nil
          have hmem : c ∈ (textOf (.number (d :: digits) :: next :: more)).tail := by
            rw [textOf_cons, textOf_cons, hsymbol]
            simp [Token.text]
          rcases Display.tail_of_isPlain hplain c hmem with hc | hc
          · rw [hdigit] at hc
            cases hc
          · exact absurd hc hpoint
  | openParen t =>
      obtain rfl : t = ['('] := h.spelled (.openParen t) List.mem_cons_self
      have hhead := Display.head_of_isPlain hplain '(' rfl
      exact absurd hhead (by decide)
  | operator _ | closeParen _ => cases h.starts _ rfl

theorem trim_textOf (h : Typable tokens) : (textOf tokens).trim = textOf tokens := by
  rw [← Expression.textOf_flatMap_apart]
  exact Expression.trim_textOf (Expression.isLexeme_flatMap_apart h.spelled)

end Typable

/-! ## The display -/

/-- The display shows nothing but one number token. -/
def Buffer.IsLone (b : Buffer) (t : Text) : Prop := b.error = false ∧ b.tokens = [.number t]

theorem Buffer.IsLone.text_eq {b : Buffer} {t : Text} (hlone : b.IsLone t) : b.text = t := by
  rw [Buffer.text, hlone.1, hlone.2]
  exact List.append_nil t

theorem Buffer.IsLone.plainNumber? {b : Buffer} {t : Text} (hlone : b.IsLone t)
    (h : Typable b.tokens) : ∃ x, Numeral.read? t = some x ∧ Display.plainNumber? b.text = some x := by
  have hspelled : IsNumberText t := h.spelled (.number t) (hlone.2 ▸ List.mem_singleton_self _)
  obtain ⟨x, hx⟩ := Numeral.read?_of_isNumberText hspelled
  exact ⟨x, hx, by rw [hlone.text_eq, Display.plainNumber?_of_isNumberText hspelled, hx]⟩

theorem Buffer.isLone_of_plainNumber? {b : Buffer} (h : Typable b.tokens) {x : Binary64}
    (hx : Display.plainNumber? b.text = some x) : ∃ t, b.IsLone t := by
  unfold Buffer.text at hx
  split at hx
  · rw [Display.plainNumber?_errorText] at hx
    cases hx
  · next hready =>
      unfold Display.plainNumber? at hx
      rw [h.trim_textOf] at hx
      split at hx
      · next hplain =>
          obtain ⟨t, ht⟩ := h.lone_of_isPlain hplain
          exact ⟨t, by simpa using hready, ht⟩
      · cases hx

/-! ## What is committed -/

namespace Session

/-- How the value to be committed depends on the tokens, though it is read off the display. -/
structure CommitsLone (s : Session) : Prop where
  plain_iff : (∃ x, Display.plainNumber? s.display = some x) ↔ ∃ t, s.calculator.buffer.IsLone t
  lone_iff : (∃ t, s.calculator.buffer.IsLone t) ↔ s.calculator.buffer.error = false ∧
    ∀ token ∈ s.calculator.buffer.tokens, token.isNumber = true
  lone : ∀ t, s.calculator.buffer.IsLone t → ∃ x, Numeral.read? t = some x ∧
    Display.plainNumber? s.display = some x ∧ s.resultValue = Display.commit s.places x
  otherwise : (¬∃ t, s.calculator.buffer.IsLone t) → s.resultValue = .zero
  commits : s.isOpen = true →
    s.commit = .ok ({ s with state := .committed s.resultValue }, s.resultValue)

variable {s : Session} {tape : Tape}

/-- A number that stands by itself is committed as it reads. Zero is committed for an error, and
for an expression with an operator or a parenthesis in it. -/
theorem commitsLone (h : Reached s.calculator tape) : s.CommitsLone where
  plain_iff := by
    constructor
    · rintro ⟨x, hx⟩
      exact Buffer.isLone_of_plainNumber? h.typable hx
    · rintro ⟨t, hlone⟩
      obtain ⟨x, -, hx⟩ := hlone.plainNumber? h.typable
      exact ⟨x, hx⟩
  lone_iff := by
    constructor
    · rintro ⟨t, hready, htokens⟩
      refine ⟨hready, fun token htoken => ?_⟩
      rw [htokens] at htoken
      rw [List.mem_singleton.mp htoken]
      rfl
    · rintro ⟨hready, hall⟩
      obtain ⟨t, ht⟩ := h.typable.lone_of_all_number hall
      exact ⟨t, hready, ht⟩
  lone t hlone := by
    obtain ⟨x, hread, hx⟩ := hlone.plainNumber? h.typable
    refine ⟨x, hread, hx, ?_⟩
    have hdisplay : Display.plainNumber? s.display = some x := hx
    rw [resultValue, hdisplay]
  otherwise hnone := by
    cases hdisplay : Display.plainNumber? s.display with
    | none => rw [resultValue, hdisplay]
    | some x => exact absurd (Buffer.isLone_of_plainNumber? h.typable hdisplay) hnone
  commits := commit_of_open

/-- A sum that was typed, but not evaluated. -/
theorem commitsLone_unevaluated : ∃ (s : Session) (tape : Tape), Reached s.calculator tape ∧
    s.display = "5+3".toList ∧ s.CommitsLone ∧ ∃ closed, s.commit = .ok (closed, .zero) := by
  have typed := (((Reached.fresh 2).press (.digit 5)).press (.operator .plus)).press (.digit 3)
  let plus := (((Calculator.fresh 2).press (.digit 5)).state.press (.operator .plus)).state
  let s : Session := ⟨(plus.press (.digit 3)).state, .open, Buffer.fresh⟩
  have commits : s.CommitsLone := commitsLone typed
  have hzero : s.resultValue = .zero := by
    refine commits.otherwise fun hlone => ?_
    have hplus := (commits.lone_iff.mp hlone).2 (.ofOperator .plus)
    exact absurd (hplus (by decide +kernel)) (by decide)
  have hcommit := commits.commits rfl
  rw [hzero] at hcommit
  exact ⟨s, _, typed, by decide +kernel, commits, _, hcommit⟩

end Session

end FieldCalc
