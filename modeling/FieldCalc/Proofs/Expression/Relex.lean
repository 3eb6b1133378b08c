import FieldCalc.Proofs.Buffer.Typable
import FieldCalc.Proofs.Decimal.Sign
import FieldCalc.Proofs.Expression.Grammar
import FieldCalc.Proofs.Expression.Lexeme

/-!
# Reading an expression back from its text

The text of an expression has no mark between its tokens, and in it a minus sign is always an
operator. Cutting the text of a token list that can be typed gives the list back, except that a
number with a sign comes apart into the sign and the number. The phrases of the two lists have the
same value.
-/

namespace FieldCalc

/-- What the text of a token is cut into: a number loses its sign to an operator before it. -/
def Token.apart : Token → List Token
  | number ('-' :: unsigned) => [ofOperator .minus, number unsigned]
  | token => [token]

theorem Token.apart_number {text : Text} (h : IsUnsigned text) :
    (number text).apart = [number text] := by
  unfold apart
  split
  · next heq => exact absurd (number.inj heq) (h.ne_minus_cons _)
  · rfl

namespace Expression

open Token

/-! ## The tokens of a text -/

theorem isLexeme_of_unsigned {text : Text} (h : IsUnsigned text) : (number text).IsLexeme := by
  refine ⟨fun c hc => (h.digit_or_point c hc).imp_left isDigit_of_isAsciiDigit, ?_,
    h.count_point_le⟩
  obtain ⟨c, rest, rfl, hc⟩ := h.head_digit
  exact ⟨c, List.mem_cons_self, isDigit_of_isAsciiDigit hc⟩

/-- A token comes apart into pieces that a text is cut into. -/
theorem isLexeme_apart {token : Token} (h : token.IsSpelled) :
    ∀ piece ∈ token.apart, piece.IsLexeme := by
  cases token with
  | number text =>
      cases h with
      | plain unsigned =>
          rw [apart_number unsigned]
          exact List.forall_mem_singleton.mpr (isLexeme_of_unsigned unsigned)
      | negative unsigned =>
          exact List.forall_mem_cons.mpr ⟨⟨.minus, rfl⟩,
            List.forall_mem_singleton.mpr (isLexeme_of_unsigned unsigned)⟩
  | operator text | openParen text | closeParen text => exact List.forall_mem_singleton.mpr h

theorem textOf_apart (token : Token) : textOf token.apart = token.text := by
  unfold apart
  split
  · exact congrArg ('-' :: ·) (List.append_nil _)
  · exact List.append_nil _

theorem textOf_flatMap_apart (tokens : List Token) :
    textOf (tokens.flatMap apart) = textOf tokens := by
  induction tokens with
  | nil => rfl
  | cons token rest ih => rw [List.flatMap_cons, textOf_append, textOf_apart, ih, textOf_cons]

theorem apart_ne_nil (token : Token) : token.apart ≠ [] := by
  unfold apart
  split <;> exact List.cons_ne_nil _ _

theorem numbersApart_apart (token : Token) : NumbersApart token.apart := by
  unfold apart
  split
  · exact List.isChain_pair.mpr nofun
  · exact List.isChain_singleton _

theorem isNumber_of_last_apart {token last : Token} (hlast : last ∈ token.apart.getLast?)
    (h : last.isNumber = true) : token.isNumber = true := by
  unfold apart at hlast
  split at hlast
  · rfl
  · cases hlast
    exact h

/-- What may follow a number is no number and has no sign. -/
theorem notNumber_of_head_apart {token next first : Token} (hnumber : token.isNumber = true)
    (hfollow : token.mayFollow next = true) (hfirst : first ∈ next.apart.head?) :
    first.isNumber = false := by
  cases token with
  | number text =>
      cases next with
      | operator _ | closeParen _ =>
          cases hfirst
          rfl
      | number _ | openParen _ => cases hfollow
  | operator _ | openParen _ | closeParen _ => cases hnumber

theorem numbersApart_flatMap {tokens : List Token}
    (h : tokens.IsChain fun token next => token.mayFollow next = true) :
    NumbersApart (tokens.flatMap apart) := by
  induction tokens with
  | nil => exact List.isChain_nil
  | cons token rest ih =>
      rw [List.flatMap_cons]
      refine List.isChain_append.mpr ⟨numbersApart_apart token, ih h.of_cons, ?_⟩
      intro last hlast first hfirst hnumber
      cases rest with
      | nil => cases hfirst
      | cons next more =>
          rw [List.flatMap_cons, List.head?_append_of_ne_nil _ (apart_ne_nil next)] at hfirst
          exact notNumber_of_head_apart (isNumber_of_last_apart hlast hnumber)
            (List.isChain_cons_cons.mp h).1 hfirst

theorem isLexeme_flatMap_apart {tokens : List Token} (h : ∀ token ∈ tokens, token.IsSpelled) :
    ∀ piece ∈ tokens.flatMap apart, piece.IsLexeme := by
  intro piece hpiece
  obtain ⟨token, htoken, hpiece⟩ := List.mem_flatMap.mp hpiece
  exact isLexeme_apart (h token htoken) piece hpiece

/-- The text of a token list that can be typed is cut into its tokens, signs apart. -/
theorem tokenize_textOf {tokens : List Token} (h : Typable tokens) :
    tokenize (textOf tokens) = .ok (tokens.flatMap apart) := by
  have hlexemes := isLexeme_flatMap_apart h.spelled
  rw [← textOf_flatMap_apart, tokenize, tidy_textOf hlexemes]
  exact lex_eq_ok_iff.mpr (lexed_textOf hlexemes (numbersApart_flatMap h.follows))

/-! ## The same value -/

namespace Phrase

def ofSigned : Text → Phrase Text .factor
  | '-' :: unsigned => negation (number unsigned)
  | text => number text

/-- The phrase with the signs of its numbers apart from them. -/
def apart : {rank : Rank} → Phrase Text rank → Phrase Text rank
  | _, number text => ofSigned text
  | _, negation operand => negation operand.apart
  | _, group opening closing body => group opening closing body.apart
  | _, single first => single first.apart
  | _, step left op fits right => step left.apart op fits right.apart

theorem tokens_ofSigned (text : Text) : (ofSigned text).tokens = (Token.number text).apart := by
  by_cases h : ∃ unsigned, text = '-' :: unsigned
  · obtain ⟨unsigned, rfl⟩ := h
    rfl
  · cases text with
    | nil => rfl
    | cons c rest => simp_all [ofSigned, Token.apart, tokens]

theorem ofSigned_unsigned {text : Text} (h : IsUnsigned text) : ofSigned text = number text := by
  unfold ofSigned
  split
  · exact absurd rfl (h.ne_minus_cons _)
  · rfl

theorem value_ofSigned {text : Text} (h : IsNumberText text) {x : Binary64}
    (hvalue : (number text).value = .ok x) : (ofSigned text).value = .ok x := by
  cases h with
  | plain unsigned =>
      rw [ofSigned_unsigned unsigned]
      exact hvalue
  | @negative u unsigned =>
      rw [value_number, numeral?_text, Numeral.read?_minus unsigned] at hvalue
      obtain ⟨z, hz, rfl⟩ := Option.map_eq_some_iff.mp hvalue
      exact map_eq_ok.mpr ⟨z, value_number.mpr hz, rfl⟩

theorem tokens_apart {rank : Rank} (e : Phrase Text rank) :
    e.apart.tokens = e.tokens.flatMap Token.apart := by
  induction e with
  | number text =>
      simp only [apart, tokens_ofSigned, tokens, List.flatMap_cons, List.flatMap_nil,
        List.append_nil]
  | negation operand ih => simp [apart, tokens, ih, Token.apart, ofOperator]
  | group opening closing body ih => simp [apart, tokens, ih, Token.apart]
  | single _ ih => exact ih
  | step left op fits right ihLeft ihRight =>
      simp [apart, tokens, ihLeft, ihRight, Token.apart, ofOperator]

theorem value_apart {rank : Rank} (e : Phrase Text rank) {x : Binary64}
    (hspelled : ∀ token ∈ e.tokens, token.IsSpelled) (h : e.value = .ok x) :
    e.apart.value = .ok x := by
  induction e generalizing x with
  | number text => exact value_ofSigned (hspelled (.number text) (List.mem_singleton_self _)) h
  | negation operand ih =>
      obtain ⟨y, hy, rfl⟩ := map_eq_ok.mp h
      have hoperand := ih (fun token ht => hspelled token (List.mem_cons_of_mem _ ht)) hy
      exact map_eq_ok.mpr ⟨y, hoperand, rfl⟩
  | group opening closing body ih =>
      refine ih (fun token ht => hspelled token ?_) h
      exact List.mem_cons_of_mem _ (List.mem_append_left _ ht)
  | single first ih => exact ih hspelled h
  | step left op fits right ihLeft ihRight =>
      obtain ⟨y, hy, hstep⟩ := bind_eq_ok.mp h
      obtain ⟨z, hz, hvalue⟩ := bind_eq_ok.mp hstep
      have hleft := ihLeft (fun token ht => hspelled token (List.mem_append_left _ ht)) hy
      have hright := ihRight
        (fun token ht =>
          hspelled token (List.mem_append_right _ (List.mem_cons_of_mem _ ht))) hz
      exact bind_eq_ok.mpr ⟨y, hleft, bind_eq_ok.mpr ⟨z, hright, hvalue⟩⟩

/-- A sign that comes apart nests one deeper than the number it stood in. -/
theorem depth_apart_le {rank : Rank} (e : Phrase Text rank) : e.apart.depth ≤ e.depth + 1 := by
  induction e with
  | number text =>
      simp only [apart]
      unfold ofSigned
      split <;> simp [depth]
  | negation operand ih => exact Nat.succ_le_succ ih
  | group opening closing body ih =>
      simp only [apart, depth]
      omega
  | single first ih => exact ih
  | step left op fits right ihLeft ihRight =>
      simp only [apart, depth]
      omega

end Phrase

/-- What an expression evaluates to, its text does too. -/
theorem evaluateText_textOf {tokens : List Token} (htyped : Typable tokens) {x : Binary64}
    (h : evaluate tokens = .ok x) :
    ∃ e : Phrase Text (.chain .sum), tokenize (textOf tokens) = .ok e.tokens ∧ e.value = .ok x ∧
      e.depth ≤ nestingBudget + 1 ∧
      (e.depth ≤ nestingBudget → evaluateText (textOf tokens) = .ok x) := by
  obtain ⟨hfinite, e, rfl, hvalue, hdepth⟩ := evaluate_eq_ok h
  have htokens : tokenize (textOf e.tokens) = .ok e.apart.tokens := by
    rw [tokenize_textOf htyped, e.tokens_apart]
  have hsame : e.apart.value = .ok x := e.value_apart htyped.spelled hvalue
  refine ⟨e.apart, htokens, hsame, ?_, ?_⟩
  · exact Nat.le_trans e.depth_apart_le (Nat.succ_le_succ hdepth)
  · intro hshallow
    have heval : evaluate e.apart.tokens = finiteResult x := by
      rw [evaluate_tokens e.apart hshallow, hsame]
      rfl
    simp only [evaluateText, htokens, bind, Except.bind, heval, finiteResult, hfinite, if_true]

end Expression

end FieldCalc
