import FieldCalc.Proofs.Buffer.Typable
import FieldCalc.Proofs.Expression.Phrase
import Mathlib.Data.List.Induction

/-!
# Defects of a list of tokens

Four things can be wrong with a list of tokens that has been typed, and each of them can be seen
without reading the list as a whole. A list without them is a phrase, and no phrase has any. The
list is taken up from its left end. What has been typed so far ends with the left part of a
phrase for every parenthesis that is still open.
-/

namespace FieldCalc

namespace Token

/-- Whether a token leaves something to come. -/
def dangles (token : Token) : Bool := token.isOperator || token.isOpen

/-- Whether two tokens that can be typed one after the other can yet never stand so in a
phrase. -/
def clashes : Token → Token → Bool
  | closeParen _, number _ => true
  | openParen _, operator text => text == ['+'] || text == ['*'] || text == ['/']
  | _, _ => false

end Token

open Token

inductive Defective (tokens : List Token) : Prop where
  | unclosed (h : closes tokens < opens tokens)
  | dangling {last : Token} (h : last ∈ tokens.getLast?) (hlast : last.dangles = true)
  | clash {front back : List Token} {token next : Token}
      (h : tokens = front ++ token :: next :: back) (hclash : token.clashes next = true)

namespace Expression

/-! ## A list without defects is a phrase -/

/-- A sum can be continued by any operator and a factor, wherever in it the operator binds. -/
theorem exists_continued (e : Phrase Text (.chain .sum)) (op : Operator) (f : Phrase Text .factor) :
    ∃ whole : Phrase Text (.chain .sum), whole.tokens = e.tokens ++ .ofOperator op :: f.tokens := by
  cases hop : chainOf op with
  | sum => exact ⟨.step e op hop (.single f), rfl⟩
  | product =>
      cases e with
      | single product => exact ⟨.single (.step product op hop f), rfl⟩
      | step left other fits product =>
          refine ⟨.step left other fits (.step product op hop f), ?_⟩
          exact (List.append_assoc left.tokens (.ofOperator other :: product.tokens) _).symm

/-- The tokens end with a sum inside so many parentheses that are still open, each of them where
an operand may stand. -/
def EndsInSum : Nat → List Token → Prop
  | 0, tokens => ∃ e : Phrase Text (.chain .sum), e.tokens = tokens
  | count + 1, tokens => ∃ front opening, ∃ e : Phrase Text (.chain .sum),
      (∀ f : Phrase Text .factor, EndsInSum count (front ++ f.tokens)) ∧
        tokens = front ++ .openParen opening :: e.tokens

/-- The tokens end where an operand may stand. -/
def AwaitsFactor (count : Nat) (tokens : List Token) : Prop :=
  ∀ f : Phrase Text .factor, EndsInSum count (tokens ++ f.tokens)

variable {count : Nat} {tokens : List Token}

theorem awaitsFactor_nil : AwaitsFactor 0 [] :=
  fun f => ⟨.single (.single f), rfl⟩

theorem AwaitsFactor.number (h : AwaitsFactor count tokens) (text : Text) :
    EndsInSum count (tokens ++ [.number text]) := h (.number text)

theorem AwaitsFactor.minus (h : AwaitsFactor count tokens) :
    AwaitsFactor count (tokens ++ [.ofOperator .minus]) := by
  intro f
  rw [List.append_assoc]
  exact h (.negation f)

theorem AwaitsFactor.openParen (h : AwaitsFactor count tokens) (opening : Text) :
    AwaitsFactor (count + 1) (tokens ++ [.openParen opening]) := by
  intro f
  exact ⟨tokens, opening, .single (.single f), h, List.append_assoc _ _ _⟩

theorem EndsInSum.closeParen (h : EndsInSum (count + 1) tokens) (closing : Text) :
    EndsInSum count (tokens ++ [.closeParen closing]) := by
  obtain ⟨front, opening, e, hfront, rfl⟩ := h
  have hgroup := hfront (.group opening closing e)
  rw [Phrase.tokens] at hgroup
  rwa [List.append_assoc, List.cons_append]

theorem EndsInSum.operator (h : EndsInSum count tokens) (op : Operator) :
    AwaitsFactor count (tokens ++ [.ofOperator op]) := by
  intro f
  cases count with
  | zero =>
      obtain ⟨e, rfl⟩ := h
      obtain ⟨whole, hwhole⟩ := exists_continued e op f
      exact ⟨whole, by simp [hwhole]⟩
  | succ count =>
      obtain ⟨front, opening, e, hfront, rfl⟩ := h
      obtain ⟨whole, hwhole⟩ := exists_continued e op f
      exact ⟨front, opening, whole, hfront, by simp [hwhole]⟩

/-- What stands at the end of the tokens after their last one. -/
def Progress (count : Nat) (tokens : List Token) : Token → Prop
  | .operator _ | .openParen _ => AwaitsFactor count tokens
  | .number _ | .closeParen _ => EndsInSum count tokens

/-- How many parentheses are open. -/
def openAt (tokens : List Token) : Nat := opens tokens - closes tokens

theorem openAt_number (tokens : List Token) (text : Text) :
    openAt (tokens ++ [.number text]) = openAt tokens := by
  simp [openAt, opens, closes, isOpen, isClose]

theorem openAt_operator (tokens : List Token) (text : Text) :
    openAt (tokens ++ [.operator text]) = openAt tokens := by
  simp [openAt, opens, closes, isOpen, isClose]

theorem openAt_openParen (hnested : closes tokens ≤ opens tokens) (text : Text) :
    openAt (tokens ++ [.openParen text]) = openAt tokens + 1 := by
  have hopens : opens [.openParen text] = 1 := rfl
  have hcloses : closes [.openParen text] = 0 := rfl
  rw [openAt, openAt, opens_append, closes_append, hopens, hcloses]
  omega

theorem openAt_closeParen (hroom : closes tokens < opens tokens) (text : Text) :
    openAt tokens = openAt (tokens ++ [.closeParen text]) + 1 := by
  have hopens : opens [.closeParen text] = 0 := rfl
  have hcloses : closes [.closeParen text] = 1 := rfl
  rw [openAt, openAt, opens_append, closes_append, hopens, hcloses]
  omega

def ClashFree (tokens : List Token) : Prop :=
  tokens.IsChain fun token next => token.clashes next = false

theorem progress_singleton {token : Token} (h : Typable [token]) :
    Progress (openAt [token]) [token] token := by
  have hstart := (Typable.singleton_iff.mp h).1
  cases token with
  | number text => exact awaitsFactor_nil.number text
  | openParen text => exact awaitsFactor_nil.openParen text
  | operator text | closeParen text => cases hstart

theorem progress_concat {before : List Token} {last token : Token}
    (h : Typable (before ++ [last] ++ [token])) (hclash : last.clashes token = false)
    (hlast : Progress (openAt (before ++ [last])) (before ++ [last]) last) :
    Progress (openAt (before ++ [last] ++ [token])) (before ++ [last] ++ [token]) token := by
  obtain ⟨hbefore, hfollow, hspelled, hclose, -⟩ := Typable.concat_iff.mp h
  have hnested := hbefore.nested _ (List.prefix_refl _)
  cases token with
  | number text =>
      rw [openAt_number]
      cases last with
      | operator _ | openParen _ => exact AwaitsFactor.number hlast text
      | number _ => cases hfollow
      | closeParen _ => cases hclash
  | operator text =>
      obtain ⟨op, rfl⟩ := hspelled
      rw [openAt_operator]
      cases last with
      | number _ | closeParen _ => exact EndsInSum.operator hlast op
      | operator _ => cases hfollow
      | openParen _ =>
          -- Of the operators only a minus sign may stand here.
          cases op with
          | minus => exact AwaitsFactor.minus hlast
          | plus | times | divide => cases hclash
  | openParen text =>
      rw [openAt_openParen hnested]
      cases last with
      | operator _ | openParen _ => exact AwaitsFactor.openParen hlast text
      | number _ | closeParen _ => cases hfollow
  | closeParen text =>
      have hcount := openAt_closeParen (hclose rfl) text
      cases last with
      | number _ | closeParen _ =>
          rw [Progress, hcount] at hlast
          exact EndsInSum.closeParen hlast text
      | operator _ | openParen _ => cases hfollow

theorem progress_typable {before : List Token} {last : Token} (h : Typable (before ++ [last]))
    (hclash : ClashFree (before ++ [last])) :
    Progress (openAt (before ++ [last])) (before ++ [last]) last := by
  induction before using List.reverseRecOn generalizing last with
  | nil => exact progress_singleton h
  | append_singleton before previous ih =>
      have hbefore := (Typable.concat_iff.mp h).1
      have hends := hclash
      rw [ClashFree, List.append_assoc] at hends
      have hprevious := (List.isChain_append_cons_cons.mp hends).2.1
      have hshorter : ClashFree (before ++ [previous]) := hclash.prefix (List.prefix_append _ _)
      exact progress_concat h hprevious (ih hbefore hshorter)

/-! ## A phrase has no defects -/

namespace Phrase

theorem opens_eq_closes {rank : Rank} (e : Phrase Text rank) :
    opens e.tokens = closes e.tokens := by
  induction e with
  | number text => rfl
  | negation operand ih =>
      rw [tokens, ← List.singleton_append, opens_append, closes_append, ih]
      rfl
  | group opening closing body ih =>
      have houter : opens [.openParen opening] + opens [.closeParen closing] =
          closes [.openParen opening] + closes [.closeParen closing] := rfl
      rw [tokens, ← List.singleton_append, opens_append, closes_append, opens_append,
        closes_append, ih]
      omega
  | single _ ih => exact ih
  | step left op fits right ihLeft ihRight =>
      rw [tokens, ← List.singleton_append, opens_append, closes_append, opens_append,
        closes_append, ihLeft, ihRight]
      rfl

theorem dangles_last {rank : Rank} (e : Phrase Text rank) :
    ∀ last ∈ e.tokens.getLast?, last.dangles = false := by
  induction e with
  | number text =>
      rintro last ⟨⟩
      rfl
  | negation operand ih =>
      rw [tokens, List.getLast?_cons_of_ne_nil operand.tokens_ne_nil]
      exact ih
  | group opening closing body ih =>
      rw [tokens, ← List.cons_append, List.getLast?_concat]
      rintro last ⟨⟩
      rfl
  | single _ ih => exact ih
  | step left op fits right _ ih =>
      rw [tokens, List.getLast?_append_of_ne_nil _ (List.cons_ne_nil _ _),
        List.getLast?_cons_of_ne_nil right.tokens_ne_nil]
      exact ih

theorem head_tokens {rank : Rank} (e : Phrase Text rank) :
    ∀ first ∈ e.tokens.head?, ∀ opening, (Token.openParen opening).clashes first = false := by
  induction e with
  | number | negation | group =>
      rintro first ⟨⟩ opening
      rfl
  | single _ ih => exact ih
  | step left op fits right ih _ =>
      rw [tokens, List.head?_append_of_ne_nil _ left.tokens_ne_nil]
      exact ih

theorem clashFree_tokens {rank : Rank} (e : Phrase Text rank) : ClashFree e.tokens := by
  induction e with
  | number text => exact List.isChain_singleton _
  | negation operand ih => exact List.isChain_cons.mpr ⟨fun _ _ => rfl, ih⟩
  | group opening closing body ih =>
      have hclosed : ClashFree (body.tokens ++ [.closeParen closing]) := by
        refine List.isChain_append.mpr ⟨ih, List.isChain_singleton _, ?_⟩
        rintro last - next ⟨⟩
        cases last <;> rfl
      refine List.isChain_cons.mpr ⟨?_, hclosed⟩
      rw [List.head?_append_of_ne_nil _ body.tokens_ne_nil]
      exact fun first hfirst => body.head_tokens first hfirst opening
  | single _ ih => exact ih
  | step left op fits right ihLeft ihRight =>
      refine List.isChain_append.mpr ⟨ihLeft, List.isChain_cons.mpr ⟨fun _ _ => rfl, ihRight⟩, ?_⟩
      rintro last hlast next ⟨⟩
      have hends := left.dangles_last last hlast
      cases last with
      | number | closeParen => rfl
      | operator | openParen => cases hends

theorem not_defective {rank : Rank} (e : Phrase Text rank) : ¬Defective e.tokens := by
  rintro (hunclosed | ⟨hlast, hdangles⟩ | ⟨h, hclash⟩)
  · rw [e.opens_eq_closes] at hunclosed
    exact Nat.lt_irrefl _ hunclosed
  · rw [e.dangles_last _ hlast] at hdangles
    cases hdangles
  · have hfree := e.clashFree_tokens
    rw [ClashFree, h] at hfree
    rw [(List.isChain_append_cons_cons.mp hfree).2.1] at hclash
    cases hclash

end Phrase

/-! ## Well-formed lists -/

theorem clashFree_of_not_defective (h : ¬Defective tokens) : ClashFree tokens :=
  List.isChain_iff_forall_rel_of_append_cons_cons.mpr fun _ _ _ _ hsplit =>
    Bool.eq_false_iff.mpr fun hclash => h (.clash hsplit hclash)

/-- Of the lists that can be typed, the phrases are those without a defect. -/
theorem exists_phrase_iff (htyped : Typable tokens) :
    (∃ e : Phrase Text (.chain .sum), e.tokens = tokens) ↔ ¬Defective tokens := by
  constructor
  · rintro ⟨e, rfl⟩
    exact e.not_defective
  · intro h
    have hbalanced : openAt tokens = 0 :=
      Nat.sub_eq_zero_of_le (Nat.le_of_not_lt fun hunclosed => h (.unclosed hunclosed))
    obtain ⟨before, last, rfl⟩ := (List.eq_nil_or_concat' tokens).resolve_left htyped.nonempty
    have hprogress := progress_typable htyped (clashFree_of_not_defective h)
    rw [hbalanced] at hprogress
    have hdangles : last.dangles ≠ true := fun hdangles =>
      h (.dangling List.getLast?_concat hdangles)
    cases last with
    | number | closeParen => exact hprogress
    | operator | openParen => exact absurd rfl hdangles

end Expression

end FieldCalc
