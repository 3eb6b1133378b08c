import FieldCalc.Proofs.Token.Number
import Mathlib.Data.List.Chain

/-!
# The token lists that can be typed

The live expression is only ever changed at its end, and every editing key looks at the last
token before it changes anything. What that keeps is stated here for a whole list: where it may
start, what may stand beside what, how the parentheses nest and how each token is spelled. Every
initial part of such a list is one too, so each key has only the new end to answer for.
-/

namespace FieldCalc

namespace Token

/-- Whether `next` may stand directly after a token. -/
def mayFollow : Token → Token → Bool
  | number _, next => next.isOperator || next.isClose
  | operator _, next => next.isNumber || next.isOpen
  | openParen _, next => next.isNumber || next.isOpen || next.isOperator
  | closeParen _, next => next.isOperator || next.isClose || next.isNumber

def mayStart (token : Token) : Bool := token.isNumber || token.isOpen

def IsSpelled : Token → Prop
  | number text => IsNumberText text
  | operator text => ∃ op : Operator, text = op.text
  | openParen text => text = ['(']
  | closeParen text => text = [')']

def opens (tokens : List Token) : Nat := tokens.countP isOpen

def closes (tokens : List Token) : Nat := tokens.countP isClose

end Token

open Token

structure Typable (tokens : List Token) : Prop where
  nonempty : tokens ≠ []
  starts : ∀ first ∈ tokens.head?, first.mayStart = true
  follows : tokens.IsChain fun token next => token.mayFollow next = true
  nested : ∀ front, front <+: tokens → closes front ≤ opens front
  spelled : ∀ token ∈ tokens, token.IsSpelled
  /-- A zero is replaced by what is typed after it, as long as it stands alone. -/
  loneZero : tokens.head? = some zero → tokens = [zero]

namespace Token

@[simp] theorem opens_append (front back : List Token) :
    opens (front ++ back) = opens front + opens back := List.countP_append

@[simp] theorem closes_append (front back : List Token) :
    closes (front ++ back) = closes front + closes back := List.countP_append

/-- Only a closing parenthesis needs one that is open. -/
theorem nested_concat {tokens : List Token} {token : Token} (h : closes tokens ≤ opens tokens) :
    closes (tokens ++ [token]) ≤ opens (tokens ++ [token]) ↔
      (token.isClose = true → closes tokens < opens tokens) := by
  rw [closes_append, opens_append]
  cases token with
  | closeParen text =>
      have hcloses : closes [closeParen text] = 1 := rfl
      have hopens : opens [closeParen text] = 0 := rfl
      constructor
      · intro hnested _
        omega
      · intro hroom
        have := hroom rfl
        omega
  | number _ | operator _ | openParen _ =>
      exact iff_of_true (Nat.add_le_add h (Nat.zero_le _)) nofun

theorem kind_congr {token token' : Token} (h : token.kindName = token'.kindName) :
    token.isNumber = token'.isNumber ∧ token.isOperator = token'.isOperator ∧
      token.isOpen = token'.isOpen ∧ token.isClose = token'.isClose := by
  cases token <;> cases token' <;> first
    | exact ⟨rfl, rfl, rfl, rfl⟩
    | simp [kindName] at h

/-- Where a token may stand depends on its kind alone. -/
theorem mayFollow_congr {token token' : Token} (h : token.kindName = token'.kindName)
    (previous : Token) : previous.mayFollow token = previous.mayFollow token' := by
  obtain ⟨hnumber, hoperator, hopen, hclose⟩ := kind_congr h
  cases previous <;> simp only [mayFollow, hnumber, hoperator, hopen, hclose]

end Token

namespace Typable

/-! ## Ends of lists -/

private theorem prefix_singleton {token : Token} {front : List Token} (h : front <+: [token]) :
    front = [] ∨ front = [token] := by
  rcases List.prefix_cons_iff.mp h with rfl | ⟨rest, rfl, hrest⟩
  · exact .inl rfl
  · exact .inr (by rw [List.prefix_nil.mp hrest])

theorem of_prefix {tokens front : List Token} (h : Typable tokens) (hfront : front <+: tokens)
    (hne : front ≠ []) : Typable front := by
  obtain ⟨first, rest, rfl⟩ := List.exists_cons_of_ne_nil hne
  have hhead : tokens.head? = some first := by
    obtain ⟨back, rfl⟩ := hfront
    rfl
  refine ⟨hne, ?_, h.follows.prefix hfront, ?_, ?_, ?_⟩
  · intro token htoken
    exact h.starts token (hhead.trans htoken)
  · intro earlier hearlier
    exact h.nested earlier (hearlier.trans hfront)
  · intro token htoken
    exact h.spelled token (hfront.subset htoken)
  · intro hzero
    have hall := h.loneZero (hhead.trans hzero)
    rw [hall] at hfront
    exact (prefix_singleton hfront).resolve_left hne

theorem singleton_iff {token : Token} :
    Typable [token] ↔ token.mayStart = true ∧ token.IsSpelled := by
  constructor
  · intro h
    exact ⟨h.starts token rfl, h.spelled token (List.mem_singleton_self token)⟩
  · rintro ⟨hstart, hspelled⟩
    refine ⟨List.cons_ne_nil _ _, ?_, List.isChain_singleton token, ?_, ?_, ?_⟩
    · rintro first hfirst
      cases hfirst
      exact hstart
    · intro front hfront
      rcases prefix_singleton hfront with rfl | rfl
      · exact Nat.le_refl 0
      · cases token <;> simp_all [mayStart, opens, closes, isNumber, isOpen, isClose]
    · intro first hfirst
      rw [List.mem_singleton.mp hfirst]
      exact hspelled
    · intro hzero
      rw [Option.some.inj hzero]

/-- What a token must meet to stand at the end of a list. -/
theorem concat_iff {before : List Token} {last token : Token} :
    Typable (before ++ [last] ++ [token]) ↔
      Typable (before ++ [last]) ∧ last.mayFollow token = true ∧ token.IsSpelled ∧
        (token.isClose = true → closes (before ++ [last]) < opens (before ++ [last])) ∧
        before ++ [last] ≠ [zero] := by
  constructor
  · intro h
    refine ⟨h.of_prefix (List.prefix_append _ _) (by simp), ?_, ?_, ?_, ?_⟩
    · have hchain := h.follows
      rw [List.append_assoc] at hchain
      exact (List.isChain_append_cons_cons.mp hchain).2.1
    · exact h.spelled token List.mem_concat_self
    · have hnested := h.nested _ (List.prefix_append _ _)
      exact (nested_concat hnested).mp (h.nested _ (List.prefix_refl _))
    · intro hzero
      have hall := h.loneZero (by rw [hzero]; rfl)
      rw [hzero] at hall
      cases hall
  · rintro ⟨h, hfollow, hspelled, hclose, hzero⟩
    have hhead : (before ++ [last] ++ [token]).head? = (before ++ [last]).head? := by
      cases before <;> rfl
    refine ⟨by simp, ?_, ?_, ?_, ?_, ?_⟩
    · rw [hhead]
      exact h.starts
    · rw [List.append_assoc]
      refine List.isChain_append_cons_cons.mpr ⟨h.follows, hfollow, List.isChain_singleton _⟩
    · intro front hfront
      rcases List.prefix_concat_iff.mp hfront with rfl | hfront
      · exact (nested_concat (h.nested _ (List.prefix_refl _))).mpr hclose
      · exact h.nested front hfront
    · intro t ht
      rcases List.mem_append.mp ht with ht | ht
      · exact h.spelled t ht
      · rw [List.mem_singleton.mp ht]
        exact hspelled
    · intro hfirst
      rw [hhead] at hfirst
      exact absurd (h.loneZero hfirst) hzero

/-- The last token can be exchanged for another of its kind. -/
theorem exchange {before : List Token} {last token : Token} (h : Typable (before ++ [last]))
    (hkind : last.kindName = token.kindName) (hspelled : token.IsSpelled) :
    Typable (before ++ [token]) := by
  rcases List.eq_nil_or_concat' before with rfl | ⟨earlier, previous, rfl⟩
  · rw [List.nil_append, singleton_iff] at h ⊢
    obtain ⟨hnumber, -, hopen, -⟩ := kind_congr hkind
    refine ⟨?_, hspelled⟩
    rw [mayStart, ← hnumber, ← hopen]
    exact h.1
  · rw [concat_iff] at h ⊢
    obtain ⟨hbefore, hfollow, -, hclose, hzero⟩ := h
    exact ⟨hbefore, mayFollow_congr hkind previous ▸ hfollow, hspelled,
      (kind_congr hkind).2.2.2 ▸ hclose, hzero⟩

theorem zero : Typable [Token.zero] :=
  singleton_iff.mpr ⟨rfl, .plain (.digit rfl)⟩

theorem number {text : Text} (h : IsNumberText text) : Typable [Token.number text] :=
  singleton_iff.mpr ⟨rfl, h⟩

end Typable

end FieldCalc
