import FieldCalc.Proofs.Expression.Phrase

/-!
# How deep a list of tokens nests

What the evaluator takes of its budget can be told by one pass over the tokens. An opening
parenthesis takes three until it is closed, a minus sign before an operand takes one until that
operand ends, and a number takes one. For the tokens of a phrase this is the depth of the phrase.
-/

namespace FieldCalc.Expression

variable {τ : Type}

/-- What is taken of the budget at a place between two tokens. -/
structure Taken where
  /-- By the parentheses around the place. -/
  level : Nat
  /-- The same for each place where one of them was opened, the innermost first. -/
  outer : List Nat
  /-- By the parentheses and the signs whose operand is still to come. -/
  here : Nat
  /-- Whether an operand is to come. -/
  awaits : Bool
  /-- The most that was taken so far. -/
  peak : Nat

namespace Taken

def start : Taken := ⟨0, [], 0, true, 0⟩

def after (s : Taken) : Token τ → Taken
  | .number _ => { s with here := s.level, awaits := false, peak := max s.peak (s.here + 1) }
  | .operator _ => if s.awaits then { s with here := s.here + 1 } else { s with awaits := true }
  | .openParen _ =>
      { s with
        level := s.here + 3, outer := s.level :: s.outer, here := s.here + 3, awaits := true }
  | .closeParen _ =>
      { s with
        level := s.outer.headD 0, outer := s.outer.tail, here := s.outer.headD 0, awaits := false }

def afterAll (s : Taken) (tokens : List (Token τ)) : Taken := tokens.foldl after s

theorem afterAll_cons (s : Taken) (token : Token τ) (rest : List (Token τ)) :
    s.afterAll (token :: rest) = (s.after token).afterAll rest := rfl

theorem afterAll_append (s : Taken) (front back : List (Token τ)) :
    s.afterAll (front ++ back) = (s.afterAll front).afterAll back := List.foldl_append

/-- What is left once an operand of the given depth has been read. -/
def past (s : Taken) (depth : Nat) : Taken :=
  { s with here := s.level, awaits := false, peak := max s.peak (s.here + depth) }

end Taken

def nesting (tokens : List (Token τ)) : Nat := (Taken.start.afterAll tokens).peak

variable [Wording τ]

theorem chain_ne_factor (kind : Chain) : Rank.chain kind ≠ .factor := by
  intro h
  cases h

/-- A factor is read past with the signs before it, and a chain where no sign waits. -/
theorem Phrase.afterAll_tokens {rank : Rank} (e : Phrase τ rank) {s : Taken}
    (hawaits : s.awaits = true) (hchain : rank ≠ .factor → s.here = s.level) :
    s.afterAll e.tokens = s.past e.depth := by
  induction e generalizing s with
  | number text => rfl
  | negation operand ih =>
      have hsign : s.after (.ofOperator .minus : Token τ) = { s with here := s.here + 1 } := by
        simp only [Token.ofOperator, Taken.after, hawaits, if_true]
      rw [tokens, Taken.afterAll_cons, hsign,
        ih (s := { s with here := s.here + 1 }) hawaits (absurd rfl)]
      simp only [Taken.past, depth, Nat.add_assoc, Nat.add_comm 1]
  | group opening closing body ih =>
      rw [tokens, Taken.afterAll_cons, Taken.afterAll_append, ih rfl fun _ => rfl]
      simp only [Taken.afterAll, List.foldl, Taken.after, Taken.past, depth, List.headD_cons,
        List.tail_cons, Nat.add_assoc, Nat.add_comm 3]
  | @single kind first ih =>
      rw [tokens, depth]
      exact ih hawaits fun _ => hchain (chain_ne_factor kind)
  | @step kind left op fits right ihLeft ihRight =>
      -- No sign waits here, so that both operands are counted from the same place.
      have hhere := hchain (chain_ne_factor kind)
      have hop : (s.past left.depth).after (.ofOperator op : Token τ) =
          { s.past left.depth with awaits := true } := rfl
      rw [tokens, Taken.afterAll_append, ihLeft hawaits hchain, Taken.afterAll_cons, hop,
        ihRight rfl fun _ => rfl]
      simp only [Taken.past, depth, hhere, Nat.max_assoc, Nat.add_max_add_left]

theorem nesting_tokens (e : Phrase τ (.chain .sum)) : nesting e.tokens = e.depth := by
  rw [nesting, e.afterAll_tokens rfl fun _ => rfl]
  simp only [Taken.past, Taken.start, Nat.zero_add, Nat.zero_max]

end FieldCalc.Expression
