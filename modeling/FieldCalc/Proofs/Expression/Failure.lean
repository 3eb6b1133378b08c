import FieldCalc.Proofs.Expression.Grammar

/-!
# Why an expression has no value

An error that is met while tokens are read quotes a token that is there, and one that is to blame:
no numeral is read from its text, or no operator has the name. The same induction as for what is
read shows it, on the budget and inside it on the length of a chain. It needs what was shown
there, that the tokens still to be read are among those of the whole expression.
-/

namespace FieldCalc.Expression

variable {τ : Type}

/-! ## Results that are errors -/

theorem stepValue_eq_error {op : Operator} {x y : Binary64} {e : ExpressionError τ}
    (h : stepValue op x y = .error e) : e = .divisionByZero := by
  unfold stepValue at h
  split at h
  · exact (Except.error.inj h).symm
  · cases h

theorem negated_eq_error {reading : Reading τ} {e : ExpressionError τ}
    (h : negated reading = .error e) : reading = .error e := by
  cases reading with
  | error => exact h
  | ok => cases h

theorem closed_eq_error {reading : Reading τ} {e : ExpressionError τ}
    (h : closed reading = .error e) : reading = .error e ∨
      ∃ x position rest, reading = .ok (x, ⟨position, rest⟩) ∧
        e = .unclosed rest.head? position := by
  unfold closed at h
  split at h
  · exact .inl h
  · cases h
  · next x position rest _ => exact .inr ⟨x, position, rest, rfl, (Except.error.inj h).symm⟩

variable [Wording τ]

/-! ## Tokens that are to blame -/

/-- The errors that reading the tokens may end in. -/
def Blamed (tokens : List (Token τ)) : ExpressionError τ → Prop
  | .badNumber text => .number text ∈ tokens ∧ numeral? text = none
  | .unknownOperator text => .operator text ∈ tokens ∧ operator? text = none
  | .unexpected token _ => token ∈ tokens
  | .unclosed found _ => ∀ token ∈ found, token ∈ tokens
  | .missingOperand | .tooDeep | .divisionByZero => True
  | .empty | .invalidCharacter _ | .notFinite _ => False

variable (τ) in
/-- What a reading fails with stands in the tokens that were still to be read. -/
def Blames (budget : Nat) (rank : Rank) : Prop :=
  ∀ ⦃cursor : Cursor τ⦄ ⦃e⦄, readRank budget rank cursor = .error e → Blamed cursor.rest e

theorem Blamed.mono {tokens more : List (Token τ)} {e : ExpressionError τ} (h : Blamed tokens e)
    (hsub : tokens ⊆ more) : Blamed more e := by
  cases e with
  | badNumber | unknownOperator => exact ⟨hsub h.1, h.2⟩
  | unexpected => exact hsub h
  | unclosed => exact fun token htoken => hsub (h token htoken)
  | missingOperand | tooDeep | divisionByZero => trivial
  | empty | invalidCharacter | notFinite => exact h

/-! ## Chains -/

theorem readRank_subset {budget : Nat} {rank : Rank} {cursor next : Cursor τ} {x : Binary64}
    (h : readRank budget rank cursor = .ok (x, next)) : next.rest ⊆ cursor.rest := by
  obtain ⟨e, hrest, -⟩ := readRank_sound budget rank h
  rw [hrest]
  exact List.subset_append_right _ _

/-- A token of a chain that names no operator is reported, unless the right side fails first. -/
theorem goOn_unknown {budget : Nat} {kind : Chain} {count : Nat} {x : Binary64} {position : Nat}
    {token : Token τ} {rest : List (Token τ)} {e : ExpressionError τ}
    (hchain : inChain kind.symbols token = true) (hop : operator? token.text = none)
    (h : goOn budget kind (count + 1) x ⟨position, token :: rest⟩ = .error e) :
    readRank budget kind.operand ⟨position + 1, rest⟩ = .error e ∨ e = .divisionByZero ∨
      e = .unknownOperator token.text := by
  cases kind with
  | product =>
      simp only [Chain.symbols] at hchain
      simp only [goOn, productFrom] at h
      rw [if_pos hchain, hop] at h
      split at h
      · next hright => exact .inl (hright.trans h)
      · split at h
        · exact .inr (.inl (Except.error.inj h).symm)
        · exact .inr (.inr (Except.error.inj h).symm)
  | sum =>
      simp only [Chain.symbols] at hchain
      simp only [goOn, sumFrom] at h
      rw [if_pos hchain, hop] at h
      exact .inr (.inr (Except.error.inj h).symm)

theorem goOn_blamed {budget : Nat} {kind : Chain} (hread : Blames τ budget kind.operand)
    {count : Nat} {x : Binary64} {cursor : Cursor τ} {e : ExpressionError τ}
    (h : goOn budget kind count x cursor = .error e) : Blamed cursor.rest e := by
  -- On the count of operators that are still read; the operands are `hread`.
  induction count generalizing x cursor with
  | zero =>
      rw [goOn_zero] at h
      cases h
  | succ count ih =>
      obtain ⟨position, rest⟩ := cursor
      by_cases hstop : ∀ token ∈ rest.head?, inChain kind.symbols token = false
      · rw [goOn_stop budget _ x hstop] at h
        cases h
      · cases rest with
        | nil => exact absurd nofun hstop
        | cons token rest =>
            have hchain : inChain kind.symbols token = true := by simpa using hstop
            have hlater : rest ⊆ token :: rest := List.subset_cons_self token rest
            cases hop : operator? token.text with
            | none =>
                rcases goOn_unknown hchain hop h with hright | rfl | rfl
                · exact (hread hright).mono hlater
                · trivial
                · cases token with
                  | operator text => exact ⟨List.mem_cons_self, hop⟩
                  | number _ | openParen _ | closeParen _ => cases hchain
            | some op =>
                obtain rfl := eq_ofOperator hchain hop
                rw [goOn_step budget _ x _ (inChain_ofOperator.mp hchain)] at h
                rcases bind_eq_error.mp h with hright | ⟨⟨y, next⟩, hright, hstep⟩
                · exact (hread hright).mono hlater
                · rcases bind_eq_error.mp hstep with hvalue | ⟨z, -, hgo⟩
                  · rw [stepValue_eq_error hvalue]
                    trivial
                  · exact (ih hgo).mono (List.Subset.trans (readRank_subset hright) hlater)

theorem chain_blamed {budget : Nat} {kind : Chain} (hread : Blames τ budget kind.operand) :
    Blames τ budget (.chain kind) := by
  intro cursor e h
  rw [readRank_chain] at h
  rcases bind_eq_error.mp h with hfirst | ⟨⟨x, next⟩, hfirst, hgo⟩
  · exact hread hfirst
  · exact (goOn_blamed hread hgo).mono (readRank_subset hfirst)

/-! ## Factors -/

theorem factor_blamed (budget : Nat) : Blames τ budget .factor := by
  induction budget using Nat.strongRecOn with
  | ind budget ih =>
      intro cursor e h
      obtain ⟨position, rest⟩ := cursor
      cases budget with
      | zero =>
          cases h
          trivial
      | succ budget =>
          cases rest with
          | nil =>
              cases h
              trivial
          | cons token rest =>
              have hlater : rest ⊆ token :: rest := List.subset_cons_self token rest
              cases token with
              | number text =>
                  simp only [readRank, factor] at h
                  split at h
                  · cases h
                  · next hread =>
                      cases h
                      exact ⟨List.mem_cons_self, hread⟩
              | operator text =>
                  simp only [readRank, factor] at h
                  split at h
                  · exact (ih budget (Nat.lt_succ_self _) (negated_eq_error h)).mono hlater
                  · cases h
                    exact List.mem_cons_self
              | openParen opening =>
                  rcases budget with _ | _ | inner
                  · cases h
                    trivial
                  · cases h
                    trivial
                  · simp only [readRank, factor] at h
                    rcases closed_eq_error h with hbody | ⟨x, _, after, hbody, rfl⟩
                    · -- Parentheses cost three levels, so the sum inside has a smaller budget.
                      have hsum : Blames τ inner (.chain .sum) :=
                        chain_blamed (chain_blamed (ih inner (by omega)))
                      exact (hsum hbody).mono hlater
                    · have hafter : after ⊆ rest :=
                        @readRank_subset _ _ inner (.chain .sum) _ _ _ hbody
                      intro token htoken
                      exact hlater (hafter (List.mem_of_mem_head? htoken))
              | closeParen text =>
                  cases h
                  exact List.mem_cons_self

/-! ## Whole expressions -/

/-- What an evaluation fails with: there was nothing to read, or a token is to blame, or the value
is not finite. -/
theorem evaluate_eq_error {tokens : List (Token τ)} {budget : Nat} {e : ExpressionError τ}
    (h : evaluate tokens budget = .error e) :
    (tokens = [] ∧ e = .empty) ∨ Blamed tokens e ∨ ∃ x, x.isFinite = false ∧ e = .notFinite x := by
  have hsum : Blames τ budget (.chain .sum) :=
    chain_blamed (chain_blamed (factor_blamed budget))
  unfold evaluate at h
  split at h
  · next hempty => exact .inl ⟨List.isEmpty_iff.mp hempty, (Except.error.inj h).symm⟩
  · split at h
    · next hread =>
        cases h
        exact .inr (.inl (hsum hread))
    · next x position hread =>
        unfold finiteResult at h
        split at h
        · cases h
        · next hfinite =>
            exact .inr (.inr ⟨x, Bool.eq_false_iff.mpr hfinite, (Except.error.inj h).symm⟩)
    · next x position token rest hread =>
        cases h
        have hrest : token :: rest ⊆ tokens :=
          @readRank_subset _ _ budget (.chain .sum) _ _ _ hread
        exact .inr (.inl (hrest List.mem_cons_self))

end FieldCalc.Expression
