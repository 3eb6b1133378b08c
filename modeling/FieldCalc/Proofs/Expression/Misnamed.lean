import FieldCalc.Proofs.Calculator.Unfailing
import FieldCalc.Proofs.Expression.Lexing

/-!
# Operators without a name

Whether a token goes on with a chain is told by its text being part of the text of the chain's
symbols. Three texts pass that name no operator: the empty one, and both symbols of a chain in a
row. What is evaluated ends with such a token where the evaluator comes to it in the place of an
operator, after all that stands before it has been read. A product reads its right side first and
looks the operator up then, a sum does it the other way round. Nothing else keeps an evaluation
from ending in a finite number or in an error that is shown, and no key and no typed text makes
such a token.
-/

namespace FieldCalc.Expression

variable {τ : Type} [Wording τ]

/-- The texts that pass for an operator of a chain and name none. In a sum the empty text does not
get as far, since the product before it has taken it. -/
def Misnamed : Chain → τ → Prop
  | .product, text => text = Wording.ofText [] ∨ text = Wording.ofText ['*', '/']
  | .sum, text => text = Wording.ofText ['+', '-']

/-- A phrase that is read to its end, within the budget. -/
def Phrase.IsRead {rank : Rank} (e : Phrase τ rank) (budget : Nat) : Prop :=
  e.depth ≤ budget ∧ ∃ x, e.value = .ok x

/-- Reading a phrase from the tokens comes to an operator to be looked up that has the text, and
the text names none. -/
inductive Derails (text : τ) : Nat → Rank → List (Token τ) → Prop where
  | negation {budget : Nat} {rest : List (Token τ)} (operand : Derails text budget .factor rest) :
      Derails text (budget + 1) .factor (.ofOperator .minus :: rest)
  | group {budget : Nat} {opening : τ} {rest : List (Token τ)}
      (body : Derails text budget (.chain .sum) rest) :
      Derails text (budget + 3) .factor (.openParen opening :: rest)
  | first {budget : Nat} {kind : Chain} {tokens : List (Token τ)}
      (operand : Derails text budget kind.operand tokens) : Derails text budget (.chain kind) tokens
  | right {budget : Nat} {kind : Chain} {left : Phrase τ (.chain kind)} {op : Operator}
      {rest : List (Token τ)} (read : left.IsRead budget) (fits : chainOf op = kind)
      (operand : Derails text budget kind.operand rest) :
      Derails text budget (.chain kind) (left.tokens ++ .ofOperator op :: rest)
  /-- The right side of an operator without a name is read before that is looked up. -/
  | past {budget : Nat} {left : Phrase τ (.chain .product)} {other : τ} {rest : List (Token τ)}
      (read : left.IsRead budget) (misnamed : Misnamed .product other)
      (operand : Derails text budget .factor rest) :
      Derails text budget (.chain .product) (left.tokens ++ .operator other :: rest)
  | product {budget : Nat} {left : Phrase τ (.chain .product)} {right : Phrase τ .factor}
      {rest : List (Token τ)} (readLeft : left.IsRead budget) (misnamed : Misnamed .product text)
      (readRight : right.IsRead budget) :
      Derails text budget (.chain .product)
        (left.tokens ++ .operator text :: (right.tokens ++ rest))
  | sum {budget : Nat} {left : Phrase τ (.chain .sum)} {rest : List (Token τ)}
      (read : left.IsRead budget) (misnamed : Misnamed .sum text) :
      Derails text budget (.chain .sum) (left.tokens ++ .operator text :: rest)

variable {text other : τ} {budget : Nat} {kind : Chain} {rank : Rank} {tokens : List (Token τ)}

/-- A token of an unknown operator is there, and its text is one of the three. -/
theorem Derails.mem (h : Derails text budget rank tokens) :
    .operator text ∈ tokens ∧ ∃ kind, Misnamed kind text := by
  induction h with
  | negation _ ih | group _ ih => exact ⟨List.mem_cons_of_mem _ ih.1, ih.2⟩
  | first _ ih => exact ih
  | right _ _ _ ih | past _ _ _ ih =>
      exact ⟨List.mem_append_right _ (List.mem_cons_of_mem _ ih.1), ih.2⟩
  | product _ misnamed _ | sum _ misnamed =>
      exact ⟨List.mem_append_right _ List.mem_cons_self, _, misnamed⟩

/-! ## What passes for an operator -/

theorem exists_text_of_misnamed (h : Misnamed kind text) :
    ∃ t, Wording.text? text = some t ∧ Operator.ofText? t = none ∧
      Text.hasPart t kind.symbols = true := by
  cases kind with
  | product => rcases h with rfl | rfl <;> exact ⟨_, Wording.text?_ofText _, rfl, rfl⟩
  | sum =>
      cases h
      exact ⟨_, Wording.text?_ofText _, rfl, rfl⟩

theorem operator?_of_misnamed (h : Misnamed kind text) : operator? text = none := by
  obtain ⟨t, ht, hname, -⟩ := exists_text_of_misnamed h
  rw [operator?, ht]
  exact hname

theorem inChain_of_misnamed (h : Misnamed kind text) :
    inChain kind.symbols (.operator text) = true := by
  obtain ⟨t, ht, -, hpart⟩ := exists_text_of_misnamed h
  rw [inChain, ht]
  exact hpart

/-- A token that goes on with a chain is an operator of it or has a text without a name. -/
theorem inChain_cases {token : Token τ} (h : inChain kind.symbols token = true) :
    (∃ op, chainOf op = kind ∧ token = .ofOperator op) ∨
      ∃ other, token = .operator other ∧
        (Misnamed kind other ∨ kind = .sum ∧ other = Wording.ofText []) := by
  cases hop : operator? token.text with
  | some op =>
      obtain rfl := eq_ofOperator h hop
      exact .inl ⟨op, inChain_ofOperator.mp h, rfl⟩
  | none =>
      cases token with
      | number _ | openParen _ | closeParen _ => cases h
      | operator other =>
          refine .inr ⟨other, rfl, ?_⟩
          obtain ⟨t, ht, hpart⟩ := (Option.any_eq_true _ _).mp h
          rw [Token.text, operator?, ht] at hop
          obtain rfl := Wording.text?_eq_some.mp ht
          -- A part of two symbols is empty, both of them, or one of them, which is an operator.
          cases kind with
          | product =>
              left
              rcases t with _ | ⟨c, _ | ⟨d, _ | ⟨e, more⟩⟩⟩ <;>
                simp_all [Chain.symbols, Text.hasPart, Misnamed]
              rcases hpart with rfl | rfl <;> cases hop
          | sum =>
              rcases t with _ | ⟨c, _ | ⟨d, _ | ⟨e, more⟩⟩⟩ <;>
                simp_all [Chain.symbols, Text.hasPart, Misnamed]
              rcases hpart with rfl | rfl <;> cases hop

/-! ## Looking an operator up -/

theorem goOn_product_misnamed (h : Misnamed .product other) (count : Nat) (x : Binary64)
    (position : Nat) (rest : List (Token τ)) :
    goOn budget .product (count + 1) x ⟨position, .operator other :: rest⟩ =
      (readRank budget .factor ⟨position + 1, rest⟩).bind fun _ =>
        .error (.unknownOperator other) := by
  have hchain : inChain ['*', '/'] (.operator other) = true := inChain_of_misnamed h
  have hname : operator? (Token.operator other).text = none := operator?_of_misnamed h
  have hdivide : Wording.text? (Token.operator other).text ≠ some ['/'] := by
    rcases h with rfl | rfl <;> rw [Token.text, Wording.text?_ofText] <;> decide
  simp only [goOn, productFrom, readRank]
  rw [if_pos hchain, hname]
  cases factor budget ⟨position + 1, rest⟩ with
  | error e => rfl
  | ok reading => simp only [hdivide, false_and, if_false, Except.bind]; rfl

theorem goOn_sum_misnamed (h : Misnamed .sum other) (count : Nat) (x : Binary64)
    (position : Nat) (rest : List (Token τ)) :
    goOn budget .sum (count + 1) x ⟨position, .operator other :: rest⟩ =
      .error (.unknownOperator other) := by
  have hchain : inChain ['+', '-'] (.operator other) = true := inChain_of_misnamed h
  have hname : operator? (Token.operator other).text = none := operator?_of_misnamed h
  simp only [goOn, sumFrom]
  rw [if_pos hchain, hname]
  rfl

/-- A chain is read as far as it goes. -/
theorem goOn_ends {count : Nat} {x y : Binary64} {cursor next : Cursor τ}
    (hcount : cursor.rest.length ≤ count) (h : goOn budget kind count x cursor = .ok (y, next)) :
    ∀ token ∈ next.rest.head?, inChain kind.symbols token = false := by
  induction count generalizing x cursor with
  | zero =>
      rw [goOn_zero] at h
      cases h
      rw [List.length_eq_zero_iff.mp (Nat.le_zero.mp hcount)]
      exact nofun
  | succ count ih =>
      rcases goOn_eq_ok h with ⟨rfl, rfl, hstop⟩ | ⟨op, rest, fits, hrest⟩
      · exact hstop
      · obtain ⟨position, all⟩ := cursor
        simp only at hrest
        subst hrest
        rw [goOn_step budget _ x _ fits] at h
        obtain ⟨⟨right, middle⟩, hright, hstep⟩ := bind_eq_ok.mp h
        obtain ⟨z, -, hgo⟩ := bind_eq_ok.mp hstep
        have hshort := readRank_shorter hright
        simp only [List.length_cons] at hcount hshort
        exact ih (by omega) hgo

theorem ends_of_operand {cursor next : Cursor τ} {x : Binary64}
    (h : readRank budget kind.operand cursor = .ok (x, next)) : Ends (.chain kind) next.rest := by
  cases kind with
  | product => trivial
  | sum =>
      rw [Chain.operand, readRank_chain] at h
      obtain ⟨⟨y, middle⟩, -, hgo⟩ := bind_eq_ok.mp h
      exact goOn_ends (Nat.le_refl _) hgo

/-! ## An unknown operator has been come to -/

variable (τ) in
/-- Where reading meets an unknown operator, the tokens derail it. -/
def FindsUnknown (budget : Nat) (rank : Rank) : Prop :=
  ∀ ⦃cursor : Cursor τ⦄ ⦃text⦄, readRank budget rank cursor = .error (.unknownOperator text) →
    Derails text budget rank cursor.rest

theorem goOn_derails (hread : FindsUnknown τ budget kind.operand) {count : Nat} {x : Binary64}
    {cursor : Cursor τ} (h : goOn budget kind count x cursor = .error (.unknownOperator text))
    (hends : Ends (.chain kind) cursor.rest) (left : Phrase τ (.chain kind))
    (hvalue : left.value = .ok x) (hdepth : left.depth ≤ budget) :
    Derails text budget (.chain kind) (left.tokens ++ cursor.rest) := by
  -- What has been read of the chain so far is the left end of what derails.
  induction count generalizing x cursor left with
  | zero =>
      rw [goOn_zero] at h
      cases h
  | succ count ih =>
      obtain ⟨position, rest⟩ := cursor
      by_cases hstop : ∀ token ∈ rest.head?, inChain kind.symbols token = false
      · rw [goOn_stop budget _ x hstop] at h
        cases h
      · cases rest with
        | nil => exact absurd nofun hstop
        | cons token rest =>
            have hchain : inChain kind.symbols token = true := by simpa using hstop
            have hleft : left.IsRead budget := ⟨hdepth, x, hvalue⟩
            rcases inChain_cases hchain with ⟨op, fits, rfl⟩ | ⟨other, rfl, hname | ⟨rfl, rfl⟩⟩
            · rw [goOn_step budget _ x _ fits] at h
              rcases bind_eq_error.mp h with hright | ⟨⟨y, next⟩, hright, hstep⟩
              · exact .right hleft fits (hread hright)
              · rcases bind_eq_error.mp hstep with hzero | ⟨z, hz, hgo⟩
                · cases stepValue_eq_error hzero
                · obtain ⟨e, hrest, hy, he⟩ := readRank_sound budget kind.operand hright
                  have hlonger : (left.step op fits e).value = .ok z :=
                    bind_eq_ok.mpr ⟨x, hvalue, bind_eq_ok.mpr ⟨y, hy, hz⟩⟩
                  have hwhole := ih hgo (ends_of_operand hright) _ hlonger
                    (Nat.max_le.mpr ⟨hdepth, he⟩)
                  simp only at hrest
                  simpa only [Phrase.tokens, List.append_assoc, List.cons_append, hrest]
                    using hwhole
            · cases kind with
              | sum =>
                  rw [goOn_sum_misnamed hname] at h
                  cases h
                  exact .sum hleft hname
              | product =>
                  rw [goOn_product_misnamed hname] at h
                  rcases bind_eq_error.mp h with hright | ⟨⟨y, next⟩, hright, herror⟩
                  · exact .past hleft hname (hread hright)
                  · cases herror
                    obtain ⟨e, hrest, hy, he⟩ := readRank_sound budget .factor hright
                    simp only at hrest
                    rw [hrest]
                    exact .product hleft hname ⟨he, y, hy⟩
            · have hpart := hends _ rfl
              rw [inChain_ofText] at hpart
              cases hpart

theorem chain_derails (hread : FindsUnknown τ budget kind.operand) :
    FindsUnknown τ budget (.chain kind) := by
  intro cursor text h
  rw [readRank_chain] at h
  rcases bind_eq_error.mp h with hfirst | ⟨⟨x, next⟩, hfirst, hgo⟩
  · exact .first (hread hfirst)
  · obtain ⟨e, hrest, hvalue, he⟩ := readRank_sound budget kind.operand hfirst
    rw [hrest]
    exact goOn_derails hread hgo (ends_of_operand hfirst) (.single e) hvalue he

theorem factor_derails (budget : Nat) : FindsUnknown τ budget .factor := by
  induction budget using Nat.strongRecOn with
  | ind budget ih =>
      intro cursor text h
      obtain ⟨position, rest⟩ := cursor
      cases budget with
      | zero => cases h
      | succ budget =>
          cases rest with
          | nil => cases h
          | cons token rest =>
              cases token with
              | number digits =>
                  simp only [readRank, factor] at h
                  split at h <;> cases h
              | operator sign =>
                  simp only [readRank, factor] at h
                  split at h
                  · next hsign =>
                      obtain rfl := Wording.text?_eq_some.mp hsign
                      exact .negation (ih budget (Nat.lt_succ_self _) (negated_eq_error h))
                  · cases h
              | openParen opening =>
                  rcases budget with _ | _ | inner
                  · cases h
                  · cases h
                  · simp only [readRank, factor] at h
                    rcases closed_eq_error h with hbody | ⟨_, _, _, -, herror⟩
                    · have hsum : FindsUnknown τ inner (.chain .sum) :=
                        chain_derails (chain_derails (ih inner (by omega)))
                      exact .group (hsum hbody)
                    · cases herror
              | closeParen closing => cases h

/-! ## What derails is come to -/

/-- What follows a phrase of a chain is read from the phrase's value. -/
theorem readRank_past {left : Phrase τ (.chain kind)} (hread : left.IsRead budget) {token : Token τ}
    {rest : List (Token τ)} (hends : Ends (.chain kind) (token :: rest)) (position : Nat) :
    ∃ x next, readRank budget (.chain kind) ⟨position, left.tokens ++ token :: rest⟩ =
      goOn budget kind (rest.length + 1) x ⟨next, token :: rest⟩ := by
  obtain ⟨hdepth, x, hvalue⟩ := hread
  refine ⟨x, position + left.tokens.length, ?_⟩
  rw [readRank_tokens left hdepth position hends, hvalue]
  rfl

theorem Derails.readRank (h : Derails text budget rank tokens) (position : Nat) :
    readRank budget rank ⟨position, tokens⟩ = .error (.unknownOperator text) := by
  induction h generalizing position with
  | negation _ ih =>
      have hread := ih (position + 1)
      simp only [Expression.readRank] at hread
      simp only [Expression.readRank, factor_minus, hread]
      rfl
  | group _ ih =>
      have hread := ih (position + 1)
      simp only [Expression.readRank] at hread
      simp only [Expression.readRank, factor, hread]
      rfl
  | first _ ih =>
      rw [readRank_chain, ih position]
      rfl
  | right read fits _ ih =>
      obtain ⟨x, next, hpast⟩ := readRank_past read (ends_ofOperator fits _) position
      rw [hpast, goOn_step _ _ _ _ fits, ih (next + 1)]
      rfl
  | past read misnamed _ ih =>
      obtain ⟨x, next, hpast⟩ := readRank_past read trivial position
      rw [hpast, goOn_product_misnamed misnamed, ih (next + 1)]
      rfl
  | product readLeft misnamed readRight =>
      obtain ⟨x, next, hpast⟩ :=
        readRank_past readLeft trivial position
      obtain ⟨hdepth, y, hy⟩ := readRight
      rw [hpast, goOn_product_misnamed misnamed,
        readRank_tokens _ hdepth (next + 1) trivial, hy]
      rfl
  | @sum budget left rest read misnamed =>
      have hends : Ends (.chain .sum) (.operator text :: rest) := by
        rintro token ⟨⟩
        cases misnamed
        exact inChain_ofText _ _
      obtain ⟨x, next, hpast⟩ := readRank_past read hends position
      rw [hpast, goOn_sum_misnamed misnamed]

/-! ## Whole expressions -/

theorem evaluate_eq_unknown_iff : evaluate tokens budget = .error (.unknownOperator text) ↔
    Derails text budget (.chain .sum) tokens := by
  constructor
  · intro h
    have hsum : FindsUnknown τ budget (.chain .sum) :=
      chain_derails (chain_derails (factor_derails budget))
    unfold evaluate at h
    split at h
    · cases h
    · split at h
      · next hread =>
          cases h
          exact hsum hread
      · unfold finiteResult at h
        split at h <;> cases h
      · cases h
  · intro h
    have hread := h.readRank 0
    have hne : tokens.isEmpty = false := by
      rw [List.isEmpty_eq_false_iff]
      exact List.ne_nil_of_mem h.mem.1
    simp only [Expression.readRank] at hread
    rw [evaluate, hne, if_neg Bool.false_ne_true, hread]

/-- What evaluating a list of tokens within a budget can end in. -/
structure Concludes (tokens : List (Token τ)) (budget : Nat) : Prop where
  ends : (∃ x, evaluate tokens budget = .ok x ∧ x.isFinite = true) ∨
    (∃ e, evaluate tokens budget = .error e ∧ e.IsShown) ∨
      ∃ text, evaluate tokens budget = .error (.unknownOperator text)
  unknown_iff : ∀ text, evaluate tokens budget = .error (.unknownOperator text) ↔
    Derails text budget (.chain .sum) tokens
  misnamed : ∀ text, Derails text budget (.chain .sum) tokens →
    .operator text ∈ tokens ∧ (text = Wording.ofText [] ∨
      text = Wording.ofText ['+', '-'] ∨ text = Wording.ofText ['*', '/'])

/-- Every evaluation ends in a finite number or in an error that is shown, but for one way: it
comes to an operator without a name, with all that stands before it read. No typed text and no
keys lead there. -/
theorem concludes (budget : Nat) :
    (∀ tokens : List (Token τ), Concludes tokens budget) ∧
    ∀ tokens : List Token, (∃ t, tokenize t = .ok tokens) ∨ Typable tokens →
      ∀ e, evaluate tokens budget = .error e → e.IsShown := by
  constructor
  · intro tokens
    refine ⟨?_, fun _ => evaluate_eq_unknown_iff, fun text h => ?_⟩
    · cases h : evaluate tokens budget with
      | ok x => exact .inl ⟨x, rfl, (evaluate_eq_ok h).1⟩
      | error e =>
          rcases isShown_or_unknown h with hshown | ⟨text, rfl, -⟩
          · exact .inr (.inl ⟨e, rfl, hshown⟩)
          · exact .inr (.inr ⟨text, rfl⟩)
    · obtain ⟨hmem, kind, hname⟩ := h.mem
      refine ⟨hmem, ?_⟩
      cases kind with
      | product => exact hname.imp_right .inr
      | sum => exact .inr (.inl hname)
  · rintro tokens (⟨t, htokens⟩ | htyped) e h
    · exact isShown_of_evaluate (fun _ => (lexed_of_lex htokens).exists_operator) h
    · exact (htyped.evaluate_eq_error h).1

/-- A one, an operator without any text, and a two. -/
theorem concludes_emptyOperator :
    evaluate [.number ['1'], .operator [], .number ['2']] = .error (.unknownOperator []) ∧
      ¬(ExpressionError.unknownOperator ([] : Text)).IsShown := by
  have hfactor : ∀ {c : Char}, (Numeral.read? [c]).isSome = true →
      (Phrase.number [c]).IsRead nestingBudget := by
    intro c hc
    obtain ⟨x, hx⟩ := Option.isSome_iff_exists.mp hc
    exact ⟨Nat.succ_le_succ (Nat.zero_le _), x, Phrase.value_number.mpr hx⟩
  have hone : (Phrase.number ['1']).IsRead nestingBudget := hfactor (by decide +kernel)
  have htwo : (Phrase.number ['2']).IsRead nestingBudget := hfactor (by decide +kernel)
  have hderails : Derails [] nestingBudget (.chain .product)
      [.number ['1'], .operator [], .number ['2']] :=
    @Derails.product _ _ _ _ (.single (.number ['1'])) (.number ['2']) [] hone (.inl rfl) htwo
  refine ⟨(((concludes nestingBudget).1 _).unknown_iff []).mpr (.first hderails), ?_⟩
  rintro (h | h | ⟨x, -, h⟩) <;> cases h

end FieldCalc.Expression
