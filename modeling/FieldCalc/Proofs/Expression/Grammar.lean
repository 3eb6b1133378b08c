import FieldCalc.Proofs.Expression.Phrase

/-!
# The evaluator reads the grammar

What the evaluator reads from a list of tokens is the value of a phrase that derives the tokens
it has used up, and a phrase within the budget for nesting is read back wherever its tokens
stand. The first is an induction on the budget, and inside it on the length of a chain. The
second is one induction on the phrase: reading a chain and then going on from its value is
reading the longer chain, so the statement carries what may still follow.
-/

namespace FieldCalc.Expression

variable {τ : Type}

/-! ## Results that are there -/

theorem closed_eq_ok {reading : Reading τ} {x : Binary64} {next : Cursor τ}
    (h : closed reading = .ok (x, next)) :
    ∃ position closing, reading = .ok (x, ⟨position, .closeParen closing :: next.rest⟩) := by
  unfold closed at h
  split at h
  · cases h
  · next x position closing rest =>
      cases h
      exact ⟨position, closing, rfl⟩
  · cases h

theorem negated_eq_ok {reading : Reading τ} {x : Binary64} {next : Cursor τ}
    (h : negated reading = .ok (x, next)) : ∃ y, reading = .ok (y, next) ∧ y.neg = x := by
  unfold negated at h
  split at h
  · cases h
  · next y cursor =>
      cases h
      exact ⟨y, rfl, rfl⟩

theorem finiteResult_eq_ok {x y : Binary64} (h : finiteResult (τ := τ) x = .ok y) :
    x = y ∧ y.isFinite = true := by
  unfold finiteResult at h
  split at h
  · next hx =>
      cases h
      exact ⟨rfl, hx⟩
  · cases h

variable [Wording τ]

/-! ## Operators of a chain -/

def Chain.symbols : Chain → Text
  | product => ['*', '/']
  | sum => ['+', '-']

theorem inChain_ofText (symbols t : Text) :
    inChain symbols (.operator (Wording.ofText t) : Token τ) = Text.hasPart t symbols := by
  rw [inChain, Wording.text?_ofText, Option.any_some]

theorem inChain_ofOperator {kind : Chain} {op : Operator} :
    inChain kind.symbols (.ofOperator op : Token τ) = true ↔ chainOf op = kind := by
  rw [Token.ofOperator, inChain_ofText]
  cases kind <;> cases op <;> decide

theorem text_of_ofText? {text : Text} {op : Operator} (h : Operator.ofText? text = some op) :
    text = op.text := by
  unfold Operator.ofText? at h
  split at h
  · next c => rw [Operator.text, Operator.symbol_of_ofChar? h]
  · cases h

theorem operator?_eq_some {text : τ} {op : Operator} :
    operator? text = some op ↔ text = Wording.ofText op.text := by
  constructor
  · intro h
    obtain ⟨t, ht, hop⟩ := Option.bind_eq_some_iff.mp h
    rw [← text_of_ofText? hop]
    exact Wording.text?_eq_some.mp ht
  · rintro rfl
    rw [operator?, Wording.text?_ofText]
    exact Operator.ofText?_text op

/-- A token of a chain whose text names an operator is that operator. -/
theorem eq_ofOperator {symbols : Text} {token : Token τ} {op : Operator}
    (hchain : inChain symbols token = true) (hop : operator? token.text = some op) :
    token = .ofOperator op := by
  cases token with
  | operator text => exact congrArg Token.operator (operator?_eq_some.mp hop)
  | number _ | openParen _ | closeParen _ => cases hchain

/-! ## Reading by kind of phrase -/

def readRank (budget : Nat) : Rank → Cursor τ → Reading τ
  | .factor => factor budget
  | .chain .product => product (factor budget)
  | .chain .sum => sum (factor budget)

/-- Goes on with a chain from the value so far. -/
def goOn (budget : Nat) : Chain → Nat → Binary64 → Cursor τ → Reading τ
  | .product => productFrom (factor budget)
  | .sum => sumFrom (product (factor budget))

theorem readRank_chain (budget : Nat) (kind : Chain) (cursor : Cursor τ) :
    readRank budget (.chain kind) cursor =
      (readRank budget kind.operand cursor).bind fun (x, next) =>
        goOn budget kind next.rest.length x next := by
  cases kind with
  | product =>
      simp only [readRank, Chain.operand, product]
      cases factor budget cursor <;> rfl
  | sum =>
      simp only [readRank, Chain.operand, sum]
      cases product (factor budget) cursor <;> rfl

theorem goOn_zero (budget : Nat) (kind : Chain) (x : Binary64) (cursor : Cursor τ) :
    goOn budget kind 0 x cursor = .ok (x, cursor) := by
  cases kind <;> rfl

/-- A chain ends where no token of it stands. -/
theorem goOn_stop (budget : Nat) {kind : Chain} (count : Nat) (x : Binary64) {cursor : Cursor τ}
    (h : ∀ token ∈ cursor.rest.head?, inChain kind.symbols token = false) :
    goOn budget kind count x cursor = .ok (x, cursor) := by
  obtain ⟨position, rest⟩ := cursor
  cases count with
  | zero => exact goOn_zero budget kind x _
  | succ count =>
      cases rest with
      | nil => cases kind <;> rfl
      | cons token rest =>
          have htoken := h token rfl
          cases kind with
          | product => exact if_neg (Bool.eq_false_iff.mp htoken)
          | sum => exact if_neg (Bool.eq_false_iff.mp htoken)

theorem goOn_step (budget : Nat) {kind : Chain} (count : Nat) (x : Binary64) (position : Nat)
    {op : Operator} (fits : chainOf op = kind) (rest : List (Token τ)) :
    goOn budget kind (count + 1) x ⟨position, .ofOperator op :: rest⟩ =
      (readRank budget kind.operand ⟨position + 1, rest⟩).bind fun (y, next) =>
        (stepValue op x y).bind fun z => goOn budget kind count z next := by
  have hop : operator? (Token.ofOperator op : Token τ).text = some op :=
    operator?_eq_some.mpr rfl
  cases kind with
  | product =>
      have hchain : inChain ['*', '/'] (.ofOperator op : Token τ) = true :=
        inChain_ofOperator.mpr fits
      simp only [goOn, productFrom, readRank, Chain.operand]
      rw [if_pos hchain, hop]
      cases factor budget ⟨position + 1, rest⟩ with
      | error e => rfl
      | ok reading =>
          obtain ⟨y, next⟩ := reading
          have htext :
              Wording.text? (Token.ofOperator op : Token τ).text = some ['/'] ↔ op = .divide := by
            rw [Token.ofOperator, Token.text, Wording.text?_ofText]
            cases op <;> decide
          simp only [Except.bind, stepValue, htext]
          split <;> rfl
  | sum =>
      have hchain : inChain ['+', '-'] (.ofOperator op : Token τ) = true :=
        inChain_ofOperator.mpr fits
      simp only [goOn, sumFrom, readRank, Chain.operand]
      rw [if_pos hchain, hop]
      cases product (factor budget) ⟨position + 1, rest⟩ with
      | error e => rfl
      | ok reading =>
          obtain ⟨y, next⟩ := reading
          have hdivide : ¬(op = .divide ∧ y.isZero = true) := by
            rintro ⟨rfl, -⟩
            cases fits
          simp only [Except.bind, stepValue, if_neg hdivide]

theorem goOn_eq_ok {budget : Nat} {kind : Chain} {count : Nat} {x y : Binary64}
    {cursor next : Cursor τ} (h : goOn budget kind (count + 1) x cursor = .ok (y, next)) :
    (x = y ∧ cursor = next ∧ ∀ token ∈ next.rest.head?, inChain kind.symbols token = false) ∨
      ∃ op rest, chainOf op = kind ∧ cursor.rest = .ofOperator op :: rest := by
  obtain ⟨position, rest⟩ := cursor
  by_cases hstop : ∀ token ∈ rest.head?, inChain kind.symbols token = false
  · rw [goOn_stop budget _ x hstop] at h
    cases h
    exact .inl ⟨rfl, rfl, hstop⟩
  · cases rest with
    | nil => exact absurd nofun hstop
    | cons token rest =>
        have hchain : inChain kind.symbols token = true := by simpa using hstop
        have hop : ∃ op, operator? token.text = some op := by
          cases hop : operator? token.text with
          | some op => exact ⟨op, rfl⟩
          | none =>
              cases kind with
              | product =>
                  simp only [Chain.symbols] at hchain
                  simp only [goOn, productFrom] at h
                  rw [if_pos hchain, hop] at h
                  split at h
                  · cases h
                  · split at h <;> cases h
              | sum =>
                  simp only [Chain.symbols] at hchain
                  simp only [goOn, sumFrom] at h
                  rw [if_pos hchain, hop] at h
                  cases h
        obtain ⟨op, hop⟩ := hop
        obtain rfl := eq_ofOperator hchain hop
        exact .inr ⟨op, rest, inChain_ofOperator.mp hchain, rfl⟩

/-! ## What is read is a phrase -/

variable (τ) in
/-- Whatever is read off the tokens is derived by a phrase of its value. -/
def Sound (budget : Nat) (rank : Rank) : Prop :=
  ∀ ⦃cursor : Cursor τ⦄ ⦃x next⦄, readRank budget rank cursor = .ok (x, next) →
    ∃ e : Phrase τ rank, cursor.rest = e.tokens ++ next.rest ∧ e.value = .ok x ∧ e.depth ≤ budget

theorem goOn_sound {budget : Nat} {kind : Chain} (hread : Sound τ budget kind.operand)
    {count : Nat} {x y : Binary64} {cursor next : Cursor τ}
    (h : goOn budget kind count x cursor = .ok (y, next)) (left : Phrase τ (.chain kind))
    (hleft : left.value = .ok x) (hdepth : left.depth ≤ budget) :
    ∃ e : Phrase τ (.chain kind), left.tokens ++ cursor.rest = e.tokens ++ next.rest ∧
      e.value = .ok y ∧ e.depth ≤ budget := by
  -- What has been read of the chain so far is the left end of the phrase to come.
  induction count generalizing x cursor left with
  | zero =>
      rw [goOn_zero] at h
      cases h
      exact ⟨left, rfl, hleft, hdepth⟩
  | succ count ih =>
      rcases goOn_eq_ok h with ⟨rfl, rfl, -⟩ | ⟨op, rest, fits, hrest⟩
      · exact ⟨left, rfl, hleft, hdepth⟩
      · obtain ⟨position, all⟩ := cursor
        simp only at hrest
        subst hrest
        rw [goOn_step budget _ x _ fits] at h
        obtain ⟨⟨right, middle⟩, hright, hstep⟩ := bind_eq_ok.mp h
        obtain ⟨z, hz, hgo⟩ := bind_eq_ok.mp hstep
        obtain ⟨e, htokens, hvalue, he⟩ := hread hright
        have hlonger : (left.step op fits e).value = .ok z :=
          bind_eq_ok.mpr ⟨x, hleft, bind_eq_ok.mpr ⟨right, hvalue, hz⟩⟩
        obtain ⟨whole, hwhole, hrest⟩ := ih hgo _ hlonger (Nat.max_le.mpr ⟨hdepth, he⟩)
        refine ⟨whole, ?_, hrest⟩
        simp only at htokens
        rw [← hwhole, htokens]
        simp [Phrase.tokens]

theorem chain_sound {budget : Nat} {kind : Chain} (hread : Sound τ budget kind.operand) :
    Sound τ budget (.chain kind) := by
  intro cursor x next h
  rw [readRank_chain] at h
  obtain ⟨⟨first, middle⟩, hfirst, hgo⟩ := bind_eq_ok.mp h
  obtain ⟨e, hrest, hvalue, he⟩ := hread hfirst
  obtain ⟨whole, htokens, hwhole⟩ := goOn_sound hread hgo (.single e) hvalue he
  exact ⟨whole, hrest.trans htokens, hwhole⟩

theorem factor_sound (budget : Nat) : Sound τ budget .factor := by
  -- A parenthesis takes three of the budget at once, so one less is not enough of an induction.
  induction budget using Nat.strongRecOn with
  | ind budget ih =>
      intro cursor x next h
      obtain ⟨position, rest⟩ := cursor
      cases budget with
      | zero => cases h
      | succ budget =>
          cases rest with
          | nil => cases h
          | cons token rest =>
              cases token with
              | number text =>
                  simp only [readRank, factor] at h
                  split at h
                  · next y hy =>
                      cases h
                      exact ⟨.number text, rfl, Phrase.value_number.mpr hy,
                        Nat.succ_le_succ (Nat.zero_le budget)⟩
                  · cases h
              | operator text =>
                  simp only [readRank, factor] at h
                  split at h
                  · next htext =>
                      obtain ⟨y, hy, rfl⟩ := negated_eq_ok h
                      obtain ⟨e, hrest, hvalue, he⟩ := ih budget (Nat.lt_succ_self _) hy
                      refine ⟨.negation e, ?_, map_eq_ok.mpr ⟨y, hvalue, rfl⟩,
                        Nat.succ_le_succ he⟩
                      simp only at hrest
                      rw [Wording.text?_eq_some.mp htext, hrest]
                      rfl
                  · cases h
              | openParen opening =>
                  rcases budget with _ | _ | inner
                  · cases h
                  · cases h
                  · simp only [readRank, factor] at h
                    obtain ⟨_, closing, hbody⟩ := closed_eq_ok h
                    have hsum : Sound τ inner (.chain .sum) :=
                      chain_sound (chain_sound (ih inner (by omega)))
                    obtain ⟨e, hrest, hvalue, he⟩ := hsum hbody
                    refine ⟨.group opening closing e, ?_, hvalue, Nat.add_le_add_right he 3⟩
                    simp only at hrest
                    simp [Phrase.tokens, hrest]
              | closeParen text => cases h

theorem readRank_sound (budget : Nat) (rank : Rank) : Sound τ budget rank := by
  match rank with
  | .factor => exact factor_sound budget
  | .chain .product => exact chain_sound (factor_sound budget)
  | .chain .sum => exact chain_sound (chain_sound (factor_sound budget))

theorem readRank_shorter {budget : Nat} {rank : Rank} {cursor next : Cursor τ} {x : Binary64}
    (h : readRank budget rank cursor = .ok (x, next)) : next.rest.length < cursor.rest.length := by
  obtain ⟨e, hrest, -⟩ := readRank_sound budget rank h
  have := List.length_pos_iff.mpr e.tokens_ne_nil
  rw [hrest, List.length_append]
  omega

/-! ## Phrases are read back -/

/-- A bound on the steps of a chain does not matter where the tokens themselves are fewer. -/
theorem goOn_count {budget : Nat} {kind : Chain} {m n : Nat} {x : Binary64} {cursor : Cursor τ}
    (hm : cursor.rest.length ≤ m) (hn : cursor.rest.length ≤ n) :
    goOn budget kind m x cursor = goOn budget kind n x cursor := by
  induction m generalizing n x cursor with
  | zero =>
      have hnil : cursor.rest = [] := List.length_eq_zero_iff.mp (Nat.le_zero.mp hm)
      rw [goOn_stop _ _ _ (by simp [hnil]), goOn_stop _ _ _ (by simp [hnil])]
  | succ m ih =>
      obtain ⟨position, rest⟩ := cursor
      by_cases hstop : ∀ token ∈ rest.head?, inChain kind.symbols token = false
      · rw [goOn_stop _ _ _ hstop, goOn_stop _ _ _ hstop]
      · cases rest with
        | nil => exact absurd nofun hstop
        | cons token rest =>
            obtain ⟨n, rfl⟩ : ∃ k, n = k + 1 := ⟨n - 1, by simp at hn; omega⟩
            have hchain : inChain kind.symbols token = true := by simpa using hstop
            cases hop : operator? token.text with
            | none =>
                cases kind <;>
                  simp only [goOn, productFrom, sumFrom, hop]
            | some op =>
                obtain rfl := eq_ofOperator hchain hop
                have fits := inChain_ofOperator.mp hchain
                rw [goOn_step _ _ _ _ fits, goOn_step _ _ _ _ fits]
                cases hread : readRank budget kind.operand ⟨position + 1, rest⟩ with
                | error e => rfl
                | ok reading =>
                    obtain ⟨y, next⟩ := reading
                    have hshort := readRank_shorter hread
                    simp only [List.length_cons] at hm hn hshort
                    simp only [Except.bind]
                    cases stepValue op x y with
                    | error e => rfl
                    | ok z => exact ih (by omega) (by omega)

/-- What follows a phrase does not go on with a chain inside it. -/
def Ends : Rank → List (Token τ) → Prop
  | .chain .sum, rest => ∀ token ∈ rest.head?, inChain Chain.product.symbols token = false
  | _, _ => True

/-- What is read after a phrase: where a chain has been read, it may go on. -/
def readOn (budget : Nat) : Rank → Binary64 → Cursor τ → Reading τ
  | .factor, x, cursor => .ok (x, cursor)
  | .chain kind, x, cursor => goOn budget kind cursor.rest.length x cursor

theorem readOn_operand {budget : Nat} {kind : Chain} {rest : List (Token τ)}
    (h : Ends (.chain kind) rest) (x : Binary64) (position : Nat) :
    readOn budget kind.operand x ⟨position, rest⟩ = .ok (x, ⟨position, rest⟩) := by
  cases kind with
  | product => rfl
  | sum =>
      change goOn budget .product rest.length x ⟨position, rest⟩ = _
      exact goOn_stop budget _ x h

theorem ends_operand (kind : Chain) (rest : List (Token τ)) : Ends kind.operand rest := by
  cases kind <;> exact trivial

theorem ends_ofOperator {kind : Chain} {op : Operator} (fits : chainOf op = kind)
    (rest : List (Token τ)) : Ends (.chain kind) (.ofOperator op :: rest) := by
  cases kind with
  | product => exact trivial
  | sum =>
      intro token htoken
      cases htoken
      refine Bool.eq_false_iff.mpr fun hchain => ?_
      rw [inChain_ofOperator.mp hchain] at fits
      cases fits

/-- The tokens of a phrase are read as its value, wherever they stand. -/
def ReadBack (budget : Nat) {rank : Rank} (e : Phrase τ rank) : Prop :=
  ∀ (position : Nat) ⦃rest : List (Token τ)⦄, Ends rank rest →
    readRank budget rank ⟨position, e.tokens ++ rest⟩ =
      e.value.bind fun x => readOn budget rank x ⟨position + e.tokens.length, rest⟩

theorem readBack_number (budget : Nat) (text : τ) : ReadBack (budget + 1) (.number text) := by
  intro position rest _
  simp only [readRank, Phrase.tokens, List.singleton_append, factor, Phrase.value]
  cases numeral? text <;> rfl

theorem factor_minus (budget position : Nat) (rest : List (Token τ)) :
    factor (budget + 1) ⟨position, .ofOperator .minus :: rest⟩ =
      negated (factor budget ⟨position + 1, rest⟩) :=
  if_pos (Wording.text?_ofText Operator.minus.text)

theorem readBack_negation {budget : Nat} {operand : Phrase τ .factor}
    (h : ReadBack budget operand) : ReadBack (budget + 1) (.negation operand) := by
  intro position rest hends
  have hread := h (position + 1) hends
  simp only [readRank] at hread
  simp only [readRank, Phrase.tokens, List.cons_append, factor_minus, Phrase.value,
    List.length_cons]
  rw [hread]
  cases operand.value with
  | error e => rfl
  | ok x => simp [readOn, Except.bind, Except.map, negated, Nat.add_assoc, Nat.add_comm 1]

theorem readBack_group {budget : Nat} (opening closing : τ) {body : Phrase τ (.chain .sum)}
    (h : ReadBack budget body) : ReadBack (budget + 3) (.group opening closing body) := by
  intro position rest _
  have hends : Ends (.chain .sum) (.closeParen closing :: rest) := by
    rintro token ⟨⟩
    rfl
  have hread := h (position + 1) hends
  simp only [readRank] at hread
  simp only [readRank, Phrase.tokens, List.cons_append, List.append_assoc, List.nil_append,
    factor, Phrase.value]
  rw [hread]
  cases body.value with
  | error e => rfl
  | ok x =>
      simp only [Except.bind, readOn]
      rw [goOn_stop _ _ _ (by rintro token ⟨⟩; rfl)]
      simp [closed, Nat.add_assoc, Nat.add_comm 1]

theorem readBack_single {budget : Nat} {kind : Chain} {first : Phrase τ kind.operand}
    (h : ReadBack budget first) : ReadBack budget (.single first) := by
  intro position rest hends
  rw [readRank_chain]
  simp only [Phrase.tokens, Phrase.value]
  rw [h position (ends_operand kind rest)]
  cases first.value with
  | error e => rfl
  | ok x =>
      simp only [Except.bind]
      rw [readOn_operand hends]
      rfl

theorem readBack_step {budget : Nat} {kind : Chain} {left : Phrase τ (.chain kind)} {op : Operator}
    (fits : chainOf op = kind) {right : Phrase τ kind.operand} (hleft : ReadBack budget left)
    (hright : ReadBack budget right) : ReadBack budget (.step left op fits right) := by
  intro position rest hends
  simp only [Phrase.tokens, List.append_assoc, List.cons_append, Phrase.value]
  rw [hleft position (ends_ofOperator fits _)]
  cases left.value with
  | error e => rfl
  | ok x =>
      simp only [Except.bind, readOn, List.length_cons]
      rw [goOn_step _ _ _ _ fits, hright _ (ends_operand kind rest)]
      cases right.value with
      | error e => rfl
      | ok y =>
          simp only [Except.bind]
          rw [readOn_operand hends]
          simp only
          cases stepValue op x y with
          | error e => rfl
          | ok z =>
              simp only
              -- The chain may take as many steps as `right` has tokens too, but needs fewer.
              rw [goOn_count (n := rest.length) (by simp) (Nat.le_refl _)]
              simp [Nat.add_assoc, Nat.add_comm 1]

theorem readRank_tokens {rank : Rank} (e : Phrase τ rank) {budget : Nat}
    (hdepth : e.depth ≤ budget) : ReadBack budget e := by
  induction e generalizing budget with
  | number text =>
      obtain ⟨budget, rfl⟩ := Nat.exists_eq_add_of_le' (Nat.le_trans (Nat.le_add_left 1 _) hdepth)
      exact readBack_number budget text
  | negation operand ih =>
      obtain ⟨budget, rfl⟩ := Nat.exists_eq_add_of_le' (Nat.le_trans (Nat.le_add_left 1 _) hdepth)
      exact readBack_negation (ih (Nat.le_of_succ_le_succ hdepth))
  | group opening closing body ih =>
      obtain ⟨budget, rfl⟩ := Nat.exists_eq_add_of_le' (Nat.le_trans (Nat.le_add_left 3 _) hdepth)
      exact readBack_group opening closing (ih (Nat.le_of_add_le_add_right hdepth))
  | single first ih => exact readBack_single (ih hdepth)
  | step left op fits right ihLeft ihRight =>
      obtain ⟨hleft, hright⟩ := Nat.max_le.mp hdepth
      exact readBack_step fits (ihLeft hleft) (ihRight hright)

/-! ## Whole expressions -/

/-- What evaluates does so by the grammar, within the budget, to a finite number. -/
theorem evaluate_eq_ok {tokens : List (Token τ)} {budget : Nat} {x : Binary64}
    (h : evaluate tokens budget = .ok x) :
    x.isFinite = true ∧ ∃ e : Phrase τ (.chain .sum),
      e.tokens = tokens ∧ e.value = .ok x ∧ e.depth ≤ budget := by
  unfold evaluate at h
  split at h
  · cases h
  · split at h
    · cases h
    · next y position hread =>
        obtain ⟨rfl, hfinite⟩ := finiteResult_eq_ok h
        obtain ⟨e, htokens, hvalue, hdepth⟩ := readRank_sound budget (.chain .sum) hread
        simp only [List.append_nil] at htokens
        exact ⟨hfinite, e, htokens.symm, hvalue, hdepth⟩
    · cases h

/-- A phrase within the budget evaluates to its value, if that is finite. -/
theorem evaluate_tokens (e : Phrase τ (.chain .sum)) {budget : Nat} (h : e.depth ≤ budget) :
    evaluate e.tokens budget = e.value.bind finiteResult := by
  have hends : Ends (.chain .sum) ([] : List (Token τ)) := nofun
  have hread := readRank_tokens e h 0 hends
  simp only [List.append_nil, readRank] at hread
  unfold evaluate
  rw [if_neg (by simpa using e.tokens_ne_nil), hread]
  cases e.value with
  | error error => rfl
  | ok x =>
      simp only [Except.bind, readOn]
      rw [goOn_stop _ _ _ (by simp)]

theorem evaluate_factor (e : Phrase τ .factor) {budget : Nat} (h : e.depth ≤ budget)
    {x : Binary64} (hvalue : e.value = .ok x) : evaluate e.tokens budget = finiteResult x := by
  let whole : Phrase τ (.chain .sum) := .single (.single e)
  calc evaluate whole.tokens budget
      = whole.value.bind finiteResult := evaluate_tokens whole h
    _ = finiteResult x := congrArg (fun value => value.bind finiteResult) hvalue

theorem evaluate_number {t : Text} {x : Binary64} (h : Numeral.read? t = some x) :
    evaluate [.number t] = finiteResult x :=
  evaluate_factor (.number t) (show 1 ≤ nestingBudget by decide) (Phrase.value_number.mpr h)

/-- The evaluator implements the grammar. What it evaluates is a phrase of numerals, and the
result is the phrase's value. A phrase of numerals within the budget evaluates to its value if that
is finite and no divisor is zero, and no phrase is found malformed. This is so whatever the texts
of the tokens and the budget. -/
theorem evaluate_exact (tokens : List (Token τ)) (budget : Nat) :
    (∀ x, evaluate tokens budget = .ok x →
      ∃ e : Phrase τ (.chain .sum), e.tokens = tokens ∧ Readable tokens ∧ e.value = .ok x) ∧
    ∀ e : Phrase τ (.chain .sum), e.tokens = tokens → Readable tokens → e.depth ≤ budget →
      (∃ x, e.value = .ok x ∧
        evaluate tokens budget = if x.isFinite then .ok x else .error (.notFinite x)) ∨
      (e.value = .error .divisionByZero ∧ evaluate tokens budget = .error .divisionByZero) := by
  constructor
  · intro x h
    obtain ⟨-, e, rfl, hvalue, -⟩ := evaluate_eq_ok h
    exact ⟨e, rfl, e.readable_of_value hvalue, hvalue⟩
  · rintro e rfl hreadable hdepth
    rw [evaluate_tokens e hdepth]
    rcases e.value_of_readable hreadable with ⟨x, hx⟩ | herror
    · exact .inl ⟨x, hx, by rw [hx]; rfl⟩
    · exact .inr ⟨herror, by rw [herror]; rfl⟩

/-- Two times a sum in parentheses, the last number of which has a sign. -/
def twiceSum : Phrase Text (.chain .sum) :=
  .single (.step (.single (.number ['2'])) .times rfl (.group ['('] [')']
    (.step (.single (.single (.number ['3']))) .plus rfl
      (.single (.negation (.number ['4']))))))

/-- It takes five of the budget and comes to minus two. -/
theorem evaluate_exact_twiceSum : twiceSum.depth ≤ 5 ∧ Readable twiceSum.tokens ∧
    evaluate twiceSum.tokens 5 = .ok (Binary64.ofNat 2).neg ∧
      ∃ e : Phrase Text (.chain .sum), e.tokens = twiceSum.tokens ∧
        e.value = .ok (Binary64.ofNat 2).neg := by
  obtain ⟨hsound, hcomplete⟩ := evaluate_exact twiceSum.tokens 5
  have hvalue : twiceSum.value = .ok (Binary64.ofNat 2).neg :=
    eq_ok_of_toOption (by decide +kernel)
  have hdepth : twiceSum.depth ≤ 5 := by decide
  have hreadable := twiceSum.readable_of_value hvalue
  have hevaluate : evaluate twiceSum.tokens 5 = .ok (Binary64.ofNat 2).neg := by
    rcases hcomplete twiceSum rfl hreadable hdepth with ⟨x, hx, hresult⟩ | ⟨hzero, -⟩
    · have hminusTwo : x = (Binary64.ofNat 2).neg := Except.ok.inj (hx.symm.trans hvalue)
      rw [hresult, hminusTwo, if_pos (by decide +kernel)]
    · cases hvalue.symm.trans hzero
  obtain ⟨e, htokens, -, he⟩ := hsound _ hevaluate
  exact ⟨hdepth, hreadable, hevaluate, e, htokens, he⟩

/-- Half of a character is no numeral. -/
example : evaluate [.number (⟨[.surrogate 0]⟩ : LooseText)] =
    .error (.badNumber ⟨[.surrogate 0]⟩) := by
  rfl

end FieldCalc.Expression
