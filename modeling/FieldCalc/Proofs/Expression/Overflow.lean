import FieldCalc.Proofs.Binary64.Finite
import FieldCalc.Proofs.Expression.Grammar
import FieldCalc.Proofs.Expression.Nesting

/-!
# Where an overflow goes

Only the final value of an expression is checked to be finite. A value before it that is not
finite goes on into everything it is used for, with one exception: a finite number divided by an
infinite one is zero. So what a final value vouches for are the parts of its phrase that do not
stand in a divisor that has overflowed, and it vouches for all parts unless there is such a
divisor.
-/

namespace FieldCalc.Expression

variable {τ : Type}

theorem apply_of_stepValue {op : Operator} {x y z : Binary64}
    (h : stepValue (τ := τ) op x y = .ok z) :
    op.apply x y = z := by
  unfold stepValue at h
  split at h
  · cases h
  · cases h
    rfl

variable [Wording τ]

namespace Phrase

/-! ## Parts -/

/-- A part of a phrase is the phrase itself, or a part of what it is made of: of the operand of
a sign, of the body of a group, of the beginning of a chain, or of the operand to its right. The
last only where `enters` admits it, by the operator and the operand's value. -/
inductive PartBy (enters : Operator → Except (ExpressionError τ) Binary64 → Prop) {other : Rank}
    (part : Phrase τ other) : {rank : Rank} → Phrase τ rank → Prop where
  | self : PartBy enters part part
  | negation {operand : Phrase τ .factor} :
      PartBy enters part operand → PartBy enters part (.negation operand)
  | group {opening closing : τ} {body : Phrase τ (.chain .sum)} :
      PartBy enters part body → PartBy enters part (.group opening closing body)
  | single {kind : Chain} {first : Phrase τ kind.operand} :
      PartBy enters part first → PartBy enters part (.single first)
  | left {kind : Chain} {left : Phrase τ (.chain kind)} {op : Operator} {fits : chainOf op = kind}
      {right : Phrase τ kind.operand} :
      PartBy enters part left → PartBy enters part (.step left op fits right)
  | right {kind : Chain} {left : Phrase τ (.chain kind)} {op : Operator} {fits : chainOf op = kind}
      {right : Phrase τ kind.operand} :
      enters op right.value → PartBy enters part right →
        PartBy enters part (.step left op fits right)

def Part {other rank : Rank} (part : Phrase τ other) (e : Phrase τ rank) : Prop :=
  PartBy (fun _ _ => True) part e

/-- A part that does not stand in a divisor of infinite value. -/
def Exposed {other rank : Rank} (part : Phrase τ other) (e : Phrase τ rank) : Prop :=
  PartBy (fun op value => op = .divide → ∀ negative, value ≠ .ok (.infinite negative)) part e

def quotient (dividend : Phrase τ (.chain .product)) (divisor : Phrase τ .factor) :
    Phrase τ (.chain .product) :=
  .step dividend .divide rfl divisor

def DividesByInfinity {rank : Rank} (e : Phrase τ rank) : Prop :=
  ∃ dividend divisor negative, (quotient dividend divisor).Part e ∧
    divisor.value = .ok (.infinite negative)

section

variable {enters : Operator → Except (ExpressionError τ) Binary64 → Prop} {first middle rank : Rank}
  {inner : Phrase τ first} {part : Phrase τ middle} {e : Phrase τ rank}

theorem PartBy.trans (hinner : PartBy enters inner part) (h : PartBy enters part e) :
    PartBy enters inner e := by
  induction h with
  | self => exact hinner
  | negation _ ih => exact .negation ih
  | group _ ih => exact .group ih
  | single _ ih => exact .single ih
  | left _ ih => exact .left ih
  | right henters _ ih => exact .right henters ih

/-- What evaluates does so in all of its parts. -/
theorem PartBy.value (h : PartBy enters part e) {x : Binary64} (hx : e.value = .ok x) :
    ∃ y, part.value = .ok y := by
  induction h generalizing x with
  | self => exact ⟨x, hx⟩
  | negation _ ih =>
      obtain ⟨y, hy, -⟩ := map_eq_ok.mp hx
      exact ih hy
  | group _ ih => exact ih hx
  | single _ ih => exact ih hx
  | left _ ih =>
      obtain ⟨y, hy, -⟩ := bind_eq_ok.mp hx
      exact ih hy
  | right _ _ ih =>
      obtain ⟨y, -, hstep⟩ := bind_eq_ok.mp hx
      obtain ⟨z, hz, -⟩ := bind_eq_ok.mp hstep
      exact ih hz

end

theorem part_of_mem_tokens {rank : Rank} (e : Phrase τ rank) {text : τ}
    (h : Token.number text ∈ e.tokens) : (number text).Part e := by
  induction e with
  | number other =>
      cases List.mem_singleton.mp h
      exact .self
  | negation operand ih =>
      rcases List.mem_cons.mp h with hsign | h
      · cases hsign
      · exact .negation (ih h)
  | group opening closing body ih =>
      rcases List.mem_cons.mp h with hopening | h
      · cases hopening
      · rcases List.mem_append.mp h with h | hclosing
        · exact .group (ih h)
        · cases List.mem_singleton.mp hclosing
  | single first ih => exact .single (ih h)
  | step left op fits right ihLeft ihRight =>
      rcases List.mem_append.mp h with h | h
      · exact .left (ihLeft h)
      · rcases List.mem_cons.mp h with hop | h
        · cases hop
        · exact .right trivial (ihRight h)

theorem Exposed.isFinite {other rank : Rank} {part : Phrase τ other} {e : Phrase τ rank}
    (h : part.Exposed e) {x : Binary64} (hx : e.value = .ok x) (hfinite : x.isFinite = true) :
    ∃ y, part.value = .ok y ∧ y.isFinite = true := by
  induction h generalizing x with
  | self => exact ⟨x, hx, hfinite⟩
  | negation _ ih =>
      obtain ⟨y, hy, rfl⟩ := map_eq_ok.mp hx
      exact ih hy (by rwa [Binary64.isFinite_neg] at hfinite)
  | group _ ih => exact ih hx hfinite
  | single _ ih => exact ih hx hfinite
  | left _ ih =>
      obtain ⟨y, hy, hstep⟩ := bind_eq_ok.mp hx
      obtain ⟨z, -, hz⟩ := bind_eq_ok.mp hstep
      obtain rfl := apply_of_stepValue hz
      exact ih hy (Operator.isFinite_of_apply hfinite).1
  | right henters _ ih =>
      obtain ⟨y, -, hstep⟩ := bind_eq_ok.mp hx
      obtain ⟨z, hright, hz⟩ := bind_eq_ok.mp hstep
      obtain rfl := apply_of_stepValue hz
      -- The operand is finite too, or it is a divisor of the kind that is not entered.
      rcases (Operator.isFinite_of_apply hfinite).2 with hright' | ⟨hdivide, negative, rfl⟩
      · exact ih hright hright'
      · exact absurd hright (henters hdivide negative)

theorem DividesByInfinity.of_part {other rank : Rank} {part : Phrase τ other} {e : Phrase τ rank}
    (hdivides : part.DividesByInfinity) (h : part.Part e) : e.DividesByInfinity := by
  obtain ⟨dividend, divisor, negative, hpart, hvalue⟩ := hdivides
  exact ⟨dividend, divisor, negative, hpart.trans h, hvalue⟩

/-- Where no divisor is infinite, every part is exposed. -/
theorem Part.exposed {other rank : Rank} {part : Phrase τ other} {e : Phrase τ rank}
    (h : part.Part e) (hdivisors : ¬e.DividesByInfinity) : part.Exposed e := by
  induction h with
  | self => exact .self
  | negation _ ih => exact .negation (ih fun hinner => hdivisors (hinner.of_part (.negation .self)))
  | group _ ih => exact .group (ih fun hinner => hdivisors (hinner.of_part (.group .self)))
  | single _ ih => exact .single (ih fun hinner => hdivisors (hinner.of_part (.single .self)))
  | left _ ih => exact .left (ih fun hinner => hdivisors (hinner.of_part (.left .self)))
  | @right kind left op fits right _ _ ih =>
      refine .right ?_ (ih fun hinner => hdivisors (hinner.of_part (.right trivial .self)))
      rintro rfl negative hvalue
      obtain rfl : Chain.product = kind := fits
      exact hdivisors ⟨left, right, negative, .self, hvalue⟩

theorem Exposed.isZero {rank : Rank} {e : Phrase τ rank} {dividend : Phrase τ (.chain .product)}
    {divisor : Phrase τ .factor} {negative : Bool} (h : (quotient dividend divisor).Exposed e)
    (hdivisor : divisor.value = .ok (.infinite negative)) {x : Binary64} (hx : e.value = .ok x)
    (hfinite : x.isFinite = true) :
    ∃ y, (quotient dividend divisor).value = .ok y ∧ y.isZero = true := by
  obtain ⟨y, hy, hyfinite⟩ := h.isFinite hx hfinite
  refine ⟨y, hy, ?_⟩
  obtain ⟨z, -, hstep⟩ := bind_eq_ok.mp hy
  obtain ⟨_, hvalue, hz⟩ := bind_eq_ok.mp hstep
  obtain rfl := Except.ok.inj (hvalue.symm.trans hdivisor)
  obtain rfl := apply_of_stepValue hz
  exact Binary64.div_infinite (Binary64.isFinite_of_div hyfinite).1 negative

/-- What a result says of the phrase it was worked out for. -/
structure Vouched (e : Phrase τ (.chain .sum)) (result : Binary64) : Prop where
  value : e.value = .ok result
  parts : ∀ {rank : Rank} (part : Phrase τ rank), part.Part e → ∃ y, part.value = .ok y
  exposed : ∀ {rank : Rank} (part : Phrase τ rank), part.Exposed e →
    ∃ y, part.value = .ok y ∧ y.isFinite = true
  vanishing : ∀ dividend divisor negative, (quotient dividend divisor).Exposed e →
    divisor.value = .ok (.infinite negative) →
      ∃ y, (quotient dividend divisor).value = .ok y ∧ y.isZero = true
  all_iff : (∀ {rank : Rank} (part : Phrase τ rank), part.Part e →
    ∃ y, part.value = .ok y ∧ y.isFinite = true) ↔ ¬e.DividesByInfinity
  numerals : ¬e.DividesByInfinity → ∀ text, Token.number text ∈ e.tokens →
    ∃ y, numeral? text = some y ∧ y.isFinite = true

theorem vouched {e : Phrase τ (.chain .sum)} {x : Binary64} (hvalue : e.value = .ok x)
    (hfinite : x.isFinite = true) : e.Vouched x where
  value := hvalue
  parts _ hpart := hpart.value hvalue
  exposed _ hpart := hpart.isFinite hvalue hfinite
  vanishing _ _ _ hpart hdivisor := hpart.isZero hdivisor hvalue hfinite
  all_iff := by
    constructor
    · rintro hall ⟨dividend, divisor, negative, hpart, hvalue⟩
      obtain ⟨y, hy, hyfinite⟩ := hall divisor (.trans (.right trivial .self) hpart)
      rw [hvalue] at hy
      cases hy
      cases hyfinite
    · intro hdivisors _ part hpart
      exact (hpart.exposed hdivisors).isFinite hvalue hfinite
  numerals hdivisors text htext := by
    have hpart := (e.part_of_mem_tokens htext).exposed hdivisors
    obtain ⟨y, hy, hyfinite⟩ := hpart.isFinite hvalue hfinite
    exact ⟨y, value_number.mp hy, hyfinite⟩

end Phrase

theorem value_of_evaluate {e : Phrase τ (.chain .sum)} {budget : Nat} {x : Binary64}
    (h : evaluate e.tokens budget = .ok x) : e.value = .ok x ∧ x.isFinite = true := by
  obtain ⟨hfinite, other, htokens, -, hdepth⟩ := evaluate_eq_ok h
  -- Phrases of the same tokens are equally deep.
  rw [← nesting_tokens other, htokens, nesting_tokens] at hdepth
  rw [evaluate_tokens e hdepth] at h
  obtain ⟨y, hvalue, hresult⟩ := bind_eq_ok.mp h
  obtain ⟨rfl, -⟩ := finiteResult_eq_ok hresult
  exact ⟨hvalue, hfinite⟩

/-- A result vouches for all values on the way to it but those in infinite divisors. Where another
of them is not finite there is no result, and a well-formed expression is refused for just this
or for a division by zero. -/
theorem evaluate_vouches (tokens : List (Token τ)) (budget : Nat) :
    (∀ x, evaluate tokens budget = .ok x → (∃ e : Phrase τ (.chain .sum), e.tokens = tokens) ∧
      ∀ e : Phrase τ (.chain .sum), e.tokens = tokens → e.Vouched x) ∧
    ∀ e : Phrase τ (.chain .sum), e.tokens = tokens → Readable tokens → e.depth ≤ budget →
      ∀ {rank : Rank} (part : Phrase τ rank) y, part.Exposed e → part.value = .ok y →
        y.isFinite = false → evaluate tokens budget = .error .divisionByZero ∨
          ∃ z, z.isFinite = false ∧ evaluate tokens budget = .error (.notFinite z) := by
  constructor
  · intro x h
    obtain ⟨-, e, htokens, -⟩ := evaluate_eq_ok h
    refine ⟨⟨e, htokens⟩, ?_⟩
    rintro e rfl
    obtain ⟨hvalue, hfinite⟩ := value_of_evaluate h
    exact Phrase.vouched hvalue hfinite
  · rintro e rfl hreadable hdepth rank part y hpart hy hinfinite
    rw [evaluate_tokens e hdepth]
    rcases e.value_of_readable hreadable with ⟨z, hz⟩ | herror
    · have hz' : z.isFinite = false := by
        refine Bool.eq_false_iff.mpr fun hfinite => ?_
        obtain ⟨other, hother, hotherfinite⟩ := hpart.isFinite hz hfinite
        rw [hy] at hother
        cases hother
        rw [hinfinite] at hotherfinite
        cases hotherfinite
      refine .inr ⟨z, hz', ?_⟩
      rw [hz, Except.bind, finiteResult, hz']
      rfl
    · exact .inl (by rw [herror]; rfl)

/-- One divided by four hundred nines. -/
def oneByNines : Phrase Text (.chain .sum) :=
  .single (.step (.single (.number ['1'])) .divide rfl (.number (List.replicate 400 '9')))

theorem evaluate_vouches_oneByNines : evaluate oneByNines.tokens = .ok .zero ∧
    oneByNines.DividesByInfinity ∧
      ¬ ∀ {rank : Rank} (part : Phrase Text rank), part.Part oneByNines →
        ∃ y, part.value = .ok y ∧ y.isFinite = true := by
  have hnines : Numeral.read? (List.replicate 400 '9') = some (.infinite false) := by
    decide +kernel
  have hzero : evaluate oneByNines.tokens = .ok .zero := eq_ok_of_toOption (by decide +kernel)
  have hdivides : oneByNines.DividesByInfinity :=
    ⟨_, _, false, .single .self, Phrase.value_number.mpr ((numeral?_text _).trans hnines)⟩
  obtain ⟨hsound, -⟩ := evaluate_vouches oneByNines.tokens nestingBudget
  have hvouched := (hsound .zero hzero).2 oneByNines rfl
  exact ⟨hzero, hdivides, fun hall => hvouched.all_iff.mp hall hdivides⟩

end FieldCalc.Expression
