import FieldCalc.Outcome

/-!
# Laws of outcomes

Going on is associative, and a quiet outcome is its unit on both sides. Pressing several keys is
therefore one key and then the others.
-/

namespace FieldCalc.Outcome

variable {σ α : Type}

@[simp] theorem quiet_andThen (state : σ) (next : σ → Outcome σ) :
    (quiet state).andThen next = next state := rfl

@[simp] theorem andThen_quiet (o : Outcome σ) : o.andThen quiet = o := by
  obtain ⟨state, steps, feedback, fault⟩ := o
  cases fault <;> simp [andThen, quiet]

theorem andThen_assoc (o : Outcome σ) (first second : σ → Outcome σ) :
    (o.andThen first).andThen second = o.andThen fun s => (first s).andThen second := by
  obtain ⟨state, steps, feedback, fault⟩ := o
  cases fault with
  | some fault => rfl
  | none =>
      simp only [andThen]
      cases hfault : (first state).fault <;> simp [hfault, List.append_assoc]

private theorem foldl_andThen (step : σ → α → Outcome σ) (o : Outcome σ) (items : List α) :
    items.foldl (fun o item => o.andThen fun s => step s item) o =
      o.andThen fun s => forEach step s items := by
  induction items generalizing o with
  | nil => exact (andThen_quiet o).symm
  | cons item rest ih =>
      have hrest : ∀ s, forEach step s (item :: rest) =
          (step s item).andThen fun s => forEach step s rest := fun s => ih _
      rw [List.foldl_cons, ih, andThen_assoc]
      simp only [hrest]

theorem forEach_cons (step : σ → α → Outcome σ) (state : σ) (item : α) (rest : List α) :
    forEach step state (item :: rest) =
      (step state item).andThen fun s => forEach step s rest :=
  foldl_andThen step _ rest

theorem forEach_append (step : σ → α → Outcome σ) (state : σ) (front back : List α) :
    forEach step state (front ++ back) =
      (forEach step state front).andThen fun s => forEach step s back := by
  unfold forEach
  rw [List.foldl_append, foldl_andThen]
  rfl

/-- What every step keeps, a batch of steps keeps, cut short or not. -/
theorem forEach_keeps {step : σ → α → Outcome σ} (keeps : σ → Prop)
    (hstep : ∀ s item, keeps s → keeps (step s item).state) {s : σ} (hs : keeps s)
    (items : List α) : keeps (forEach step s items).state := by
  induction items generalizing s with
  | nil => exact hs
  | cons item rest ih =>
      have hfirst := hstep s item hs
      rw [forEach_cons]
      unfold andThen
      split
      · exact hfirst
      · exact ih hfirst

/-- Steps that raise no fault make a batch that raises none. -/
theorem fault_forEach {step : σ → α → Outcome σ} (keeps : σ → Prop)
    (hstep : ∀ s item, keeps s → keeps (step s item).state ∧ (step s item).fault = none) {s : σ}
    (hs : keeps s) (items : List α) : (forEach step s items).fault = none := by
  induction items generalizing s with
  | nil => rfl
  | cons item rest ih =>
      obtain ⟨hnext, hfault⟩ := hstep s item hs
      rw [forEach_cons]
      unfold andThen
      rw [hfault]
      exact ih hnext

/-! ## Two kinds of states -/

/-- Outcomes that differ in their states alone, which stand in a relation. -/
structure Agrees {τ : Type} (R : σ → τ → Prop) (o : Outcome σ) (o' : Outcome τ) : Prop where
  state : R o.state o'.state
  steps : o.steps = o'.steps
  feedback : o.feedback = o'.feedback
  fault : o.fault = o'.fault

/-- Steps that agree make batches that do. -/
theorem agrees_forEach {τ : Type} {R : σ → τ → Prop} {step : σ → α → Outcome σ}
    {step' : τ → α → Outcome τ} (hstep : ∀ s t item, R s t → Agrees R (step s item) (step' t item))
    {s : σ} {t : τ} (h : R s t) (items : List α) :
    Agrees R (forEach step s items) (forEach step' t items) := by
  induction items generalizing s t with
  | nil => exact ⟨h, rfl, rfl, rfl⟩
  | cons item rest ih =>
      have hfirst := hstep s t item h
      rw [forEach_cons, forEach_cons, andThen, andThen, ← hfirst.fault]
      cases (step s item).fault with
      | some fault => exact hfirst
      | none =>
          have hrest := ih hfirst.state
          exact ⟨hrest.state, by simp only [hfirst.steps, hrest.steps],
            by simp only [hfirst.feedback, hrest.feedback], hrest.fault⟩

/-! ## Ending without a fault -/

def Ends (o : Outcome σ) (state : σ) : Prop := o.state = state ∧ o.fault = none

theorem ends_quiet (state : σ) : (quiet state).Ends state := ⟨rfl, rfl⟩

/-- Ending without a fault and without a calculation. -/
def Silent (o : Outcome σ) (state : σ) : Prop := ∃ feedback, o = ⟨state, [], feedback, none⟩

theorem Silent.ends {o : Outcome σ} {state : σ} (h : o.Silent state) : o.Ends state := by
  obtain ⟨feedback, rfl⟩ := h
  exact ⟨rfl, rfl⟩

theorem Ends.forEach_cons {step : σ → α → Outcome σ} {s next last : σ} {item : α} {rest : List α}
    (hfirst : (step s item).Ends next) (hrest : (forEach step next rest).Ends last) :
    (forEach step s (item :: rest)).Ends last := by
  obtain ⟨rfl, hfault⟩ := hfirst
  rw [Outcome.forEach_cons, andThen, hfault]
  exact hrest

end FieldCalc.Outcome
