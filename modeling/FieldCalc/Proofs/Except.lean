/-!
# Laws of results

A result is a value or an error. What led to either is told by taking the steps of a calculation
apart, one law for each way to go on.
-/

namespace FieldCalc

variable {ε α β : Type} {x : Except ε α}

theorem bind_eq_ok {f : α → Except ε β} {z : β} :
    x.bind f = .ok z ↔ ∃ y, x = .ok y ∧ f y = .ok z := by
  cases x <;> simp [Except.bind]

theorem bind_eq_error {f : α → Except ε β} {e : ε} :
    x.bind f = .error e ↔ x = .error e ∨ ∃ y, x = .ok y ∧ f y = .error e := by
  cases x <;> simp [Except.bind]

theorem map_eq_ok {f : α → β} {z : β} : x.map f = .ok z ↔ ∃ y, x = .ok y ∧ f y = z := by
  cases x <;> simp [Except.map]

theorem eq_ok_of_toOption {y : α} (h : x.toOption = some y) : x = .ok y := by
  cases x with
  | ok => exact congrArg Except.ok (Option.some.inj h)
  | error => cases h

/-- Items are all taken just if each of them is. -/
theorem exists_mapM_eq_ok {f : α → Except ε β} {items : List α} :
    (∃ results, items.mapM f = .ok results) ↔ ∀ item ∈ items, ∃ result, f item = .ok result := by
  induction items with
  | nil => exact iff_of_true ⟨[], rfl⟩ nofun
  | cons item rest ih =>
      rw [List.forall_mem_cons, ← ih, List.mapM_cons]
      cases f item with
      | error fault => simp [bind, Except.bind]
      | ok result =>
          cases rest.mapM f <;> simp [bind, Except.bind, pure, Except.pure]

end FieldCalc
