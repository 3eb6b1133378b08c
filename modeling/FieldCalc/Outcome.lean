import FieldCalc.Action
import FieldCalc.Tape

/-!
What key presses leave behind: the new state, the calculations they add to the tape, the presses
to be felt, and the fault that cut them short, if any. The state is then the one at the fault.
-/

namespace FieldCalc

structure Outcome (σ : Type) where
  state : σ
  steps : List Step
  feedback : List Action
  fault : Option Fault

namespace Outcome

def quiet {σ : Type} (state : σ) : Outcome σ := ⟨state, [], [], none⟩

def refused {σ : Type} (state : σ) (fault : Fault) : Outcome σ := ⟨state, [], [], some fault⟩

def map {σ τ : Type} (f : σ → τ) (o : Outcome σ) : Outcome τ :=
  ⟨f o.state, o.steps, o.feedback, o.fault⟩

/-- Goes on from the state unless a fault has stopped it. -/
def andThen {σ : Type} (o : Outcome σ) (next : σ → Outcome σ) : Outcome σ :=
  match o.fault with
  | some _ => o
  | none =>
      let n := next o.state
      ⟨n.state, o.steps ++ n.steps, o.feedback ++ n.feedback, n.fault⟩

def forEach {σ α : Type} (step : σ → α → Outcome σ) (state : σ) (items : List α) : Outcome σ :=
  items.foldl (fun o item => o.andThen fun s => step s item) (quiet state)

@[simp] theorem forEach_nil {σ α : Type} (step : σ → α → Outcome σ) (state : σ) :
    forEach step state [] = quiet state := rfl

@[simp] theorem andThen_of_fault {σ : Type} {o : Outcome σ} {fault : Fault}
    (h : o.fault = some fault) (next : σ → Outcome σ) : o.andThen next = o := by
  simp [andThen, h]

end Outcome

end FieldCalc
