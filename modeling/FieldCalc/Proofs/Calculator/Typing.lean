import FieldCalc.Proofs.Buffer.Typing
import FieldCalc.Proofs.Calculator.Reached
import FieldCalc.Proofs.Outcome

/-!
# The reached token lists

The token lists of the states that key presses lead to are the ones that can be typed, and all of
them: a fresh calculator is brought to each by keys that do nothing but edit.
-/

namespace FieldCalc

namespace Calculator

theorem silent_press {c next : Calculator} {action : Action}
    (works : c.buffer.error = false ∨ action.worksOnError = true)
    (h : c.perform action = .quiet next) : (c.press action).Silent next :=
  ⟨_, press_quiet works h⟩

theorem press_edit {c : Calculator} {action : Action} (ready : c.buffer.error = false)
    (edits : action.isEdit = true) : (c.press action).Silent (c.edit (·.edited action)) := by
  refine silent_press (.inl ready) ?_
  cases action with
  | digit _ | point | operator _ | openParen | closeParen | backspace | allClear | toggleSign =>
      rfl
  | percent | equals | memoryAdd | memorySubtract | memoryRecall | memoryClear => cases edits

theorem pressAll_edits {c : Calculator} {actions : List Action} (ready : c.buffer.error = false)
    (edits : ∀ action ∈ actions, action.isEdit = true) :
    (c.pressAll actions).Silent (c.edit (·.editedBy actions)) := by
  induction actions generalizing c with
  | nil => exact ⟨[], rfl⟩
  | cons action rest ih =>
      obtain ⟨first, hfirst⟩ := press_edit ready (edits action List.mem_cons_self)
      have hready : (c.edit (·.edited action)).buffer.error = false :=
        Buffer.error_edited ready action
      obtain ⟨others, hrest⟩ := ih hready fun a ha => edits a (List.mem_cons_of_mem action ha)
      refine ⟨first ++ others, ?_⟩
      unfold pressAll at hrest ⊢
      rw [Outcome.forEach_cons, hfirst]
      simp only [Outcome.andThen, hrest, List.nil_append]
      rfl

end Calculator

/-- Key presses lead to token lists that can be typed, faults and error displays on the way
included, and to every such list without a fault from a fresh calculator. -/
theorem reached_tokens_exact :
    (∀ (c : Calculator) (tape : Tape), Reached c tape → Typable c.buffer.tokens) ∧
      ∀ (places : Nat) (tokens : List Token), Typable tokens →
        ∃ keys actions, Action.ofKeys keys = .ok actions ∧
          ((Calculator.fresh places).pressAll actions).fault = none ∧
          ((Calculator.fresh places).pressAll actions).state.buffer.error = false ∧
          ((Calculator.fresh places).pressAll actions).state.buffer.tokens = tokens := by
  constructor
  · intro c tape hreached
    exact hreached.typable
  · intro places tokens htyped
    obtain ⟨before, last, rfl⟩ : ∃ before last, tokens = before ++ [last] := by
      rcases List.eq_nil_or_concat' tokens with rfl | h
      · exact absurd rfl htyped.nonempty
      · exact h
    obtain ⟨feedback, hpressed⟩ :=
      Calculator.pressAll_edits (c := Calculator.fresh places) rfl
        (Action.isEdit_forTokens (before ++ [last]))
    have hends := Buffer.editedBy_forTokens htyped
    refine ⟨_, _, Action.ofKeys_labels (Action.forTokens (before ++ [last])), ?_⟩
    rw [hpressed]
    exact ⟨rfl, hends.error, hends.tokens⟩

/-- After a division by zero, a negative number in parentheses and an unfinished decimal. -/
theorem reached_tokens_exact_group :
    let tokens : List Token := [.opening, .ofOperator .minus, .number "3".toList, .closing,
      .ofOperator .times, .number "2.".toList]
    (∃ (c : Calculator) (tape : Tape), Reached c tape ∧ tape.length = 0 ∧
      c.buffer.tokens = tokens) ∧ Typable tokens ∧
      ∃ keys actions, Action.ofKeys keys = .ok actions ∧
        ((Calculator.fresh 0).pressAll actions).fault = none ∧
        ((Calculator.fresh 0).pressAll actions).state.buffer.tokens = tokens := by
  intro tokens
  have failed := ((((Reached.fresh 2).press (.digit 5)).press (.operator .divide)).press
    (.digit 0)).press .equals
  have typed := (((((((failed.press .allClear).press .openParen).press (.operator .minus)).press
    (.digit 3)).press .closeParen).press (.operator .times)).press (.digit 2)).press .point
  have htyped : Typable tokens := reached_tokens_exact.1 _ _ typed
  obtain ⟨keys, actions, hknown, hfault, -, htokens⟩ := reached_tokens_exact.2 0 tokens htyped
  exact ⟨⟨_, _, typed, by decide +kernel, by decide +kernel⟩, htyped, keys, actions, hknown,
    hfault, htokens⟩

end FieldCalc
