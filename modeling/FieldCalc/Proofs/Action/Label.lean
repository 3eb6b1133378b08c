import FieldCalc.Action

/-!
# Keys for actions

Every action has a key, so what the actions of a calculator do is what its keys do.
-/

namespace FieldCalc.Action

def label : Action → String
  | digit d => String.ofList (digitText d)
  | operator op => String.ofList op.text
  | point => "."
  | openParen => "("
  | closeParen => ")"
  | backspace => "BackSpace"
  | allClear => "AC"
  | toggleSign => "+/-"
  | percent => "%"
  | equals => "="
  | memoryAdd => "M+"
  | memorySubtract => "M-"
  | memoryRecall => "MR"
  | memoryClear => "MC"

theorem ofKey?_label (action : Action) : ofKey? action.label = some action := by
  cases action with
  | digit d =>
      revert d
      decide
  | operator op => cases op <;> rfl
  | _ => rfl

theorem ofKey_label (action : Action) :
    ofKey (LooseText.ofString action.label) = .ok action := by
  simp [ofKey, ofKey?_label]

theorem ofKeys_labels (actions : List Action) :
    ofKeys (actions.map fun action => LooseText.ofString action.label) = .ok actions := by
  induction actions with
  | nil => rfl
  | cons action rest ih =>
      unfold ofKeys at ih ⊢
      rw [List.map_cons, List.mapM_cons, ofKey_label, ih]
      rfl

end FieldCalc.Action
