import FieldCalc.Calculator
import FieldCalc.Proofs.Buffer.Lists

/-!
# What keys do to the list of a buffer

Each key looks at the buffer and then makes some changes to it, in an order. What they come to is
the buffer that the key leads to.
-/

namespace FieldCalc

open Token

namespace Buffer

def contents (b : Buffer) : Contents := ⟨b.tokens, b.waiting, b.pending, b.error⟩

end Buffer

def Contents.buffer (s : Contents) : Buffer :=
  ⟨s.tokens.dropLast, s.tokens.getLastD zero, s.waiting, s.pending, s.error⟩

namespace Buffer

theorem dropLast_tokens (b : Buffer) : b.tokens.dropLast = b.before := List.dropLast_concat

@[simp] theorem buffer_contents (b : Buffer) : b.contents.buffer = b := by
  simp [Contents.buffer, contents, tokens]

/-! ## The changes of each key -/

def loadChanges (text : Text) : List Change := [.assign [.number text], .setError false]

def clearChanges : List Change :=
  [.assign [zero], .setWaiting false, .setPending none, .setError false]

def errorChanges : List Change := [.setError true, .setPending none, .setWaiting true]

variable (b : Buffer)

def digitChanges (digits : Text) : List Change :=
  (if b.isZero then loadChanges digits
  else match b.last with
    | .number text => [.replaceLast (.number (text ++ digits))]
    | _ => [.extend [.number digits]]) ++ [.setWaiting false]

def pointChanges : List Change :=
  (if b.isZero then loadChanges "0.".toList
  else match b.last with
    | .number text => if text.contains '.' then [] else [.replaceLast (.number (text ++ ['.']))]
    | .closeParen _ => []
    | _ => [.extend [.number "0.".toList]]) ++ [.setWaiting false]

def operatorChanges (op : Operator) : List Change :=
  (if b.isZero then []
  else (match b.last with
    | .operator _ => [.replaceLast (ofOperator op)]
    | _ => [.extend [ofOperator op]]) ++ [.setPending (some op)]) ++ [.setWaiting false]

def openChanges : List Change :=
  if b.isZero then [.assign [opening], .setWaiting false]
  else match b.last with
    | .number _ => [.extend [ofOperator .times, opening], .setWaiting false]
    | .closeParen _ => []
    | _ => [.extend [opening], .setWaiting false]

def closeChanges : List Change :=
  if b.closeCount < b.openCount && (b.last.isNumber || b.last.isClose) then
    [.extend [closing], .setWaiting false]
  else []

def backspaceChanges : List Change :=
  if b.error then clearChanges
  else match b.last with
    | .number text =>
        if text.dropLast = [] ∨ text.dropLast = ['-'] then [.pop]
        else [.replaceLast (.number text.dropLast)]
    | _ => [.pop]

def signChanges : List Change :=
  match b.last with
  | .number text => [.replaceLast (.number (flipSign text))]
  | _ => []

/-- A number is typed one character after the other, each into what the one before has left. -/
def numberChanges : Buffer → Text → List Change
  | _, [] => []
  | b, c :: rest =>
      let first := if c = '.' then b.pointChanges else b.digitChanges [c]
      first ++ numberChanges (b.contents.applyAll first).buffer rest

def recallChanges (text : Text) : List Change :=
  (if b.isZero then loadChanges text
  else match b.last, text with
    | .operator _, _ => [.extend [.number text]]
    | .openParen _, _ => [.extend [.number text]]
    | _, '-' :: rest => [.extend [ofOperator .minus, .number rest]]
    | _, _ => b.numberChanges text) ++ [.setWaiting false]

end Buffer

namespace Calculator

variable (c : Calculator)

def percentChanges : List Change :=
  match c.buffer.last with
  | .number text =>
      match Numeral.read? text with
      | none => []
      | some value =>
          let hundredth := value.div (Binary64.ofNat 100)
          if hundredth.isFinite then
            match Display.format c.places hundredth with
            | .error _ => []
            | .ok shown => [.replaceLast (.number shown)]
          else Buffer.errorChanges
  | _ => []

def equalsChanges : List Change :=
  if c.buffer.error || !c.buffer.hasOperator then []
  else match Expression.evaluate c.buffer.tokens with
    | .error _ => Buffer.errorChanges
    | .ok value =>
        match Display.format c.places value with
        | .error _ => []
        | .ok text => Buffer.loadChanges text ++ [.setPending none, .setWaiting true]

def memoryRecallChanges : List Change :=
  if c.memory.value.isFinite then
    match Display.format c.places c.memory.value with
    | .error _ => []
    | .ok text => c.buffer.recallChanges text
  else []

def changes : Action → List Change
  | .digit d => c.buffer.digitChanges (Action.digitText d)
  | .point => c.buffer.pointChanges
  | .operator op => c.buffer.operatorChanges op
  | .openParen => c.buffer.openChanges
  | .closeParen => c.buffer.closeChanges
  | .backspace => c.buffer.backspaceChanges
  | .allClear => Buffer.clearChanges
  | .toggleSign => c.buffer.signChanges
  | .percent => c.percentChanges
  | .equals => c.equalsChanges
  | .memoryRecall => c.memoryRecallChanges
  | .memoryAdd | .memorySubtract | .memoryClear => []

/-- The changes that a key press makes to the buffer. -/
def pressChanges (action : Action) : List Change :=
  if c.buffer.error && !action.worksOnError then [] else c.changes action

end Calculator

/-! ## What the changes come to -/

namespace Buffer

variable {b : Buffer}

theorem contents_replaceLast (b : Buffer) (token : Token) :
    (b.replaceLast token).contents = b.contents.apply (.replaceLast token) := by
  refine congrArg (Contents.mk · _ _ _) ?_
  rw [tokens_replaceLast, ← dropLast_tokens]
  rfl

theorem contents_append (b : Buffer) (tokens : List Token) :
    (b.append tokens).contents = b.contents.apply (.extend tokens) := by
  induction tokens generalizing b with
  | nil => exact congrArg (Contents.mk · _ _ _) (List.append_nil b.tokens).symm
  | cons token rest ih =>
      refine (ih (b.push token)).trans ?_
      exact congrArg (Contents.mk · _ _ _) (List.append_assoc b.tokens [token] rest)

theorem contents_pop (b : Buffer) : b.pop.contents = b.contents.apply .pop := by
  have hflags : b.pop.contents = { b.contents with tokens := b.pop.tokens } := by
    unfold pop
    split <;> rfl
  rw [hflags, tokens_pop, ← dropLast_tokens]
  rfl

theorem contents_entered {edited : Buffer} {changes : List Change}
    (h : edited.contents = b.contents.applyAll changes) :
    Buffer.contents { edited with waiting := false } =
      b.contents.applyAll (changes ++ [.setWaiting false]) := by
  rw [Contents.applyAll_append, ← h]
  rfl

theorem contents_typeDigits (b : Buffer) (digits : Text) :
    (b.typeDigits digits).contents = b.contents.applyAll (b.digitChanges digits) := by
  refine contents_entered ?_
  split
  · rfl
  · cases b.last with
    | number text => exact contents_replaceLast b _
    | operator _ | openParen _ | closeParen _ => rfl

theorem contents_typePoint (b : Buffer) :
    b.typePoint.contents = b.contents.applyAll b.pointChanges := by
  refine contents_entered ?_
  split
  · rfl
  · cases b.last with
    | number text =>
        simp only
        split
        · rfl
        · exact contents_replaceLast b _
    | operator _ | openParen _ | closeParen _ => rfl

theorem contents_typeOperator (b : Buffer) (op : Operator) :
    (b.typeOperator op).contents = b.contents.applyAll (b.operatorChanges op) := by
  refine contents_entered ?_
  split
  · rfl
  · cases b.last with
    | operator text =>
        exact congrArg (·.apply (.setPending (some op))) (contents_replaceLast b _)
    | number _ | openParen _ | closeParen _ => rfl

theorem contents_typeOpen (b : Buffer) :
    b.typeOpen.contents = b.contents.applyAll b.openChanges := by
  unfold typeOpen openChanges
  split
  · rfl
  · cases b.last with
    | number text => exact congrArg (·.apply (.setWaiting false)) (contents_append b _)
    | operator _ | openParen _ | closeParen _ => rfl

theorem contents_typeClose (b : Buffer) :
    b.typeClose.contents = b.contents.applyAll b.closeChanges := by
  unfold typeClose closeChanges
  split <;> rfl

theorem contents_backspace (b : Buffer) :
    b.backspace.contents = b.contents.applyAll b.backspaceChanges := by
  unfold backspace backspaceChanges
  split
  · rfl
  · cases b.last with
    | number text =>
        simp only
        split
        · exact contents_pop b
        · exact contents_replaceLast b _
    | operator _ | openParen _ | closeParen _ => exact contents_pop b

theorem contents_toggleSign (b : Buffer) :
    b.toggleSign.contents = b.contents.applyAll b.signChanges := by
  unfold toggleSign signChanges
  cases b.last with
  | number text => exact contents_replaceLast b _
  | operator _ | openParen _ | closeParen _ => rfl

theorem contents_typeNumber (b : Buffer) (text : Text) :
    (b.typeNumber text).contents = b.contents.applyAll (b.numberChanges text) := by
  induction text generalizing b with
  | nil => rfl
  | cons c rest ih =>
      have hfirst : b.contents.applyAll (if c = '.' then b.pointChanges else b.digitChanges [c]) =
          (if c = '.' then b.typePoint else b.typeDigits [c]).contents := by
        split
        · exact (contents_typePoint b).symm
        · exact (contents_typeDigits b [c]).symm
      rw [numberChanges, Contents.applyAll_append, hfirst, buffer_contents, ← ih]
      rfl

theorem contents_typeRecalled (b : Buffer) (text : Text) :
    (b.typeRecalled text).contents = b.contents.applyAll (b.recallChanges text) := by
  refine contents_entered ?_
  split
  · rfl
  · cases b.last with
    | operator _ | openParen _ => rfl
    | number _ | closeParen _ =>
        by_cases hsign : ∃ rest, text = '-' :: rest
        · obtain ⟨rest, rfl⟩ := hsign
          exact contents_append b _
        · have hplain : ∀ rest, text = '-' :: rest → False :=
            fun rest htext => hsign ⟨rest, htext⟩
          simp only
          exact contents_typeNumber b text

end Buffer

namespace Calculator

theorem contents_percent (c : Calculator) :
    c.percent.state.buffer.contents = c.buffer.contents.applyAll c.percentChanges := by
  unfold percent percentChanges
  cases c.buffer.last with
  | number text =>
      simp only
      cases Numeral.read? text with
      | none => rfl
      | some value =>
          simp only
          split
          · cases Display.format c.places (value.div (Binary64.ofNat 100)) with
            | error fault => rfl
            | ok shown => exact Buffer.contents_replaceLast _ _
          · rfl
  | operator _ | openParen _ | closeParen _ => rfl

theorem contents_evaluate (c : Calculator) :
    c.evaluate.state.buffer.contents = c.buffer.contents.applyAll c.equalsChanges := by
  unfold evaluate equalsChanges
  split
  · rfl
  · cases Expression.evaluate c.buffer.tokens with
    | error e => rfl
    | ok value =>
        simp only
        cases Display.format c.places value <;> rfl

theorem contents_memoryRecall (c : Calculator) :
    c.memoryRecall.state.buffer.contents = c.buffer.contents.applyAll c.memoryRecallChanges := by
  unfold memoryRecall memoryRecallChanges
  split
  · cases Display.format c.places c.memory.value with
    | error fault => rfl
    | ok text => exact Buffer.contents_typeRecalled _ _
  · rfl

theorem contents_perform (c : Calculator) (action : Action) :
    (c.perform action).state.buffer.contents = c.buffer.contents.applyAll (c.changes action) := by
  cases action with
  | digit d => exact Buffer.contents_typeDigits _ _
  | point => exact Buffer.contents_typePoint _
  | operator op => exact Buffer.contents_typeOperator _ _
  | openParen => exact Buffer.contents_typeOpen _
  | closeParen => exact Buffer.contents_typeClose _
  | backspace => exact Buffer.contents_backspace _
  | toggleSign => exact Buffer.contents_toggleSign _
  | percent => exact contents_percent c
  | equals => exact contents_evaluate c
  | memoryRecall => exact contents_memoryRecall c
  | allClear | memoryAdd | memorySubtract | memoryClear => rfl

/-- The changes of a key press lead to the buffer that it leads to. -/
theorem contents_press (c : Calculator) (action : Action) :
    (c.press action).state.buffer.contents =
      c.buffer.contents.applyAll (c.pressChanges action) := by
  unfold press pressChanges
  split
  · rfl
  · simp only
    split <;> exact contents_perform c action

end Calculator

end FieldCalc
