import FieldCalc.Fault
import FieldCalc.Operator
import FieldCalc.Text.Digit

/-!
The actions of a calculator: a closed set of key presses. Button labels and the names of keyboard
keys give actions.
-/

namespace FieldCalc

inductive Action where
  | digit (d : Fin 10)
  | point
  | operator (op : Operator)
  | openParen
  | closeParen
  | backspace
  | allClear
  | toggleSign
  | percent
  | equals
  | memoryAdd
  | memorySubtract
  | memoryRecall
  | memoryClear
  deriving DecidableEq, Repr

namespace Action

def digitText (d : Fin 10) : Text := [digitChar d.val]

def kindName : Action → String
  | digit _ => "digit"
  | point => "decimal_point"
  | operator _ => "operator"
  | openParen => "open_paren"
  | closeParen => "close_paren"
  | backspace => "backspace"
  | allClear => "all_clear"
  | toggleSign => "toggle_sign"
  | percent => "percent"
  | equals => "equals"
  | memoryAdd => "memory_add"
  | memorySubtract => "memory_subtract"
  | memoryRecall => "memory_recall"
  | memoryClear => "memory_clear"

def value? : Action → Option Text
  | digit d => some (digitText d)
  | operator op => some op.text
  | _ => none

def wantsFeedback : Action → Bool
  | operator _ | openParen | closeParen | toggleSign | percent => true
  | memoryAdd | memorySubtract | memoryRecall | memoryClear => true
  | _ => false

def worksOnError : Action → Bool
  | backspace | allClear | memoryAdd | memorySubtract | memoryClear => true
  | _ => false

/-! ## From kinds and values -/

def digitOfText? : Text → Option (Fin 10)
  | [c] => if isAsciiDigit c then some (Fin.ofNat 10 (c.toNat - 48)) else none
  | _ => none

def plain? : String → Option Action
  | "decimal_point" => some point
  | "open_paren" => some openParen
  | "close_paren" => some closeParen
  | "backspace" => some backspace
  | "all_clear" => some allClear
  | "toggle_sign" => some toggleSign
  | "percent" => some percent
  | "equals" => some equals
  | "memory_add" => some memoryAdd
  | "memory_subtract" => some memorySubtract
  | "memory_recall" => some memoryRecall
  | "memory_clear" => some memoryClear
  | _ => none

def operatorOf (value : Json) : Except Fault Operator :=
  match value with
  | .str s =>
      match Operator.ofGlyph? s.toText with
      | some op => .ok op
      | none => .error (.unknownOperator value)
  | _ => .error (.unknownOperator value)

def ofKind (kind : String) (value : Json) : Except Fault Action :=
  if kind = "digit" then
    match value with
    | .str s =>
        match digitOfText? s.toText with
        | some d => .ok (digit d)
        | none => .error (.notOneDigit value)
    | _ => .error (.notOneDigit value)
  else if kind = "operator" then (operatorOf value).map operator
  else match plain? kind, value with
    | some action, .null => .ok action
    | some _, _ => .error (.takesNoValue kind)
    | none, _ => .error (.unknownActionKind kind)

/-! ## From keys -/

def ofKey? : String → Option Action
  | "0" => some (digit 0)
  | "1" => some (digit 1)
  | "2" => some (digit 2)
  | "3" => some (digit 3)
  | "4" => some (digit 4)
  | "5" => some (digit 5)
  | "6" => some (digit 6)
  | "7" => some (digit 7)
  | "8" => some (digit 8)
  | "9" => some (digit 9)
  | "+" | "plus" => some (operator .plus)
  | "-" | "−" | "minus" => some (operator .minus)
  | "*" | "×" | "asterisk" => some (operator .times)
  | "/" | "÷" | "slash" => some (operator .divide)
  | "." | "period" => some point
  | "(" => some openParen
  | ")" => some closeParen
  | "⌫" | "BackSpace" | "CE" => some backspace
  | "AC" | "C" | "Escape" => some allClear
  | "±" | "+/-" => some toggleSign
  | "%" => some percent
  | "=" | "Return" | "\r" | "\n" => some equals
  | "M+" => some memoryAdd
  | "M-" => some memorySubtract
  | "MR" => some memoryRecall
  | "MC" => some memoryClear
  | _ => none

def ofKey (key : LooseText) : Except Fault Action :=
  match ofKey? key.toString with
  | some action => .ok action
  | none => .error (.unknownKey key)

/-- The actions of several keys; the first unknown one refuses them all. -/
def ofKeys (keys : List LooseText) : Except Fault (List Action) := keys.mapM ofKey

end Action

end FieldCalc
