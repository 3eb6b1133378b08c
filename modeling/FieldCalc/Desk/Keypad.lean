import FieldCalc.Desk.Palette

/-!
The buttons of the calculator popup: what they show, which key they press, and how they are
coloured.
-/

namespace FieldCalc

inductive ButtonKind where
  | normal
  | operator
  | special
  | equals
  | memory
  | danger
  deriving DecidableEq, Repr

namespace ButtonKind

def colours (p : Palette) : ButtonKind → String × String × String
  | normal => (p.buttonBackground, p.buttonForeground, p.backgroundDark)
  | operator => (p.buttonBackground, p.operatorForeground, p.backgroundDark)
  | special => (p.buttonBackground, p.specialForeground, p.backgroundDark)
  | equals => (p.equalsBackground, p.equalsForeground, p.success)
  | memory => (p.backgroundDark, p.memoryForeground, p.shadowDark)
  | danger => (p.danger, "#FFFFFF", p.backgroundDark)

end ButtonKind

structure KeyButton where
  label : String
  key : String
  kind : ButtonKind
  deriving DecidableEq, Repr

namespace Keypad

def digitRow (a b c : String) (op : KeyButton) (side : String) : List KeyButton :=
  [⟨a, a, .normal⟩, ⟨b, b, .normal⟩, ⟨c, c, .normal⟩, op, ⟨side, side, .special⟩]

def rows : List (List KeyButton) := [
  digitRow "7" "8" "9" ⟨"÷", "/", .operator⟩ "(",
  digitRow "4" "5" "6" ⟨"×", "*", .operator⟩ ")",
  digitRow "1" "2" "3" ⟨"−", "-", .operator⟩ "%",
  [⟨"0", "0", .normal⟩, ⟨".", ".", .normal⟩, ⟨"=", "=", .equals⟩, ⟨"+", "+", .operator⟩,
   ⟨"±", "±", .special⟩]]

def bar : List KeyButton := [
  ⟨"M+", "M+", .memory⟩, ⟨"M-", "M-", .memory⟩, ⟨"MR", "MR", .memory⟩, ⟨"MC", "MC", .memory⟩,
  ⟨"AC", "AC", .danger⟩, ⟨"⌫", "⌫", .memory⟩]

def keyOf? (label : String) : Option String :=
  ((bar ++ rows.flatten).find? (·.label == label)).map (·.key)

end Keypad

end FieldCalc
