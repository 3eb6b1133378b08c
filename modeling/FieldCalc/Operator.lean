import FieldCalc.Binary64.Arithmetic
import FieldCalc.Text.Basic

/-!
The four binary operators, their symbols, and the glyphs that a keypad shows for them.
-/

namespace FieldCalc

inductive Operator where
  | plus
  | minus
  | times
  | divide
  deriving DecidableEq, Repr

namespace Operator

def symbol : Operator → Char
  | plus => '+'
  | minus => '-'
  | times => '*'
  | divide => '/'

def text (op : Operator) : Text := [op.symbol]

def ofChar? : Char → Option Operator
  | '+' => some plus
  | '-' => some minus
  | '*' => some times
  | '/' => some divide
  | _ => none

@[simp] theorem ofChar?_symbol (op : Operator) : ofChar? op.symbol = some op := by
  cases op <;> rfl

theorem symbol_of_ofChar? {c : Char} {op : Operator} (h : ofChar? c = some op) : op.symbol = c := by
  unfold ofChar? at h
  split at h <;> simp at h <;> subst h <;> rfl

def ofText? : Text → Option Operator
  | [c] => ofChar? c
  | _ => none

@[simp] theorem ofText?_text (op : Operator) : ofText? op.text = some op := ofChar?_symbol op

/-- The ASCII symbol for a keypad glyph; another character stays as it is. -/
def plainGlyph : Char → Char
  | '×' => '*'
  | '÷' => '/'
  | '−' => '-'
  | c => c

def ofGlyph? : Text → Option Operator
  | [c] => ofChar? (plainGlyph c)
  | _ => none

/-- The result of the operator; a divisor is to be checked for zero before. -/
def apply : Operator → Binary64 → Binary64 → Binary64
  | plus => Binary64.add
  | minus => Binary64.sub
  | times => Binary64.mul
  | divide => Binary64.div

end Operator

end FieldCalc
