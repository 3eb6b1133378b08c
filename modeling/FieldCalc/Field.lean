import FieldCalc.Expression.Shape
import FieldCalc.Json.Number
import FieldCalc.Session

/-!
A numeric field of a host. It takes numbers, and typed text that is a plain number or an
expression. A field for whole numbers rounds what it takes.
-/

namespace FieldCalc

structure Field where
  name : String
  places : Nat
  whole : Bool
  value : Binary64
  deriving DecidableEq

namespace Field

def wholeValue (x : Binary64) : Except Fault Binary64 :=
  match x, x.roundToInt? with
  | _, some n => .ok (Binary64.ofInt n)
  | .nan, none => .error .nanToInteger
  | _, none => .error .infinityToInteger

def set (f : Field) (x : Binary64) : Except Fault Field :=
  if f.whole then (wholeValue x).map fun value => { f with value }
  else .ok { f with value := x }

/-- A new field; one for whole numbers has no places. -/
def make (name : String) (value : Json) (places : Int) (whole : Bool) : Except Fault Field := do
  let places ← Display.checkPlaces (if whole then 0 else places)
  let x ← value.toNumber
  set ⟨name, places, whole, .zero⟩ x

/-- The text shown; empty unless the value is above zero. -/
def text (f : Field) : Except Fault Text :=
  if f.value.isPositive then Display.format f.places f.value else .ok []

/-! ## Typed text -/

def cleaned (t : Text) : Text := Text.trim (t.filter (· != ','))

/-- The value of text that looks like an expression, if it is at least zero. -/
def expressionValue? (t : Text) : Option Binary64 :=
  if Expression.looksLikeMath t then (Expression.textValue? t).filter Binary64.isNonneg else none

/-- The value that typed text gives: none typed gives zero, then expressions and plain numbers
give what they are worth unless that is negative. -/
def typedValue? (t : Text) : Option Binary64 :=
  let clean := cleaned t
  if clean.isEmpty then some .zero
  else (expressionValue? clean).or ((Display.plainNumber? clean).filter Binary64.isNonneg)

def submit (f : Field) (t : Text) : Except Fault (Field × Bool) :=
  match typedValue? t with
  | none => .ok (f, false)
  | some value => (f.set value).map (·, true)

def openSession (f : Field) : Except Fault Session := Session.opened f.value f.places

end Field

end FieldCalc
