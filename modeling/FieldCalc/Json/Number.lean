import FieldCalc.Binary64.Arithmetic
import FieldCalc.Fault

/-!
Numbers from loosely typed values. True and false count as one and zero, an integer must not
overflow, and a string is read as a numeral or integer where texts are allowed.
-/

namespace FieldCalc.Json

def intToFloat (n : Int) : Except Fault Binary64 :=
  let x := Binary64.ofInt n
  if x.isFinite then .ok x else .error .integerTooLarge

/-- The number that a value stands for, texts included. -/
def toNumber : Json → Except Fault Binary64
  | bool value => .ok (Binary64.ofNat value.toNat)
  | int value => intToFloat value
  | float value => .ok value
  | str value =>
      match Numeral.read? value.toText with
      | some x => .ok x
      | none => .error (.notNumeral value)
  | value => .error (.notNumber value)

def toReal : Json → Except Fault Binary64
  | bool value => .ok (Binary64.ofNat value.toNat)
  | int value => intToFloat value
  | float value => .ok value
  | value => .error (.notReal value)

def toAmount (sign : String) : Json → Except Fault Binary64
  | bool value => .ok (Binary64.ofNat value.toNat)
  | int value => intToFloat value
  | float value => .ok value
  | value => .error (.notAmount sign value)

/-- The integer that a value stands for: a number without its fraction, or a text. -/
def toInteger : Json → Except Fault Int
  | bool value => .ok value.toNat
  | int value => .ok value
  | float value =>
      match value, value.truncate? with
      | _, some n => .ok n
      | .nan, none => .error .nanToInteger
      | _, none => .error .infinityToInteger
  | str value =>
      match Numeral.readInteger value.toText with
      | .ok n => .ok n
      | .error .malformed => .error (.notInteger value)
      | .error (.tooLong digits) => .error (.integerTooLong digits)
  | value => .error (.notIntegral value)

end FieldCalc.Json
