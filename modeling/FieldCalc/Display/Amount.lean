import FieldCalc.Display
import FieldCalc.Json.Number

/-!
Loosely typed amounts on a display. Null shows nothing and commits zero. An integer is whole
already, so what is committed of one above zero is the integer itself.
-/

namespace FieldCalc.Display

def formatAmount (places : Nat) : Json → Except Fault Json
  | .null => .ok .null
  | amount => do return .ofText (← format places (← amount.toReal))

def commitAmount (places : Nat) : Json → Except Fault Json
  | .null => .ok (.float .zero)
  | .int n => do
      let _ ← Json.intToFloat n
      return if 0 < n then .int n else .float .zero
  | amount => do return .float (commit places (← amount.toReal))

end FieldCalc.Display
