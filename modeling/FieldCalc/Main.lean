import FieldCalc.Launch

/-!
The command line: it names a launch, and what that launch prints is printed. Without arguments it
is the window with its server.
-/

namespace FieldCalc

def Launch.ofArguments? : List String → Option Launch
  | [] => some .desktop
  | ["server"] => some .server
  | ["web"] => some .explained
  | _ => none

end FieldCalc

open FieldCalc in
def main (arguments : List String) : IO UInt32 := do
  match Launch.ofArguments? arguments with
  | none =>
      IO.eprintln "usage: fieldcalc [server | web]"
      return 2
  | some launch =>
      let record := launch.record ⟨none, Product.endpoint, none, none⟩
      IO.print record.printed
      return UInt32.ofNat (record.exitCode.getD 0)
