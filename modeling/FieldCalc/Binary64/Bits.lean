import FieldCalc.Binary64.Basic
import FieldCalc.Text.Quoted

/-!
The interchange form of a binary64 number: one sign bit, eleven exponent bits and 52 fraction
bits, written as sixteen hexadecimal digits.
-/

namespace FieldCalc.Binary64

/-- The leading binary digit of a significand, which is not stored. -/
def hiddenBit : Nat := 1 <<< 52

def signBits (negative : Bool) : Nat := negative.toNat <<< 63

def ofBits (bits : Nat) : Binary64 :=
  let negative := (bits >>> 63) % 2 == 1
  let exponent := (bits >>> 52) % 2048
  let fraction := bits % hiddenBit
  if exponent = 2047 then
    if fraction = 0 then .infinite negative else .nan
  else if exponent = 0 then ofRatio negative fraction 1
  else ofRatio negative ((hiddenBit + fraction) <<< (exponent - 1)) 1

def magnitudeBits (units : Nat) : Nat :=
  if units < hiddenBit then units
  else
    let spare := spareBits units
    (spare + 1) * hiddenBit + (units >>> spare - hiddenBit)

def toBits : Binary64 → Nat
  | nan => 0x7ff8000000000000
  | infinite negative => signBits negative + 0x7ff0000000000000
  | finite negative units _ => signBits negative + magnitudeBits units

def toHex : Binary64 → Text
  | nan => "nan".toList
  | x => hexDigits 16 x.toBits

def ofHex? (t : Text) : Option Binary64 :=
  if t = "nan".toList then some .nan
  else if t.length = 16 then
    (t.mapM hexValue?).map fun digits => ofBits (digits.foldl (fun n d => 16 * n + d) 0)
  else none

end FieldCalc.Binary64
