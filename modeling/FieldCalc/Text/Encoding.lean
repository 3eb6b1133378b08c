import FieldCalc.Text.CodePoint

/-!
Texts as bytes. In UTF-8, bytes that are no character are read as the replacement character. In
UTF-16 and UTF-32 every unit counts, so that surrogates may come out of the bytes, but no unit
may be cut short. Which of the encodings a JSON text has shows in its first bytes, since it
starts with an ASCII character.
-/

namespace FieldCalc

/-! ## UTF-8 -/

def leadByte? (b : Nat) : Option (Nat × Nat × Nat × Nat) :=
  if 0xc2 ≤ b ∧ b ≤ 0xdf then some (1, b - 0xc0, 0x80, 0xbf)
  else if b = 0xe0 then some (2, 0, 0xa0, 0xbf)
  else if b = 0xed then some (2, 0xd, 0x80, 0x9f)
  else if 0xe1 ≤ b ∧ b ≤ 0xef then some (2, b - 0xe0, 0x80, 0xbf)
  else if b = 0xf0 then some (3, 0, 0x90, 0xbf)
  else if 0xf1 ≤ b ∧ b ≤ 0xf3 then some (3, b - 0xf0, 0x80, 0xbf)
  else if b = 0xf4 then some (3, 4, 0x80, 0x8f)
  else none

/-- Decodes bytes as UTF-8. Of a character that has begun, `taken` are the bytes so far and
`bits` their value; `expected` bytes are missing, the next of them from `low` to `high`. The
longest start of a character that breaks off is read by `broken`, as is a byte that starts none. -/
def decodeUtf8With (broken : List UInt8 → Text) (taken : List UInt8)
    (expected bits low high : Nat) : List UInt8 → Text
  | [] => if expected = 0 then [] else broken taken
  | byte :: rest =>
      let b := byte.toNat
      if 0 < expected ∧ low ≤ b ∧ b ≤ high then
        let value := bits * 64 + (b - 0x80)
        if expected = 1 then Char.ofNat value :: decodeUtf8With broken [] 0 0 0 0 rest
        else decodeUtf8With broken (taken ++ [byte]) (expected - 1) value 0x80 0xbf rest
      else
        let start : Text := if expected = 0 then [] else broken taken
        start ++
          if b < 0x80 then Char.ofNat b :: decodeUtf8With broken [] 0 0 0 0 rest
          else match leadByte? b with
            | some (count, value, first, last) =>
                decodeUtf8With broken [byte] count value first last rest
            | none => broken [byte] ++ decodeUtf8With broken [] 0 0 0 0 rest

def decodeUtf8 (bytes : List UInt8) : Text :=
  decodeUtf8With (fun _ => ['\ufffd']) [] 0 0 0 0 bytes

/-! ## Wider units -/

inductive ByteOrder where
  | big
  | little
  deriving DecidableEq, Repr

def ByteOrder.join (order : ByteOrder) (a b : Nat) : Nat :=
  match order with
  | .big => a * 0x100 + b
  | .little => b * 0x100 + a

def ByteOrder.joinWide (order : ByteOrder) (a b : Nat) : Nat :=
  match order with
  | .big => a * 0x10000 + b
  | .little => b * 0x10000 + a

def units16? (order : ByteOrder) : List UInt8 → Option (List Nat)
  | [] => some []
  | [_] => none
  | a :: b :: rest => (units16? order rest).map (order.join a.toNat b.toNat :: ·)

def units32? (order : ByteOrder) : List Nat → Option (List Nat)
  | [] => some []
  | [_] => none
  | a :: b :: rest => (units32? order rest).map (order.joinWide a b :: ·)

/-- The code points of units of two bytes. A surrogate that is no half of a pair stays. -/
def joinPairs : List Nat → List CodePoint
  | [] => []
  | [unit] => [.ofNat unit]
  | high :: low :: rest =>
      if CodePoint.isHigh high && CodePoint.isLow low then .ofPair high low :: joinPairs rest
      else .ofNat high :: joinPairs (low :: rest)

def decodeUtf16? (order : ByteOrder) (bytes : List UInt8) : Option LooseText :=
  (units16? order bytes).map fun units => ⟨joinPairs units⟩

def decodeUtf32? (order : ByteOrder) (bytes : List UInt8) : Option LooseText := do
  let units ← units32? order (← units16? order bytes)
  if units.all (· < 0x110000) then some ⟨units.map .ofNat⟩ else none

/-! ## JSON texts -/

def dropByteOrderMark : Text → Text
  | '\ufeff' :: rest => rest
  | t => t

/-- The JSON text that the bytes of a string are. They are UTF-8 unless zeros among the first
four, or in all of two, show that the units are wider. -/
def decodeJson? (s : String) : Option LooseText :=
  let bytes := s.toUTF8.data.toList
  match bytes with
  | [0, _] => decodeUtf16? .big bytes
  | [_, 0] => decodeUtf16? .little bytes
  | 0 :: 0 :: _ :: _ :: _ => decodeUtf32? .big bytes
  | 0 :: _ :: _ :: _ :: _ => decodeUtf16? .big bytes
  | _ :: 0 :: 0 :: 0 :: _ => decodeUtf32? .little bytes
  | _ :: 0 :: _ :: _ :: _ => decodeUtf16? .little bytes
  | _ => some (.ofText (dropByteOrderMark s.toList))

end FieldCalc
