import FieldCalc.Text.Marks
import FieldCalc.Text.Punycode
import FieldCalc.Web.HostLetters

/-!
Names of hosts. A name is sent in ASCII. Its parts stand between dots, and a part that is not in
ASCII is respelled and then written in ASCII letters and digits behind a prefix. Who gets such a
name reads the parts with the prefix back, which must give a name that is written in the same way
again.
-/

namespace FieldCalc.Web

inductive NameError where
  | badLength
  /-- The last part of a name in ASCII is too long. -/
  | tooLong
  | forbidden (code : Nat)
  /-- Letters of both directions stand in a part. -/
  | mixedDirections
  /-- A part with letters from right to left starts or ends in something else. -/
  | openDirection
  /-- A part that is not in ASCII has the prefix. -/
  | hasPrefix
  | numbers (e : Punycode.Error)
  /-- A part is not written in the same way again. -/
  | changed (part again : Text)
  deriving DecidableEq, Repr

namespace NameError

def reason : NameError → String
  | badLength => "label empty or too long"
  | tooLong => "label too long"
  | forbidden code =>
      "Invalid character " ++ String.ofList (LooseText.quoted ⟨[CodePoint.ofNat code]⟩)
  | mixedDirections => "Violation of BIDI requirement 2"
  | openDirection => "Violation of BIDI requirement 3"
  | hasPrefix => "Label starts with ACE prefix"
  | numbers e => "decoding with 'punycode' codec failed (UnicodeError: " ++ e.message ++ ")"
  | changed part again =>
      "('IDNA does not round-trip', b" ++ String.ofList part.quoted ++ ", b"
        ++ String.ofList again.quoted ++ ")"

def writingMessage (e : NameError) : String :=
  "encoding with 'idna' codec failed (UnicodeError: " ++ e.reason ++ ")"

def readingMessage : NameError → String
  | changed part again => (changed part again).reason
  | e => "decoding with 'idna' codec failed (UnicodeError: " ++ e.reason ++ ")"

end NameError

namespace HostName

def isAscii (t : Text) : Bool := t.all (·.toNat < 128)

def maxPartLength : Nat := 63

/-- A part of a name in ASCII. -/
def checkLength (part : Text) : Except NameError Text :=
  if part.isEmpty || maxPartLength < part.length then .error .badLength else .ok part

/-- The parts of a name in ASCII. The last may be empty. -/
def checkParts : List Text → Except NameError Unit
  | [] => .ok ()
  | [last] => if last.length ≤ maxPartLength then .ok () else .error .tooLong
  | part :: rest => do
      let _ ← checkLength part
      checkParts rest

/-! ## Writing -/

def prepare (codes : List Nat) : Except NameError (List Nat) :=
  let codes := respell codes
  match codes.find? isForbidden with
  | some code => .error (.forbidden code)
  | none =>
      if !codes.any isLeftward then .ok codes
      else if codes.any isRightward then .error .mixedDirections
      else if (codes.head?.any isLeftward) && (codes.getLast?.any isLeftward) then .ok codes
      else .error .openDirection

def marker : Text := ['x', 'n', '-', '-']

def areAscii (codes : List Nat) : Bool := codes.all (· < 128)

def writePart (codes : List Nat) : Except NameError Text := do
  if areAscii codes then checkLength (codes.map Char.ofNat)
  else
    let codes ← prepare codes
    if areAscii codes then checkLength (codes.map Char.ofNat)
    else if marker.isPrefixOf (codes.map Char.ofNat) then throw .hasPrefix
    else checkLength (marker ++ Punycode.encode codes)

def plainDot (c : Char) : Char :=
  if c == '\u3002' || c == '\uff0e' || c == '\uff61' then '.' else c

def joinParts : List Text → Text
  | [] => []
  | [part] => part
  | part :: rest => part ++ '.' :: joinParts rest

/-- Does something to every part of a name. After the last dot there need not be one. -/
def mapParts (change : Text → Except NameError Text) (name : Text) : Except NameError Text := do
  let parts := name.cutAt '.'
  if parts.getLast? == some [] then
    return joinParts (← parts.dropLast.mapM change) ++ ['.']
  else return joinParts (← parts.mapM change)

def write (name : Text) : Except NameError Text := do
  if isAscii name then
    if !name.isEmpty then checkParts (name.cutAt '.')
    return name
  else mapParts (fun part => writePart (part.map Char.toNat)) (name.map plainDot)

/-! ## Reading -/

def readPart (part : Text) : Except NameError Text := do
  if marker.isPrefixOf part then
    let codes ← (Punycode.decode (part.drop marker.length)).mapError .numbers
    let again ← writePart codes
    if part.map Char.toLower == again.map Char.toLower then return codes.map Char.ofNat
    else throw (.changed part again)
  else return part

def read (name : Text) : Except NameError Text :=
  if Text.hasPart marker name then mapParts readPart name else .ok name

end HostName

end FieldCalc.Web
