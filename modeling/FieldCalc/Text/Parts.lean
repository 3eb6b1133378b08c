import FieldCalc.Text.PartsTable

/-!
The parts of characters. Two names may be spelled with different characters and still be the
same name: in capitals or small letters, with a letter that carries its mark or with the mark
after it, in wide or in narrow signs. So a character is taken apart into small letters, plain
signs and marks. Code points are numbers here, since a name may hold surrogates.
-/

namespace FieldCalc

/-- Characters in a row, and the parts of the first. -/
structure PartsRow where
  first : Nat
  count : Nat
  step : Nat
  parts : List Nat
  deriving DecidableEq, Repr

namespace PartsRow

def holds (row : PartsRow) (code : Nat) : Bool :=
  row.first ≤ code && code < row.first + row.count * row.step
    && (code - row.first) % row.step == 0

def partsOf (row : PartsRow) (code : Nat) : List Nat :=
  row.parts.map (· + (code - row.first))

/-! ## Reading the table -/

def hexNumber (t : Text) : Nat := t.foldl (fun n c => 16 * n + (hexValue? c).getD 0) 0

def hexNumbers (t : Text) : List Nat :=
  if t.isEmpty then [] else (t.cutAt '.').map hexNumber

def read? (t : Text) : Option PartsRow :=
  match (t.cutAt '=').map hexNumbers with
  | [[first], parts] => some ⟨first, 1, 1, parts⟩
  | [[first, count, step], parts] => some ⟨first, count, step, parts⟩
  | _ => none

def readAll (lines : List String) : List PartsRow :=
  lines.flatMap fun line => (Text.cutAt ' ' line.toList).filterMap read?

end PartsRow

def joiningRows : List PartsRow := PartsRow.readAll joiningTable

def partsRows : List PartsRow :=
  joiningRows ++ PartsRow.readAll runTable ++ PartsRow.readAll singleTable

/-! ## Korean syllables -/

def firstSyllable : Nat := 0xac00

def firstLead : Nat := 0x1100

def firstVowel : Nat := 0x1161

/-- One before the first trailing consonant, as if there were one that is not heard. -/
def beforeTrails : Nat := 0x11a7

def leadCount : Nat := 19

def vowelCount : Nat := 21

def trailCount : Nat := 28

def syllableCount : Nat := leadCount * vowelCount * trailCount

def isSyllable (code : Nat) : Bool :=
  firstSyllable ≤ code && code < firstSyllable + syllableCount

def syllableParts (code : Nat) : List Nat :=
  let index := code - firstSyllable
  let pair := index / trailCount
  let trail := index % trailCount
  [firstLead + pair / vowelCount, firstVowel + pair % vowelCount]
    ++ if trail = 0 then [] else [beforeTrails + trail]

/-- The syllable of a consonant and a vowel, or of a syllable without a trailing consonant and
one. -/
def joinSyllable? (first last : Nat) : Option Nat :=
  if firstLead ≤ first && first < firstLead + leadCount
      && firstVowel ≤ last && last < firstVowel + vowelCount then
    some (firstSyllable
      + ((first - firstLead) * vowelCount + (last - firstVowel)) * trailCount)
  else if isSyllable first && (first - firstSyllable) % trailCount == 0
      && beforeTrails < last && last < beforeTrails + trailCount then
    some (first + (last - beforeTrails))
  else none

/-! ## Taking apart and joining -/

/-- The parts of a code point; most are their own only part. -/
def partsOf (code : Nat) : List Nat :=
  if isSyllable code then syllableParts code
  else match partsRows.find? (·.holds code) with
    | some row => row.partsOf code
    | none => [code]

def join? (first last : Nat) : Option Nat :=
  match joinSyllable? first last with
  | some syllable => some syllable
  | none =>
      match lateJoins.find? fun (a, b, _) => a == first && b == last with
      | some (_, _, joined) => some joined
      | none =>
          let parts := partsOf first ++ [last]
          (joiningRows.find? (·.parts == parts)).map (·.first)

end FieldCalc
