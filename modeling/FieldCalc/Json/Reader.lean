import FieldCalc.Decimal.Numeral
import FieldCalc.Json.Basic
import FieldCalc.Text.Quoted

/-!
Reading JSON text. The whole text must be one value with blanks around it. A name that appears
twice in an object keeps its first place and its last value. Beside the numbers of the standard
the words `NaN`, `Infinity` and `-Infinity` are read. A text is refused if an integer has more
digits than integer texts may have, or if arrays and objects stand too deep in each other.

Each function takes the number of steps it may make; the length of the text is enough.
-/

namespace FieldCalc.Json

inductive Container where
  | array
  | object
  deriving DecidableEq, Repr

inductive ReadError where
  | malformed
  /-- One more value that holds others would be too deep in them. -/
  | tooDeep (kind : Container)
  deriving DecidableEq, Repr

namespace Container

def name : Container → String
  | array => "array"
  | object => "object"

def tooDeepMessage (kind : Container) : String :=
  "maximum recursion depth exceeded while decoding a JSON " ++ kind.name
    ++ " from a unicode string"

end Container

def maxDepth : Nat := 970

abbrev Input := List CodePoint

/-! ## Blanks and words -/

def isJsonBlank : CodePoint → Bool
  | .char c => c == ' ' || c == '\t' || c == '\n' || c == '\r'
  | .surrogate _ => false

def skipBlanks (t : Input) : Input := t.dropWhile isJsonBlank

def dropWord? (word : String) (t : Input) : Option Input :=
  let points := (LooseText.ofString word).points
  if points.isPrefixOf t then some (t.drop points.length) else none

/-! ## Strings -/

def hexPoint? : CodePoint → Option Nat
  | .char c => hexValue? c
  | .surrogate _ => none

def unit? : Input → Option (Nat × Input)
  | a :: b :: c :: d :: rest => do
      let a ← hexPoint? a
      let b ← hexPoint? b
      let c ← hexPoint? c
      let d ← hexPoint? d
      some (((a * 16 + b) * 16 + c) * 16 + d, rest)
  | _ => none

/-- The code point of an escaped code unit. A high surrogate takes the low one of a following
escape with it. -/
def escapedUnit? (t : Input) : Option (CodePoint × Input) := do
  let (unit, rest) ← unit? t
  if CodePoint.isHigh unit then
    match rest with
    | .char '\x5c' :: .char 'u' :: more =>
        let (low, after) ← unit? more
        if CodePoint.isLow low then some (.ofPair unit low, after) else some (.ofNat unit, rest)
    | _ => some (.ofNat unit, rest)
  else some (.ofNat unit, rest)

def escaped? : Input → Option (CodePoint × Input)
  | .char 'n' :: rest => some (.char '\n', rest)
  | .char 't' :: rest => some (.char '\t', rest)
  | .char 'r' :: rest => some (.char '\r', rest)
  | .char 'b' :: rest => some (.char '\x08', rest)
  | .char 'f' :: rest => some (.char '\x0c', rest)
  | .char '/' :: rest => some (.char '/', rest)
  | .char 'u' :: rest => escapedUnit? rest
  | p :: rest => if p = .char doubleQuote ∨ p = .char backslash then some (p, rest) else none
  | [] => none

/-- The rest of a string after its opening quote; `done` holds what it has so far, the last code
point first. -/
def string? : Nat → List CodePoint → Input → Option (LooseText × Input)
  | 0, _, _ => none
  | _ + 1, _, [] => none
  | fuel + 1, done, p :: rest =>
      if p = .char doubleQuote then some (⟨done.reverse⟩, rest)
      else if p = .char backslash then
        match escaped? rest with
        | some (q, after) => string? fuel (q :: done) after
        | none => none
      else if p.toNat < 32 then none
      else string? fuel (p :: done) rest

/-! ## Numbers -/

def splitDigits : Input → Text × Input
  | .char c :: rest =>
      if isAsciiDigit c then
        let (digits, after) := splitDigits rest
        (c :: digits, after)
      else ([], .char c :: rest)
  | t => ([], t)

def splitWhole? : Input → Option (Text × Input)
  | .char '0' :: rest => some (['0'], rest)
  | t =>
      let (digits, after) := splitDigits t
      if digits.isEmpty then none else some (digits, after)

def splitPlaces : Input → Text × Input
  | .char '.' :: rest =>
      let (digits, after) := splitDigits rest
      if digits.isEmpty then ([], .char '.' :: rest) else ('.' :: digits, after)
  | t => ([], t)

def splitExponent : Input → Text × Input
  | .char c :: rest =>
      if c = 'e' ∨ c = 'E' then
        let (sign, unsigned) : Text × Input := match rest with
          | .char '+' :: more => (['+'], more)
          | .char '-' :: more => (['-'], more)
          | more => ([], more)
        let (digits, after) := splitDigits unsigned
        if digits.isEmpty then ([], .char c :: rest) else (c :: sign ++ digits, after)
      else ([], .char c :: rest)
  | t => ([], t)

def number? (negative : Bool) (t : Input) : Option (Json × Input) := do
  let (whole, rest) ← splitWhole? t
  let (places, rest) := splitPlaces rest
  let (power, rest) := splitExponent rest
  if places.isEmpty && power.isEmpty then
    if whole.length ≤ Numeral.maxIntegerDigits then
      let n : Int := Numeral.digitsValue whole
      some (.int (if negative then -n else n), rest)
    else none
  else
    let x ← Numeral.unsigned? negative (whole ++ places ++ power)
    some (.float x, rest)

/-! ## Values -/

def wordValue? (t : Input) : Option (Json × Input) :=
  ((dropWord? "null" t).map (Json.null, ·))
    <|> ((dropWord? "true" t).map (Json.bool true, ·))
    <|> ((dropWord? "false" t).map (Json.bool false, ·))
    <|> ((dropWord? "NaN" t).map (Json.float .nan, ·))
    <|> ((dropWord? "Infinity" t).map (Json.float (.infinite false), ·))
    <|> ((dropWord? "-Infinity" t).map (Json.float (.infinite true), ·))

def leaf? (t : Input) : Option (Json × Input) :=
  match wordValue? t, t with
  | some found, _ => some found
  | none, .char '-' :: rest => number? true rest
  | none, t => number? false t

abbrev Reading := Except ReadError (Json × Input)

def Reading.ofOption : Option (Json × Input) → Reading
  | some found => .ok found
  | none => .error .malformed

mutual

def readValue : Nat → Nat → Input → Reading
  | 0, _, _ => .error .malformed
  | _ + 1, _, [] => .error .malformed
  | fuel + 1, depth, p :: rest =>
      if p = .char doubleQuote then
        .ofOption ((string? fuel [] rest).map fun (s, after) => (.str s, after))
      else if p = .char '[' then
        match depth with
        | 0 => .error (.tooDeep .array)
        | depth + 1 =>
            match skipBlanks rest with
            | .char ']' :: after => .ok (.arr [], after)
            | more => readItems fuel depth [] more
      else if p = .char '\x7b' then
        match depth with
        | 0 => .error (.tooDeep .object)
        | depth + 1 =>
            match skipBlanks rest with
            | .char '\x7d' :: after => .ok (.obj [], after)
            | more => readMembers fuel depth [] more
      else .ofOption (leaf? (p :: rest))

/-- The rest of an array from an item on; `done` holds the items so far, the last one first. -/
def readItems : Nat → Nat → List Json → Input → Reading
  | 0, _, _, _ => .error .malformed
  | fuel + 1, depth, done, t =>
      match readValue fuel depth t with
      | .error e => .error e
      | .ok (item, rest) =>
          match skipBlanks rest with
          | .char ',' :: more => readItems fuel depth (item :: done) (skipBlanks more)
          | .char ']' :: after => .ok (.arr (item :: done).reverse, after)
          | _ => .error .malformed

def readMembers : Nat → Nat → Members → Input → Reading
  | 0, _, _, _ => .error .malformed
  | fuel + 1, depth, done, t =>
      match t with
      | .char '\x22' :: rest =>
          match string? fuel [] rest with
          | none => .error .malformed
          | some (name, after) =>
              match skipBlanks after with
              | .char ':' :: more =>
                  match readValue fuel depth (skipBlanks more) with
                  | .error e => .error e
                  | .ok (found, tail) =>
                      let named := putMember name found done
                      match skipBlanks tail with
                      | .char ',' :: last => readMembers fuel depth named (skipBlanks last)
                      | .char '\x7d' :: last => .ok (.obj named, last)
                      | _ => .error .malformed
              | _ => .error .malformed
      | _ => .error .malformed

end

def read (t : LooseText) : Except ReadError Json :=
  match readValue (2 * t.points.length + 2) maxDepth (skipBlanks t.points) with
  | .error e => .error e
  | .ok (found, rest) => if (skipBlanks rest).isEmpty then .ok found else .error .malformed

def read? (t : LooseText) : Option Json := (read t).toOption

end FieldCalc.Json
