import FieldCalc.Text.Quoted

/-!
Names in ASCII letters and digits. The ASCII characters of a name come first, and then numbers
say which other characters to put in and where: each counts the places passed over since the
last one, going through the name once for every code point. A number ends in the first digit
below a threshold, and the thresholds follow the size of the numbers before.
-/

namespace FieldCalc.Punycode

inductive Error where
  | incomplete
  | notDigit (c : Char)
  /-- A number leads beyond the last code point. -/
  | tooLarge (code : Nat)
  deriving DecidableEq, Repr

def Error.message : Error → String
  | incomplete => "incomplete punicode string"
  | notDigit c => "Invalid extended code point '" ++ String.singleton c ++ "'"
  | tooLarge code => "Invalid character U+" ++ String.ofList (Nat.toDigits 16 code)

/-! ## Digits -/

def digit (d : Nat) : Char := if d < 26 then Char.ofNat (97 + d) else Char.ofNat (22 + d)

def digitValue? (c : Char) : Option Nat :=
  let n := c.toUpper.toNat
  if 65 ≤ n ∧ n ≤ 90 then some (n - 65)
  else if 48 ≤ n ∧ n ≤ 57 then some (n - 22)
  else none

theorem digitValue?_digit {d : Nat} (h : d < 36) : digitValue? (digit d) = some d := by
  have : ∀ e ∈ List.range 36, digitValue? (digit e) = some e := by decide
  exact this d (List.mem_range.mpr h)

def threshold (place bias : Nat) : Nat := max 1 (min 26 (36 * (place + 1) - bias))

theorem threshold_pos (place bias : Nat) : 0 < threshold place bias := by
  unfold threshold
  omega

theorem threshold_le (place bias : Nat) : threshold place bias ≤ 26 := by
  unfold threshold
  omega

/-- Divides a number until it is small, and counts 36 for each time. -/
def shrink (delta : Nat) : Nat × Nat :=
  if 455 < delta then
    let (small, times) := shrink (delta / 35)
    (small, times + 36)
  else (delta, 0)
termination_by delta
decreasing_by exact Nat.div_lt_self (by omega) (by omega)

def adapt (delta count : Nat) (isFirst : Bool) : Nat :=
  let damped := if isFirst then delta / 700 else delta / 2
  let (small, times) := shrink (damped + damped / count)
  times + 36 * small / (small + 38)

def startBias : Nat := 72

def startCode : Nat := 128

/-! ## Writing -/

def numeral (place bias n : Nat) : Text :=
  let t := threshold place bias
  if n < t then [digit n]
  else digit (t + (n - t) % (36 - t)) :: numeral (place + 1) bias ((n - t) / (36 - t))
termination_by n
decreasing_by
  have := threshold_pos place bias
  exact Nat.lt_of_le_of_lt (Nat.div_le_self _ _) (by omega)

structure Writing where
  written : Text
  delta : Nat
  bias : Nat
  count : Nat

/-- Passes over a code point, or writes it if it is the one whose turn it is. -/
def Writing.pass (basics turn : Nat) (w : Writing) (code : Nat) : Writing :=
  if code < turn then { w with delta := w.delta + 1 }
  else if code = turn then {
    written := w.written ++ numeral 0 w.bias w.delta
    delta := 0
    bias := adapt w.delta (w.count + 1) (w.count == basics)
    count := w.count + 1 }
  else w

/-- Writes the code points whose turn it is, wherever they stand in the name. Turns come in
ascending order, and none below `next` comes again. -/
def Writing.passAll (codes : List Nat) (basics : Nat) (next : Nat) (w : Writing) :
    List Nat → Text
  | [] => w.written
  | turn :: later =>
      let start := { w with delta := w.delta + (turn - next) * (w.count + 1) }
      let done := codes.foldl (Writing.pass basics turn) start
      Writing.passAll codes basics (turn + 1) { done with delta := done.delta + 1 } later

def insertOnce (n : Nat) : List Nat → List Nat
  | [] => [n]
  | m :: rest =>
      if n < m then n :: m :: rest
      else if n = m then m :: rest
      else m :: insertOnce n rest

def encode (codes : List Nat) : Text :=
  let basics := codes.filter (· < startCode)
  let turns := (codes.filter (startCode ≤ ·)).foldr insertOnce []
  let numbers := Writing.passAll codes basics.length startCode
    ⟨[], 0, startBias, basics.length⟩ turns
  basics.map Char.ofNat ++ (if basics.isEmpty then [] else ['-']) ++ numbers

/-! ## Reading -/

structure Reading where
  codes : List Nat
  /-- Where the next character goes, unless places are passed over. -/
  place : Nat
  code : Nat
  bias : Nat
  isFirst : Bool

def Reading.insert (r : Reading) (delta : Nat) : Except Error Reading :=
  let size := r.codes.length + 1
  let code := r.code + (r.place + delta) / size
  let place := (r.place + delta) % size
  if 0x10ffff < code then .error (.tooLarge code)
  else .ok {
    codes := r.codes.take place ++ code :: r.codes.drop place
    place := place + 1
    code
    bias := adapt delta size r.isFirst
    isFirst := false }

/-- Reads numbers. Of the one that has begun, `digits` digits have been read with the value
`value`, and `weight` is the weight of the next. -/
def Reading.readAll (r : Reading) (digits weight value : Nat) : Text → Except Error (List Nat)
  | [] => if digits = 0 then .ok r.codes else .error .incomplete
  | c :: rest =>
      match digitValue? c with
      | none => .error (.notDigit c.toUpper)
      | some d =>
          let t := threshold digits r.bias
          let value := value + d * weight
          if d < t then
            match r.insert value with
            | .ok next => next.readAll 0 1 0 rest
            | .error e => .error e
          else r.readAll (digits + 1) (weight * (36 - t)) value rest

def splitLast (t : Text) : Text × Text :=
  if t.contains '-' then ((t.reverse.dropWhile (· != '-')).drop 1 |>.reverse, t.afterLast '-')
  else ([], t)

def decode (t : Text) : Except Error (List Nat) :=
  let (basics, numbers) := splitLast t
  Reading.readAll ⟨basics.map Char.toNat, 0, startCode, startBias, true⟩ 0 1 0 numbers

end FieldCalc.Punycode
