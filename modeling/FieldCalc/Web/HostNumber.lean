import FieldCalc.Text.Digit
import FieldCalc.Text.Quoted

/-!
Hosts given by number. A short one is four decimal numbers between points. A long one is eight
hexadecimal numbers between colons; two colons in a row may stand for zeros left out, the last
two numbers may be a short one, and a zone may follow behind a percent sign.
-/

namespace FieldCalc.Web.HostNumber

/-! ## Short numbers -/

def isOctet (t : Text) : Bool :=
  !t.isEmpty && t.all isAsciiDigit && t.length ≤ 3
    && (t == ['0'] || t.head? != some '0') && Nat.ofDigitChars 10 t 0 < 256

def isShort (t : Text) : Bool :=
  let parts := t.cutAt '.'
  parts.length == 4 && parts.all isOctet

/-! ## Long numbers -/

def isGroup (t : Text) : Bool := !t.isEmpty && t.length ≤ 4 && t.all fun c => (hexValue? c).isSome

def groupCount : Nat := 8

/-- The parts with two groups in place of a short number at their end, if nothing else that has
points stands there. -/
def spreadLast? (parts : List Text) : Option (List Text) :=
  match parts.getLast? with
  | none => some parts
  | some last =>
      if !last.contains '.' then some parts
      else if isShort last then some (parts.dropLast ++ [['0'], ['0']])
      else none

/-- The parts before and after the first empty one that is neither the first nor the last. -/
def splitGap? : List Text → Option (List Text × List Text)
  | first :: rest =>
      let inner := rest.dropLast
      let before := inner.takeWhile (!·.isEmpty)
      if before.length = inner.length then none
      else some (first :: before, rest.drop (before.length + 1))
  | [] => none

/-- The groups on a side of the gap. An empty part at the outer end must be next to the gap. -/
def side? (outer : Option Text) (parts : List Text) : Option (List Text) :=
  if outer == some [] then (if parts.length = 1 then some [] else none) else some parts

def areGroups (parts : List Text) : Bool :=
  match splitGap? parts with
  | none => parts.length == groupCount && parts.all isGroup
  | some (before, after) =>
      match side? before.head? before, side? after.getLast? after with
      | some high, some low =>
          high.length + low.length < groupCount && (high ++ low).all isGroup
      | _, _ => false

/-- Whether a zone, if there is one, is a single one and not empty. -/
def hasGoodZone (t : Text) : Bool :=
  !t.contains '%' || (!(t.afterFirst '%').isEmpty && !(t.afterFirst '%').contains '%')

def isLong (t : Text) : Bool :=
  let parts := Text.cutAt ':' (t.takeWhile (· != '%'))
  !t.contains '/' && hasGoodZone t && 3 ≤ parts.length
    && match spreadLast? parts with
      | none => false
      | some groups => groups.length ≤ groupCount + 1 && areGroups groups

/-! ## Later kinds -/

def startsLaterKind (t : Text) : Bool := t.head? == some 'v'

def isLaterKind (t : Text) : Bool :=
  let kind := (t.drop 1).takeWhile (· != '.')
  let rest := (t.drop 1).dropWhile (· != '.')
  startsLaterKind t && !kind.isEmpty && kind.all (fun c => (hexValue? c).isSome)
    && 2 ≤ rest.length

end FieldCalc.Web.HostNumber
