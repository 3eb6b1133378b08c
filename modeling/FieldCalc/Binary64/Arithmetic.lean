import FieldCalc.Binary64.Basic

/-!
Arithmetic on binary64 numbers: the exact result, rounded once. A sum of opposite numbers is
plus zero, an invalid operation gives NaN, and NaN is passed on.
-/

namespace FieldCalc.Binary64

def neg : Binary64 → Binary64
  | nan => nan
  | infinite negative => infinite (!negative)
  | finite negative units h => finite (!negative) units h

@[simp] theorem neg_neg (x : Binary64) : x.neg.neg = x := by
  cases x <;> simp [neg]

def add : Binary64 → Binary64 → Binary64
  | nan, _ => nan
  | _, nan => nan
  | infinite s, infinite t => if s = t then infinite s else nan
  | infinite s, finite _ _ _ => infinite s
  | finite _ _ _, infinite t => infinite t
  | finite s m _, finite t n _ =>
      if s = t then ofRatio s (m + n) 1
      else if m = n then zero
      else if n < m then ofRatio s (m - n) 1
      else ofRatio t (n - m) 1

def sub (x y : Binary64) : Binary64 := x.add y.neg

def mul : Binary64 → Binary64 → Binary64
  | nan, _ => nan
  | _, nan => nan
  | infinite s, infinite t => infinite (s != t)
  | infinite s, finite t n _ => if n = 0 then nan else infinite (s != t)
  | finite s m _, infinite t => if m = 0 then nan else infinite (s != t)
  | finite s m _, finite t n _ => ofRatio (s != t) (m * n) unitsPerOne

def div : Binary64 → Binary64 → Binary64
  | nan, _ => nan
  | _, nan => nan
  | infinite _, infinite _ => nan
  | infinite s, finite t _ _ => infinite (s != t)
  | finite s _ _, infinite t => finite (s != t) 0 representable_zero
  | finite s m _, finite t n _ =>
      if n = 0 then (if m = 0 then nan else infinite (s != t))
      else ofRatio (s != t) (m * unitsPerOne) n

/-- The integer nearest to a finite number; of two equally near ones, the even one. -/
def roundToInt? : Binary64 → Option Int
  | finite negative units _ =>
      let n : Int := roundDiv units unitsPerOne
      some (if negative then -n else n)
  | _ => none

def truncate? : Binary64 → Option Int
  | finite negative units _ =>
      let n : Int := units / unitsPerOne
      some (if negative then -n else n)
  | _ => none

end FieldCalc.Binary64
