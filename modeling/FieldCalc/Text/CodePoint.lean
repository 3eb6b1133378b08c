import FieldCalc.Text.Basic

/-!
Loose texts. An escape of JSON can spell a surrogate, which is only half of a character, and
nothing forces the other half to follow. So what is read from JSON is a list of code points that
need not be a text. Every text is a loose text, and a loose text without surrogates is a text.
-/

namespace FieldCalc

inductive CodePoint where
  | char (c : Char)
  | surrogate (offset : Fin 0x800)
  deriving DecidableEq, Repr

namespace CodePoint

/-- The code point of a number. One that is too large counts as zero. -/
def ofNat (n : Nat) : CodePoint :=
  if h : 0xd800 ≤ n ∧ n < 0xe000 then .surrogate ⟨n - 0xd800, by omega⟩ else .char (Char.ofNat n)

def toNat : CodePoint → Nat
  | char c => c.toNat
  | surrogate offset => 0xd800 + offset

theorem ofNat_toNat (p : CodePoint) : ofNat p.toNat = p := by
  cases p with
  | char c =>
    have h : ¬(0xd800 ≤ c.toNat ∧ c.toNat < 0xe000) := by
      have := c.valid
      simp only [UInt32.isValidChar, Nat.isValidChar] at this
      simp only [Char.toNat]
      omega
    simp [ofNat, toNat, h]
  | surrogate offset =>
    have := offset.isLt
    simp [ofNat, toNat]
    omega

def toChar : CodePoint → Char
  | char c => c
  | surrogate _ => '\ufffd'

def char? : CodePoint → Option Char
  | char c => some c
  | surrogate _ => none

/-! ## Pairs -/

def isHigh (n : Nat) : Bool := 0xd800 ≤ n && n < 0xdc00

def isLow (n : Nat) : Bool := 0xdc00 ≤ n && n < 0xe000

def ofPair (high low : Nat) : CodePoint :=
  .char (Char.ofNat (0x10000 + (high - 0xd800) * 0x400 + (low - 0xdc00)))

end CodePoint

structure LooseText where
  points : List CodePoint
  deriving DecidableEq, Repr

namespace LooseText

def ofText (t : Text) : LooseText := ⟨t.map .char⟩

def ofString (s : String) : LooseText := ofText s.toList

instance : Coe String LooseText := ⟨ofString⟩

instance : Append LooseText := ⟨fun s t => ⟨s.points ++ t.points⟩⟩

def isEmpty (t : LooseText) : Bool := t.points.isEmpty

def text? (t : LooseText) : Option Text := t.points.mapM CodePoint.char?

/-- The text with the replacement character for each surrogate. Where that character means
nothing, neither does a surrogate. -/
def toText (t : LooseText) : Text := t.points.map CodePoint.toChar

protected def toString (t : LooseText) : String := String.ofList t.toText

@[simp] theorem toText_ofText (t : Text) : (ofText t).toText = t := by
  simp [toText, ofText, Function.comp_def, CodePoint.toChar]

@[simp] theorem toString_ofString (s : String) : (ofString s).toString = s := by
  simp [LooseText.toString, ofString]

@[simp] theorem text?_ofText (t : Text) : (ofText t).text? = some t := by
  induction t with
  | nil => rfl
  | cons c rest ih => simp_all [text?, ofText, CodePoint.char?]

/-- A loose text without surrogates is the loose text of a text. -/
theorem text?_eq_some {t : LooseText} {u : Text} : t.text? = some u ↔ t = ofText u := by
  constructor
  · obtain ⟨points⟩ := t
    intro h
    induction points generalizing u with
    | nil =>
      cases h
      rfl
    | cons p rest ih =>
      cases p with
      | surrogate offset => simp [text?, CodePoint.char?] at h
      | char c =>
        simp only [text?, List.mapM_cons, CodePoint.char?, Option.bind_eq_bind, Option.bind_some,
          Option.bind_eq_some_iff] at h
        obtain ⟨v, hv, hcons⟩ := h
        cases hcons
        have hrest : rest = v.map .char := congrArg points (ih hv)
        rw [hrest]
        rfl
  · rintro rfl
    exact text?_ofText u

end LooseText

end FieldCalc
