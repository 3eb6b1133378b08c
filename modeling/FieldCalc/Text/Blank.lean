import FieldCalc.Text.Basic

/-!
Blank characters: the white space of Unicode together with the four information separators,
U+001C to U+001F. The zero-width space and the byte order mark are not blank.
-/

namespace FieldCalc

def blankRanges : List (Nat × Nat) :=
  [(0x09, 0x0d), (0x1c, 0x20), (0x85, 0x85), (0xa0, 0xa0), (0x1680, 0x1680), (0x2000, 0x200a),
   (0x2028, 0x2029), (0x202f, 0x202f), (0x205f, 0x205f), (0x3000, 0x3000)]

def inRanges (ranges : List (Nat × Nat)) (code : Nat) : Bool :=
  ranges.any fun run => run.1 ≤ code && code ≤ run.2

def isBlank (c : Char) : Bool := inRanges blankRanges c.toNat

def isAsciiBlank (c : Char) : Bool := (9 ≤ c.toNat && c.toNat ≤ 13) || c.toNat == 32

theorem isBlank_of_isAsciiBlank {c : Char} (h : isAsciiBlank c = true) : isBlank c = true := by
  simp [isAsciiBlank] at h
  simp [isBlank, inRanges, blankRanges]
  omega

namespace Text

def trim (t : Text) : Text := t.trimBy isBlank

end Text

end FieldCalc
