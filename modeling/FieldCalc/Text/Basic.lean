/-!
A text is a list of Unicode code points. Counts and cuts are in code points.
-/

namespace FieldCalc

abbrev Text := List Char

namespace Text

/-! ## Cutting -/

/-- The text without the characters at both ends that `drop` holds of. -/
def trimBy (drop : Char → Bool) (t : Text) : Text :=
  ((t.dropWhile drop).reverse.dropWhile drop).reverse

def trimEndBy (drop : Char → Bool) (t : Text) : Text :=
  (t.reverse.dropWhile drop).reverse

@[simp] theorem trimBy_nil (drop : Char → Bool) : trimBy drop [] = [] := rfl

@[simp] theorem trimEndBy_nil (drop : Char → Bool) : trimEndBy drop [] = [] := rfl

theorem trimEndBy_concat_of_not {drop : Char → Bool} {c : Char} (h : drop c = false) (t : Text) :
    trimEndBy drop (t ++ [c]) = t ++ [c] := by
  simp [trimEndBy, h]

theorem trimEndBy_concat_of {drop : Char → Bool} {c : Char} (h : drop c = true) (t : Text) :
    trimEndBy drop (t ++ [c]) = trimEndBy drop t := by
  simp [trimEndBy, h]

/-! ## Marks -/

def cutAt (mark : Char) : Text → List Text
  | [] => [[]]
  | c :: rest =>
      match cutAt mark rest with
      | [] => [[c]]
      | part :: more => if c = mark then [] :: part :: more else (c :: part) :: more

def afterFirst (mark : Char) (t : Text) : Text := (t.dropWhile (· != mark)).drop 1

/-- What follows the last mark, or the whole text if it has none. -/
def afterLast (mark : Char) (t : Text) : Text := (t.reverse.takeWhile (· != mark)).reverse

/-! ## Searching -/

def hasPart (needle : Text) : Text → Bool
  | [] => needle.isEmpty
  | c :: rest => needle.isPrefixOf (c :: rest) || hasPart needle rest

end Text

end FieldCalc
