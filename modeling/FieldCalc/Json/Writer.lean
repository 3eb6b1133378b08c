import FieldCalc.Decimal.Shortest
import FieldCalc.Json.Basic
import FieldCalc.Text.Quoted

/-!
Writing JSON text. Strings are written in ASCII: a character above U+FFFF as the escapes of its
two surrogates, and a surrogate alone as its own escape. The compact form has no blanks; the
indented form puts every item and member on a line of its own, two spaces deeper than what holds
it, and leaves empty arrays and objects on one line.
-/

namespace FieldCalc.Json

/-! ## Leaves -/

def unitEscape (n : Nat) : Text := backslash :: 'u' :: hexDigits 4 n

def escapeChar (c : Char) : Text :=
  let n := c.toNat
  if c = doubleQuote ∨ c = backslash then [backslash, c]
  else if c = '\n' then [backslash, 'n']
  else if c = '\r' then [backslash, 'r']
  else if c = '\t' then [backslash, 't']
  else if n = 8 then [backslash, 'b']
  else if n = 12 then [backslash, 'f']
  else if 32 ≤ n ∧ n < 127 then [c]
  else if n < 0x10000 then unitEscape n
  else unitEscape (0xd800 + (n - 0x10000) / 0x400) ++ unitEscape (0xdc00 + (n - 0x10000) % 0x400)

def escapePoint : CodePoint → Text
  | .char c => escapeChar c
  | .surrogate offset => unitEscape (0xd800 + offset)

def stringText (s : LooseText) : Text :=
  doubleQuote :: s.points.flatMap escapePoint ++ [doubleQuote]

def intText (n : Int) : Text :=
  if n < 0 then '-' :: Nat.toDigits 10 n.natAbs else Nat.toDigits 10 n.natAbs

def floatText : Binary64 → Text
  | .nan => "NaN".toList
  | .infinite negative => if negative then "-Infinity".toList else "Infinity".toList
  | x => Shortest.text x

/-! ## Compact form -/

mutual

def compact : Json → Text
  | null => "null".toList
  | bool value => if value then "true".toList else "false".toList
  | int value => intText value
  | float value => floatText value
  | str value => stringText value
  | arr items => '[' :: compactItems items ++ [']']
  | obj members => '\x7b' :: compactMembers members ++ ['\x7d']

def compactItems : List Json → Text
  | [] => []
  | [item] => compact item
  | item :: rest => compact item ++ ',' :: compactItems rest

def compactMembers : Members → Text
  | [] => []
  | [(name, value)] => stringText name ++ ':' :: compact value
  | (name, value) :: rest => stringText name ++ ':' :: compact value ++ ',' :: compactMembers rest

end

/-! ## Indented form -/

def newLine (depth : Nat) : Text := '\n' :: List.replicate (2 * depth) ' '

mutual

def indented (depth : Nat) : Json → Text
  | null => "null".toList
  | bool value => if value then "true".toList else "false".toList
  | int value => intText value
  | float value => floatText value
  | str value => stringText value
  | arr [] => "[]".toList
  | arr (item :: rest) =>
      '[' :: indentedItems (depth + 1) (item :: rest) ++ newLine depth ++ [']']
  | obj [] => ['\x7b', '\x7d']
  | obj (entry :: rest) =>
      '\x7b' :: indentedMembers (depth + 1) (entry :: rest) ++ newLine depth ++ ['\x7d']

def indentedItems (depth : Nat) : List Json → Text
  | [] => []
  | [item] => newLine depth ++ indented depth item
  | item :: rest => newLine depth ++ indented depth item ++ ',' :: indentedItems depth rest

def indentedMembers (depth : Nat) : Members → Text
  | [] => []
  | [(name, value)] => newLine depth ++ stringText name ++ ": ".toList ++ indented depth value
  | (name, value) :: rest =>
      newLine depth ++ stringText name ++ ": ".toList ++ indented depth value ++ ','
        :: indentedMembers depth rest

end

end FieldCalc.Json
