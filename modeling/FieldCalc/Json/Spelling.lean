import FieldCalc.Json.Writer

/-!
How messages spell a loosely typed value. A string is spelled as it is, or in quotes where it
stands inside another value or is to be recognised as a string; the other values have one
spelling.
-/

namespace FieldCalc.Json

def kindName : Json → String
  | null => "NoneType"
  | bool _ => "bool"
  | int _ => "int"
  | float _ => "float"
  | str _ => "str"
  | arr _ => "list"
  | obj _ => "dict"

mutual

def quoted : Json → Text
  | null => "None".toList
  | bool value => if value then "True".toList else "False".toList
  | int value => intText value
  | float value => Shortest.text value
  | str value => value.quoted
  | arr items => '[' :: quotedItems items ++ [']']
  | obj members => '\x7b' :: quotedMembers members ++ ['\x7d']

def quotedItems : List Json → Text
  | [] => []
  | [item] => quoted item
  | item :: rest => quoted item ++ ", ".toList ++ quotedItems rest

def quotedMembers : Members → Text
  | [] => []
  | [(name, value)] => name.quoted ++ ": ".toList ++ quoted value
  | (name, value) :: rest =>
      name.quoted ++ ": ".toList ++ quoted value ++ ", ".toList ++ quotedMembers rest

end

/-- The spelling with an outermost string as it is. -/
def spelled : Json → LooseText
  | str value => value
  | value => .ofText (quoted value)

end FieldCalc.Json
