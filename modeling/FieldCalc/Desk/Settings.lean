import FieldCalc.Json.Reader
import FieldCalc.Json.Writer
import FieldCalc.Fault

/-!
The settings file of the window: a JSON object whose member `dark_mode` chooses the palette. A
file that is absent or is not JSON counts as an empty object; one that holds another JSON value,
or values too deep in each other, is trouble. However the lines of the file end, they are read
as if they ended in line feeds.
-/

namespace FieldCalc

inductive Trouble where
  | fault (f : Fault)
  /-- The settings file holds a value that is no object, and was to be used as one. -/
  | badSettings (value : Json) (use : String)
  /-- The values in the settings file stand too deep in each other. -/
  | deepSettings (kind : Json.Container)

namespace Trouble

def message : Trouble → String
  | fault f => f.message
  | badSettings value use => "'" ++ value.kindName ++ "' object has no attribute '" ++ use ++ "'"
  | deepSettings kind => kind.tooDeepMessage

end Trouble

namespace Settings

/-- A text with a line feed for each carriage return, but only one for both in a row. -/
def unifyLines : Text → Text
  | [] => []
  | '\r' :: '\n' :: rest => '\n' :: unifyLines rest
  | c :: rest => (if c = '\r' then '\n' else c) :: unifyLines rest

def asRead (text : String) : String := String.ofList (unifyLines text.toList)

def load : Option String → Except Trouble Json
  | none => .ok (.obj [])
  | some text =>
      match Json.read text with
      | .ok value => .ok value
      | .error .malformed => .ok (.obj [])
      | .error (.tooDeep kind) => .error (.deepSettings kind)

def members (file : Option String) (use : String) : Except Trouble Json.Members := do
  match ← load file with
  | .obj members => return members
  | value => throw (.badSettings value use)

/-- The member that chooses the palette; false if there is none. -/
def darkMode (file : Option String) : Except Trouble Json := do
  return (Json.member? "dark_mode" (← members file "get")).getD (.bool false)

def withDarkMode (file : Option String) (isDark : Bool) : Except Trouble String := do
  let changed := Json.putMember "dark_mode" (.bool isDark) (← members file "update")
  return String.ofList ((Json.obj changed).indented 0)

end Settings

end FieldCalc
