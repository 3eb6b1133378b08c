import FieldCalc.Json.Number
import FieldCalc.Json.Reader
import FieldCalc.Web.Problem
import FieldCalc.Web.Request

/-!
The body of a request as a JSON value, and what is taken out of it. A body that is absent, not
declared as JSON, not JSON, or counts as false is an empty object. Members may be asked for in
any value: a list has its strings as names and a string its parts, though neither has members to
give.
-/

namespace FieldCalc.Web

def emptyBody : Json := .obj []

/-- The value of a body. Only a body whose values stand too deep in each other is a problem. -/
def Request.json (request : Request) : Except Problem Json :=
  match (request.body.filter fun _ => request.isJson).bind decodeJson? with
  | none => .ok emptyBody
  | some text =>
      match Json.read text with
      | .ok value => .ok (if value.isTrue then value else emptyBody)
      | .error .malformed => .ok emptyBody
      | .error (.tooDeep kind) => .error (.tooDeep kind)

def isString (name : String) : Json → Bool
  | .str s => s == name
  | _ => false

def mentions (name : String) : Json → Except Problem Bool
  | .obj members => .ok (Json.member? name members).isSome
  | .arr items => .ok (items.any (isString name))
  | .str s => .ok (Text.hasPart name.toList s.toText)
  | body => .error (.noMembers body)

def memberOf (name : String) : Json → Except Problem Json
  | .obj members =>
      match Json.member? name members with
      | some value => .ok value
      | none => .error (.lacking name)
  | .arr _ => .error .listMember
  | .str _ => .error .stringMember
  | body => .error (.noMembers body)

def find? (name : String) (body : Json) : Except Problem (Option Json) := do
  if ← mentions name body then return some (← memberOf name body)
  else return none

/-- The member of an object, or null; another value has none to ask for. -/
def memberOrNull (name : String) : Json → Except Problem Json
  | .obj members => .ok ((Json.member? name members).getD .null)
  | body => .error (.notObject body)

def itemsOf : Json → Except Problem (List Json)
  | .arr items => .ok items
  | .str s => .ok (s.points.map fun p => .str ⟨[p]⟩)
  | .obj members => .ok (members.map fun entry => .str entry.1)
  | value => .error (.notList value)

/-- The name that a value gives. Lists and objects are no names, and nothing is called by a value
that is no text. -/
def nameOf : Json → Except Problem String
  | .str s =>
      match s.text? with
      | some name => .ok (String.ofList name)
      | none => .error (.fault (.unknownField (.str s)))
  | .arr items => .error (.fault (.notAName (.arr items)))
  | .obj members => .error (.fault (.notAName (.obj members)))
  | value => .error (.fault (.unknownField value))

end FieldCalc.Web
