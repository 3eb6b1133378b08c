import FieldCalc.Fault
import FieldCalc.Json.Reader

/-!
Why a request fails, with the status and wording of the answer. Faults of the fields and sessions
are passed on; the others are about the body of the request.
-/

namespace FieldCalc.Web

inductive Problem where
  | fault (f : Fault)
  /-- The values in the body stand too deep in each other. -/
  | tooDeep (kind : Json.Container)
  | lacking (what : String)
  | noMembers (body : Json)
  /-- The body is a list and has the wanted name as an item, not as a member. -/
  | listMember
  /-- The body is a string and has the wanted name as a part, not as a member. -/
  | stringMember
  /-- The body is not an object where only an object will do. -/
  | notObject (body : Json)
  | notList (value : Json)
  | unusable (value : Json)

namespace Problem

def status : Problem → Nat
  | fault f =>
      match f.kind with
      | .missing => 404
      | .badValue | .badType => 400
      | .overflow | .closed => 500
  | tooDeep _ | notObject _ => 500
  | _ => 400

def message : Problem → LooseText
  | fault (.unknownField name) => "Not found: " ++ name.spelled
  | fault (.unknownSession id) => "Not found: " ++ id
  | fault f => f.message
  | tooDeep kind => kind.tooDeepMessage
  | lacking what => "Body needs " ++ what
  | noMembers body => "argument of type '" ++ body.kindName ++ "' is not iterable"
  | listMember => "list indices must be integers or slices, not str"
  | stringMember => "string indices must be integers, not 'str'"
  | notObject body => "'" ++ body.kindName ++ "' object has no attribute 'get'"
  | notList value => "'" ++ value.kindName ++ "' object is not iterable"
  | unusable value => "Could not use " ++ String.ofList value.quoted

end Problem

end FieldCalc.Web
