import FieldCalc.Registry

/-!
Reports: what the interfaces tell about fields, tapes and sessions, as JSON values.
-/

namespace FieldCalc

def Step.report (step : Step) : Json :=
  .obj [("expression", .ofText step.expression), ("result", .float step.result)]

def Tape.report (tape : Tape) : Json := .arr (tape.steps.map Step.report)

def Entry.report (entry : Entry) : Except Fault Json := do
  let text ← entry.field.text
  return .obj [
    ("name", .str entry.field.name),
    ("label", .str entry.label),
    ("value", .float entry.field.value),
    ("text", .ofText text),
    ("decimal_places", .int entry.field.places)]

def Json.orNull (value : Option Json) : Json := value.getD .null

def Session.members (session : Session) (tape : Tape) : Json.Members :=
  let buffer := session.calculator.buffer
  [("state", .str session.state.name),
   ("display", .ofText session.display),
   ("error", .bool buffer.error),
   ("waiting_for_operand", .bool buffer.waiting),
   ("pending_operation", .orNull (buffer.pending.map fun op => .ofText op.text)),
   ("memory", .float session.calculator.memory.value),
   ("decimal_places", .int session.places),
   ("tape", tape.report),
   ("committed_value", .orNull (session.state.committed?.map .float))]

def Session.report (session : Session) (tape : Tape) : Json := .obj (session.members tape)

def Ticket.members (t : Ticket) : Json.Members :=
  let own : Json.Members := [("id", .str t.id), ("field", .str t.fieldName)]
  t.session.members t.tape ++ own

def Ticket.report (t : Ticket) : Json := .obj t.members

end FieldCalc
