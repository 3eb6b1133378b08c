import FieldCalc.Report
import FieldCalc.Web.Body
import FieldCalc.Web.Route

/-!
The server: the fields and sessions of a registry as JSON over HTTP. A request is answered with a
status, and with a JSON value or a page where there is one; it leaves a registry for the next.
-/

namespace FieldCalc.Web

inductive Content where
  | nothing
  | json (value : Json)
  | page (text : String)

structure Response where
  status : Nat
  content : Content

namespace Response

def success (status : Nat) (data : Json) : Response :=
  ⟨status, .json (.obj [("success", .bool true), ("data", data)])⟩

def failure (p : Problem) : Response :=
  ⟨p.status, .json (.obj [("success", .bool false), ("error", .str p.message)])⟩

def emptied (response : Response) : Response :=
  { response with
    content := match response.content with
      | .nothing => .nothing
      | .json _ => .json .null
      | .page _ => .page "" }

def ofResult (status : Nat) : Except Problem Json → Response
  | .ok data => success status data
  | .error p => failure p

end Response

def lift {α : Type} : Except Fault α → Except Problem α
  | .ok value => .ok value
  | .error f => .error (.fault f)

/-! ## The page about the server -/

def aboutPage : String :=
  "\n    <html>
    <head><title>RideCalc API</title></head>
    <body style=\"font-family: Arial; padding: 40px; background: #1a1a2e; color: white;\">
        <h1>RideCalc API Server</h1>
        <h2>Available Endpoints:</h2>
        <ul>
            <li><a href=\"/api/fields\" style=\"color: #2196F3;\">/api/fields</a> - Numeric fields</li>
            <li>POST /api/sessions - Open a calculator on a field</li>
            <li>POST /api/sessions/&lt;id&gt;/actions - Press keys</li>
            <li>GET /api/sessions/&lt;id&gt;/tape - Calculation tape</li>
            <li>POST /api/sessions/&lt;id&gt;/done - Commit to the field</li>
            <li>POST /api/sessions/&lt;id&gt;/cancel - Discard</li>
            <li>POST /api/evaluate - Evaluate typed field text</li>
        </ul>
    </body>
    </html>
    "

/-! ## Fields -/

def listFields (r : Registry) : Except Problem Json := do
  return .arr (← lift (r.entries.mapM Entry.report))

def getField (r : Registry) (name : String) : Except Problem Json := do
  lift (← lift (r.entry? name)).report

/-- Sets a field from typed text or from a number, text first. The registry keeps the change even
if the field cannot be reported afterwards. -/
def putField (r : Registry) (name : String) (body : Json) : Registry × Except Problem Json :=
  match find? "text" body with
  | .error p => (r, .error p)
  | .ok (some typed) =>
      match r.submitText name typed.spelled.toText with
      | .error f => (r, .error (.fault f))
      | .ok (next, entry, accepted) =>
          (next, if accepted then lift entry.report else .error (.unusable typed))
  | .ok none =>
      match find? "value" body with
      | .error p => (r, .error p)
      | .ok none => (r, .error (.lacking "'value' or 'text'"))
      | .ok (some value) =>
          match r.setField name value with
          | .error f => (r, .error (.fault f))
          | .ok (next, entry) => (next, lift entry.report)

/-! ## Sessions -/

def placesOf (body : Json) : Except Problem (Option Int) := do
  match ← memberOrNull "decimal_places" body with
  | .null => return none
  | value => return some (← lift value.toInteger)

def sessionWish (body : Json) : Except Problem (String × Option Int) := do
  if ← mentions "field" body then
    let places ← placesOf body
    let name ← nameOf (← memberOf "field" body)
    return (name, places)
  else throw (.lacking "'field'")

def openSession (r : Registry) (body : Json) : Registry × Except Problem Json :=
  match sessionWish body with
  | .error p => (r, .error p)
  | .ok (name, places) =>
      let (next, opened) := r.openSession name places
      (next, (lift opened).map Ticket.report)

def keysOf (body : Json) : Except Problem (List LooseText) := do
  match ← find? "keys" body with
  | some value => return (← itemsOf value).map Json.spelled
  | none =>
      match ← find? "key" body with
      | some value => return [value.spelled]
      | none => throw (.lacking "'key' or 'keys'")

def pressKeys (r : Registry) (id : String) (body : Json) : Registry × Except Problem Json :=
  match keysOf body with
  | .error p => (r, .error p)
  | .ok keys =>
      let (next, pressed) := r.press id keys
      (next, (lift pressed).map Ticket.report)

def getTape (r : Registry) (id : String) : Except Problem Json := do
  let t ← lift (r.ticket? id)
  let lines ← lift (t.tape.lines t.session.places)
  return .obj [("steps", t.tape.report), ("lines", .arr (lines.map .ofText))]

def finishSession (r : Registry) (id : String) : Registry × Except Problem Json :=
  match r.finish id with
  | .error f => (r, .error (.fault f))
  | .ok (next, t) =>
      (next, (lift (next.entry? t.fieldName)).map fun entry =>
        .obj (t.members.concat ("field_value", .float entry.field.value)))

def cancelSession (r : Registry) (id : String) : Registry × Except Problem Json :=
  match r.cancel id with
  | .error f => (r, .error (.fault f))
  | .ok (next, t) => (next, .ok t.report)

/-! ## Evaluation -/

def evaluate (body : Json) : Except Problem Json := do
  let expression : LooseText ← match body with
    | .obj members => pure (((Json.member? "expression" members).map Json.spelled).getD "")
    | other => throw (.notObject other)
  let text := expression.toText
  return .obj [
    ("expression", .str expression),
    ("result", .orNull ((Expression.textValue? text).map .float)),
    ("valid", .bool (Expression.wellShaped text))]

/-! ## Requests -/

def withBody (r : Registry) (body : Except Problem Json)
    (operation : Registry → Json → Registry × Except Problem Json) :
    Registry × Except Problem Json :=
  match body with
  | .ok value => operation r value
  | .error p => (r, .error p)

def serve (r : Registry) (body : Except Problem Json) : Route → Registry × Response
  | .about => (r, ⟨200, .page aboutPage⟩)
  | .listFields => (r, .ofResult 200 (listFields r))
  | .getField name => (r, .ofResult 200 (getField r name))
  | .putField name =>
      let (next, result) := withBody r body fun r value => putField r name value
      (next, .ofResult 200 result)
  | .openSession =>
      let (next, result) := withBody r body openSession
      (next, .ofResult 201 result)
  | .getSession id => (r, .ofResult 200 ((lift (r.ticket? id)).map Ticket.report))
  | .pressKeys id =>
      let (next, result) := withBody r body fun r value => pressKeys r id value
      (next, .ofResult 200 result)
  | .getTape id => (r, .ofResult 200 (getTape r id))
  | .finishSession id => let (next, result) := finishSession r id; (next, .ofResult 200 result)
  | .cancelSession id => let (next, result) := cancelSession r id; (next, .ofResult 200 result)
  | .evaluate => (r, .ofResult 200 (body >>= evaluate))
  | .file => (r, ⟨404, .nothing⟩)

def answerTarget (r : Registry) (request : Request) : Target → Registry × Response
  | .route route => serve r request.json route
  | .options => (r, ⟨200, .page ""⟩)
  | .redirected => (r, ⟨308, .nothing⟩)
  | .noSocket | .noHost => (r, ⟨400, .nothing⟩)
  | .wrongMethod => (r, ⟨405, .nothing⟩)
  | .notFound => (r, ⟨404, .nothing⟩)

/-- Answers a request. The answer to one that asks for the head alone is left empty. -/
def answer (r : Registry) (request : Request) : Registry × Response :=
  let (next, response) := answerTarget r request request.leadsTo
  (next, if request.headOnly then response.emptied else response)

end FieldCalc.Web
