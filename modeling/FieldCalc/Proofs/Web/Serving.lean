import FieldCalc.Product
import FieldCalc.Proofs.Calculator.Unfailing
import FieldCalc.Proofs.Registry.Faults
import FieldCalc.Proofs.Registry.FieldValues
import FieldCalc.Web.Server

/-!
# Requests that fail

A request asks for one operation of the registry at most. If the operation fails it has changed
nothing, openings apart, and if it succeeds the answer can be written, so that a failure is told
only where nothing has changed.
-/

namespace FieldCalc

/-! ## Fields that can be shown -/

theorem Entry.exists_report {entry : Entry} (h : Display.Accepts entry.field.places) :
    ∃ report, entry.report = .ok report := by
  obtain ⟨text, htext⟩ : ∃ text, entry.field.text = .ok text := by
    unfold Field.text
    split
    · exact h entry.field.value
    · exact ⟨_, rfl⟩
  exact ⟨_, by rw [Entry.report, htext]; rfl⟩

namespace Registry

variable {r : Registry}

def Presentable (r : Registry) : Prop := ∀ entry ∈ r.entries, Display.Accepts entry.field.places

theorem places_afterWrite {r : Registry} (written : Option (Entry × Binary64)) :
    (r.afterWrite written).map (·.field.places) = r.entries.map (·.field.places) := by
  cases written with
  | none => rfl
  | some written =>
      rw [afterWrite, List.map_map]
      refine List.map_congr_left fun entry _ => ?_
      simp only [Function.comp_apply, Entry.assigned]
      split <;> rfl

theorem Presentable.apply (h : r.Presentable) (hproper : r.Proper) (op : Operation) :
    (r.apply op).Presentable := by
  intro entry hentry
  have hplaces : entry.field.places ∈ r.entries.map (·.field.places) := by
    rw [← places_afterWrite (r.write? op), ← entries_apply hproper op]
    exact List.mem_map_of_mem hentry
  obtain ⟨old, hold, heq⟩ := List.mem_map.mp hplaces
  rw [← heq]
  exact h old hold

/-! ## Fields that are written -/

theorem setField_eq_ok (hproper : r.Proper) {name : String} {value : Json} {next : Registry}
    {written : Entry} (h : r.setField name value = .ok (next, written)) :
    ∃ entry ∈ r.entries, written.field.places = entry.field.places := by
  simp only [setField, bind, Except.bind] at h
  split at h
  · cases h
  · split at h
    · split at h
      · cases h
      · next entry hentry =>
          have hmem := (entry?_eq_ok hentry).1
          rw [set_eq (hproper.decimal entry hmem)] at h
          cases h
          exact ⟨entry, hmem, rfl⟩
    · cases h

theorem writeField_same (hproper : r.Proper) {entry : Entry} (hentry : entry ∈ r.entries) :
    r.writeField entry.serial entry.field = r :=
  congrArg (fun entries => { r with entries }) (writeField_own hproper hentry)

/-- Text that a field does not take leaves the registry as it was. -/
theorem submitText_eq_ok (hproper : r.Proper) {name : String} {text : Text} {next : Registry}
    {written : Entry} {accepted : Bool}
    (h : r.submitText name text = .ok (next, written, accepted)) :
    (∃ entry ∈ r.entries, written.field.places = entry.field.places) ∧
      (accepted = false → next = r) := by
  simp only [submitText, bind, Except.bind, Field.submit] at h
  cases hentry : r.entry? name with
  | error fault =>
      rw [hentry] at h
      cases h
  | ok entry =>
      have hmem := (entry?_eq_ok hentry).1
      simp only [hentry] at h
      cases htyped : Field.typedValue? text with
      | none =>
          rw [htyped] at h
          cases h
          exact ⟨⟨entry, hmem, rfl⟩, fun _ => writeField_same hproper hmem⟩
      | some x =>
          simp only [htyped, set_eq (hproper.decimal entry hmem)] at h
          cases h
          exact ⟨⟨entry, hmem, rfl⟩, fun hrefused => Bool.noConfusion hrefused⟩

/-! ## Faults without an opening -/

theorem apply_of_fault? (h : InUse r)
    (shown : ∀ t ∈ r.tickets, Display.Accepts t.session.places) {op : Operation} {fault : Fault}
    (hfault : r.fault? op = some fault) (hop : ∀ name places, op ≠ .openSession name places) :
    r.apply op = r := by
  have hfailed := failed_apply h hfault
  generalize r.apply op = next at hfailed ⊢
  cases hfailed with
  | unchanged => rfl
  | rejected => exact absurd rfl (hop _ _)
  | cutShort registered _ unshown =>
      exact absurd (Display.accepts_iff.mp (shown _ registered)) (Nat.not_le_of_gt unshown)

end Registry

namespace Web

open Registry

/-! ## What a request asks for -/

/-- The operation that the body of a request to a field asks for. Typed text goes before a
value. -/
def fieldOperation? (name : String) (body : Json) : Option Operation :=
  match find? "text" body with
  | .ok (some typed) => some (.submitText name typed.spelled.toText)
  | .ok none =>
      match find? "value" body with
      | .ok (some value) => some (.setField name value)
      | _ => none
  | .error _ => none

theorem fieldOperation?_cases {name : String} {body : Json} {op : Operation}
    (hop : fieldOperation? name body = some op) :
    (∃ typed, find? "text" body = .ok (some typed) ∧ op = .submitText name typed.spelled.toText) ∨
      find? "text" body = .ok none ∧
        ∃ value, find? "value" body = .ok (some value) ∧ op = .setField name value := by
  unfold fieldOperation? at hop
  split at hop
  · next typed htext => exact .inl ⟨typed, htext, (Option.some.inj hop).symm⟩
  · next htext =>
      split at hop
      · next value hvalue => exact .inr ⟨htext, value, hvalue, (Option.some.inj hop).symm⟩
      · cases hop
  · cases hop

/-- The operation of the registry that a route carries out, if it gets that far. -/
def operation? (body : Except Problem Json) : Route → Option Operation
  | .putField name => body.toOption.bind (fieldOperation? name)
  | .openSession => (body.bind sessionWish).toOption.map fun (name, places) =>
      .openSession name places
  | .pressKeys id => (body.bind keysOf).toOption.map (.press id)
  | .finishSession id => some (.finish id)
  | .cancelSession id => some (.cancel id)
  | .about | .listFields | .getField _ | .getSession _ | .getTape _ | .evaluate | .file => none

def Request.operation? (request : Request) : Option Operation :=
  match request.leadsTo with
  | .route route => Web.operation? request.json route
  | _ => none

theorem Request.operation?_eq_some {request : Request} {op : Operation}
    (hop : request.operation? = some op) :
    ∃ route, request.leadsTo = .route route ∧ Web.operation? request.json route = some op := by
  unfold Request.operation? at hop
  split at hop
  · next route hroute => exact ⟨route, hroute, hop⟩
  · cases hop

variable {r : Registry}

def carry (r : Registry) (op : Option Operation) : Registry := op.elim r r.apply

theorem putField_fst (r : Registry) (name : String) (body : Json) :
    (putField r name body).1 = carry r (fieldOperation? name body) := by
  unfold putField fieldOperation?
  cases find? "text" body with
  | error p => rfl
  | ok typed =>
      cases typed with
      | some typed =>
          simp only [carry, Option.elim_some, apply]
          cases r.submitText name typed.spelled.toText <;> rfl
      | none =>
          simp only
          cases find? "value" body with
          | error p => rfl
          | ok value =>
              cases value with
              | none => rfl
              | some value =>
                  simp only [carry, Option.elim_some, apply]
                  cases r.setField name value <;> rfl

theorem serve_fst (r : Registry) (body : Except Problem Json) (route : Route) :
    (serve r body route).1 = carry r (operation? body route) := by
  cases route with
  | putField name =>
      cases body with
      | error p => rfl
      | ok value => exact putField_fst r name value
  | openSession =>
      cases body with
      | error p => rfl
      | ok value =>
          simp only [serve, withBody, openSession, operation?, Except.bind]
          cases sessionWish value <;> rfl
  | pressKeys id =>
      cases body with
      | error p => rfl
      | ok value =>
          simp only [serve, withBody, pressKeys, operation?, Except.bind]
          cases keysOf value <;> rfl
  | finishSession id =>
      simp only [serve, finishSession, operation?, carry, Option.elim_some, apply]
      cases r.finish id <;> rfl
  | cancelSession id =>
      simp only [serve, cancelSession, operation?, carry, Option.elim_some, apply]
      cases r.cancel id <;> rfl
  | about | listFields | getField | getSession | getTape | evaluate | file => rfl

/-- A request leaves the registry that the operation it asks for leaves. -/
theorem answer_fst (r : Registry) (request : Request) :
    (answer r request).1 = carry r request.operation? := by
  simp only [answer, answerTarget, Request.operation?]
  cases request.leadsTo with
  | route route => exact serve_fst r request.json route
  | options | redirected | noSocket | noHost | wrongMethod | notFound => rfl

/-! ## Registries of a server -/

/-- A registry that a server may hold: its fields are set up so that they can be shown, and then
operations are carried out and requests answered. -/
inductive Serving : Registry → Prop where
  | started {r : Registry} (setUp : SetUp r) (presentable : r.Presentable) : Serving r
  | operated {r : Registry} (before : Serving r) (op : Operation) : Serving (r.apply op)
  | answered {r : Registry} (before : Serving r) (request : Request) :
      Serving (answer r request).1

theorem Serving.inUse_and_presentable (h : Serving r) : InUse r ∧ r.Presentable := by
  have hstep : ∀ {r : Registry}, InUse r ∧ r.Presentable → ∀ op,
      InUse (r.apply op) ∧ (r.apply op).Presentable :=
    fun h op => ⟨h.1.apply op, h.2.apply h.1.issued.toProper op⟩
  induction h with
  | started setUp presentable => exact ⟨setUp.inUse, presentable⟩
  | operated _ op ih => exact hstep ih op
  | answered _ request ih =>
      rw [answer_fst]
      cases request.operation? with
      | none => exact ih
      | some op => exact hstep ih op

theorem Serving.run {r : Registry} (h : Serving r) (ops : List Operation) :
    Serving (r.run ops) := by
  induction ops generalizing r with
  | nil => exact h
  | cons op rest ih => exact ih (h.operated op)

/-- The fields that the product ships with, all zero. -/
def shipped : Registry :=
  Product.fields.foldl (fun r (name, label, places) =>
    r.take (.addField name (some label) places (.float .zero)))
    (.empty Product.idleSeconds Product.capacity)

theorem setUp_addFields {r : Registry} (h : SetUp r) (fields : List (String × String × Nat)) :
    SetUp (fields.foldl (fun r (name, label, places) =>
      r.take (.addField name (some label) places (.float .zero))) r) := by
  induction fields generalizing r with
  | nil => exact h
  | cons field rest ih =>
      obtain ⟨name, label, places⟩ := field
      refine ih ?_
      simp only [take]
      cases hadd : r.addField name (some label) places (.float .zero) with
      | error fault => exact h
      | ok next => exact h.added hadd

theorem serving_shipped : Serving shipped := by
  have hplaces : ∀ entry ∈ shipped.entries, entry.field.places ≤ Display.maxShownPlaces := by
    decide +kernel
  exact .started (setUp_addFields (.empty _ _) Product.fields) fun entry hentry =>
    Display.accepts_iff.mpr (hplaces entry hentry)

/-! ## Answers -/

def Response.IsSuccess (response : Response) : Prop :=
  200 ≤ response.status ∧ response.status < 300

theorem isSuccess_ofResult {status : Nat} (h : 200 ≤ status ∧ status < 300)
    {result : Except Problem Json} (hresult : ∃ data, result = .ok data) :
    (Response.ofResult status result).IsSuccess := by
  obtain ⟨data, rfl⟩ := hresult
  exact h

/-- An answer without its content tells of success or failure as before. -/
theorem isSuccess_answer (r : Registry) {request : Request} {route : Route}
    (hroute : request.leadsTo = .route route) :
    (answer r request).2.IsSuccess ↔ (serve r request.json route).2.IsSuccess := by
  have hstatus : (answer r request).2.status = (serve r request.json route).2.status := by
    simp only [answer, answerTarget, hroute]
    split <;> rfl
  unfold Response.IsSuccess
  rw [hstatus]

theorem exists_of_reason? {α : Type} {x : Except Fault α} (h : reason? x = none) :
    ∃ a, x = .ok a := by
  cases x with
  | ok a => exact ⟨a, rfl⟩
  | error fault => cases h

theorem exists_lift_report {r : Registry} (h : r.Presentable) {written : Entry}
    (hwritten : ∃ entry ∈ r.entries, written.field.places = entry.field.places) :
    ∃ report, lift written.report = .ok report := by
  obtain ⟨entry, hentry, hplaces⟩ := hwritten
  obtain ⟨report, hreport⟩ := Entry.exists_report (hplaces.symm ▸ h entry hentry)
  exact ⟨report, by rw [hreport]; rfl⟩

/-- A field that was written can be reported; typed text that it did not take was not written. -/
theorem putField_answered (hproper : r.Proper) (hpresentable : r.Presentable) {name : String}
    {body : Json} {op : Operation} (hop : fieldOperation? name body = some op)
    (hfault : r.fault? op = none) :
    (∃ data, (putField r name body).2 = .ok data) ∨ (putField r name body).1 = r := by
  unfold putField
  rcases fieldOperation?_cases hop with ⟨typed, htext, rfl⟩ | ⟨htext, value, hvalue, rfl⟩
  · obtain ⟨⟨next, written, accepted⟩, hsubmit⟩ := exists_of_reason? hfault
    obtain ⟨hwritten, hrefused⟩ := submitText_eq_ok hproper hsubmit
    simp only [htext, hsubmit]
    cases accepted with
    | true => exact .inl (exists_lift_report hpresentable hwritten)
    | false => exact .inr (hrefused rfl)
  · obtain ⟨⟨next, written⟩, hset⟩ := exists_of_reason? hfault
    simp only [htext, hvalue, hset]
    exact .inl (exists_lift_report hpresentable (setField_eq_ok hproper hset))

/-- The field of a finished session is there to be told of. -/
theorem finishSession_answered (h : InUse r) {id : String} (hfault : r.fault? (.finish id) = none) :
    ∃ data, (finishSession r id).2 = .ok data := by
  obtain ⟨⟨next, t⟩, hfinish⟩ := exists_of_reason? hfault
  rcases registered_or_gone r id with ⟨t, ht, rfl⟩ | hid
  · have hnext := finish_registered h.issued.toProper h.orderly ht
    have hname : t.finished.fieldName ∈
        (r.afterWrite (r.write? (.finish t.id))).map (·.field.name) := by
      rw [names_afterWrite]
      exact h.orderly.named t ht
    obtain ⟨entry, hentry⟩ := @entry?_of_name { r.depart t.finished with
      entries := r.afterWrite (r.write? (.finish t.id)) } _ hname
    simp only [finishSession, hnext, hentry]
    exact ⟨_, rfl⟩
  · rw [finish_gone hid] at hfinish
    cases hfinish

/-- A request whose operation does not fail is answered with success, or has changed nothing. -/
theorem serve_answered (h : InUse r) (hpresentable : r.Presentable) {body : Except Problem Json}
    {route : Route} {op : Operation} (hop : operation? body route = some op)
    (hfault : r.fault? op = none) :
    (serve r body route).2.IsSuccess ∨ (serve r body route).1 = r := by
  have hfound : 200 ≤ 200 ∧ 200 < 300 := by decide
  have hmade : 200 ≤ 201 ∧ 201 < 300 := by decide
  cases route with
  | putField name =>
      obtain ⟨value, hvalue, hop⟩ := Option.bind_eq_some_iff.mp hop
      cases body with
      | error p => cases hvalue
      | ok body =>
          cases hvalue
          exact (putField_answered h.issued.toProper hpresentable hop hfault).imp_left
            (isSuccess_ofResult hfound)
  | openSession =>
      obtain ⟨⟨name, places⟩, hwish, rfl⟩ := Option.map_eq_some_iff.mp hop
      cases body with
      | error p => cases hwish
      | ok value =>
          obtain ⟨t, ht⟩ := exists_of_reason? hfault
          have hwish : sessionWish value = .ok (name, places) := eq_ok_of_toOption hwish
          simp only [serve, withBody, openSession, hwish, ht]
          exact .inl (isSuccess_ofResult hmade ⟨_, rfl⟩)
  | pressKeys id =>
      obtain ⟨keys, hkeys, rfl⟩ := Option.map_eq_some_iff.mp hop
      cases body with
      | error p => cases hkeys
      | ok value =>
          obtain ⟨t, ht⟩ := exists_of_reason? hfault
          have hkeys : keysOf value = .ok keys := eq_ok_of_toOption hkeys
          simp only [serve, withBody, pressKeys, hkeys, ht]
          exact .inl (isSuccess_ofResult hfound ⟨_, rfl⟩)
  | finishSession id =>
      cases hop
      exact .inl (isSuccess_ofResult hfound (finishSession_answered h hfault))
  | cancelSession id =>
      cases hop
      obtain ⟨⟨next, t⟩, hcancel⟩ := exists_of_reason? hfault
      simp only [serve, cancelSession, hcancel]
      exact .inl (isSuccess_ofResult hfound ⟨_, rfl⟩)
  | about | listFields | getField | getSession | getTape | evaluate | file => cases hop

/-! ## Failures -/

theorem operation?_ne_openSession {body : Except Problem Json} {route : Route} {op : Operation}
    (hop : operation? body route = some op) (hroute : route ≠ .openSession) (name : String)
    (places : Option Int) : op ≠ .openSession name places := by
  rintro rfl
  cases route with
  | openSession => exact hroute rfl
  | putField field =>
      obtain ⟨value, -, hop⟩ := Option.bind_eq_some_iff.mp hop
      rcases fieldOperation?_cases hop with ⟨_, _, hsame⟩ | ⟨_, _, _, hsame⟩ <;> cases hsame
  | pressKeys id =>
      obtain ⟨keys, -, hop⟩ := Option.map_eq_some_iff.mp hop
      cases hop
  | finishSession | cancelSession | about | listFields | getField | getSession | getTape | evaluate
    | file => cases hop

/-- A request to a route that opens no session and whose answer is no success has changed nothing:
no field, no session, no number, no reading of the clock. -/
theorem answer_failed_keeps {r : Registry} (serving : Serving r)
    (shown : ∀ t ∈ r.tickets, Display.Accepts t.session.places) {request : Request}
    (elsewhere : request.leadsTo ≠ .route .openSession)
    (failed : ¬(answer r request).2.IsSuccess) : (answer r request).1 = r := by
  obtain ⟨inUse, hpresentable⟩ := serving.inUse_and_presentable
  rw [answer_fst]
  cases hop : request.operation? with
  | none => rfl
  | some op =>
      obtain ⟨route, hroute, hop⟩ := Request.operation?_eq_some hop
      have hother : route ≠ .openSession := fun heq => elsewhere (heq ▸ hroute)
      -- A fault has changed nothing, and without a fault the answer tells of success.
      cases hfault : r.fault? op with
      | some fault =>
          exact apply_of_fault? inUse shown hfault (operation?_ne_openSession hop hother)
      | none =>
          have hkept := serve_answered inUse hpresentable hop hfault
          rw [serve_fst, hop] at hkept
          exact hkept.resolve_left fun hsuccess => failed ((isSuccess_answer r hroute).mpr hsuccess)

def pressing (id body : String) : Request where
  method := "POST"
  headOnly := false
  isSocket := false
  isWellNamed := true
  path := ("api/sessions/" ++ id ++ "/actions").toList
  contentType := "application/json"
  body := some body

/-- A known key before one that no calculator has. -/
theorem answer_failed_keeps_unknown_key :
    ∃ r, Serving r ∧ r.tickets.map (·.session.display) = ["1".toList] ∧
      (answer r (pressing "s1" "\x7b\"keys\": [\"2\", \"x\"]\x7d")).2.status = 400 ∧
      (answer r (pressing "s1" "\x7b\"keys\": [\"2\", \"x\"]\x7d")).1 = r := by
  have serving := serving_shipped.run [.openSession "tips" none, .press "s1" ["1"]]
  have hplaces : ∀ t ∈ (shipped.run [.openSession "tips" none, .press "s1" ["1"]]).tickets,
      t.session.places ≤ Display.maxShownPlaces := by
    decide +kernel
  have hstatus : (answer (shipped.run [.openSession "tips" none, .press "s1" ["1"]])
      (pressing "s1" "\x7b\"keys\": [\"2\", \"x\"]\x7d")).2.status = 400 := by
    decide +kernel
  refine ⟨_, serving, by decide +kernel, hstatus, answer_failed_keeps serving ?_ ?_ ?_⟩
  · exact fun t ht => Display.accepts_iff.mpr (hplaces t ht)
  · decide +kernel
  · unfold Response.IsSuccess
    rw [hstatus]
    decide

end Web

end FieldCalc
