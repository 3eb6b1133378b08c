import FieldCalc.Proofs.Registry.Tickets

/-!
# Calls to a host

A call adds a field or carries out an operation at some readings of the clock. Opening a session
reads the clock twice, once for the sessions that are idle and once for the new one, and the two
readings may differ in any way. Whatever is called, the fields stay proper and the sessions
orderly, a session leaves by being finished or cancelled, and one that has left stays away.
-/

namespace FieldCalc

/-- The ticket of a session that was committed. -/
def Ticket.finished (t : Ticket) : Ticket :=
  { t with session := { t.session with state := .committed t.session.resultValue } }

namespace Registry

variable {r : Registry}

/-! ## Operations on sessions -/

theorem press_unknownKey {keys : List LooseText} {fault : Fault}
    (hkeys : Action.ofKeys keys = .error fault) (id : String) :
    r.press id keys = (r, .error fault) := by
  simp only [press, hkeys]

theorem press_gone {keys : List LooseText} {actions : List Action}
    (hkeys : Action.ofKeys keys = .ok actions) {id : String} (hid : ∀ t ∈ r.tickets, t.id ≠ id) :
    r.press id keys = (r, .error (.unknownSession id)) := by
  simp only [press, hkeys, ticket?_eq_error hid]

theorem press_registered (h : r.Orderly) {keys : List LooseText} {actions : List Action}
    (hkeys : Action.ofKeys keys = .ok actions) {t : Ticket} (ht : t ∈ r.tickets) :
    r.press t.id keys = (r.update (t.pressed actions r.now),
      match (t.session.performAll actions).fault with
      | some fault => .error fault
      | none => .ok (t.pressed actions r.now)) := by
  simp only [press, hkeys, ticket?_of_mem h ht]
  rfl

theorem finish_gone {id : String} (hid : ∀ t ∈ r.tickets, t.id ≠ id) :
    r.finish id = .error (.unknownSession id) := by
  simp only [finish, ticket?_eq_error hid]
  rfl

theorem write?_finish (h : r.Orderly) {t : Ticket} (ht : t ∈ r.tickets) :
    r.write? (.finish t.id) =
      (r.entries.find? (·.serial == t.serial)).map (·, t.session.resultValue) := by
  simp only [write?, ticket?_of_mem h ht, h.isOpen t ht, if_true]

/-- Finishing a registered session always succeeds. -/
theorem finish_registered (hproper : r.Proper) (h : r.Orderly) {t : Ticket} (ht : t ∈ r.tickets) :
    r.finish t.id = .ok ({ r.depart t.finished with
      entries := r.afterWrite (r.write? (.finish t.id)) }, t.finished) := by
  have hwrite := write?_finish h ht
  simp only [finish, ticket?_of_mem h ht, Session.commit_of_open (h.isOpen t ht), bind, Except.bind]
  cases hentry : r.entries.find? (·.serial == t.serial) with
  | none =>
      simp only [hentry, Option.map_none] at hwrite
      rw [hwrite]
      rfl
  | some entry =>
      have hmem := List.mem_of_find?_eq_some hentry
      have hserial : entry.serial = t.serial := by simpa using List.find?_some hentry
      simp only [hentry, Option.map_some] at hwrite
      rw [hwrite, afterWrite, ← writeField_entries hproper hmem, hserial]
      simp only [set_eq (hproper.decimal entry hmem)]
      rfl

theorem cancel_gone {id : String} (hid : ∀ t ∈ r.tickets, t.id ≠ id) :
    r.cancel id = .error (.unknownSession id) := by
  simp only [cancel, ticket?_eq_error hid]
  rfl

/-- Cancelling a registered session always succeeds. -/
theorem cancel_registered (h : r.Orderly) {t : Ticket} (ht : t ∈ r.tickets) :
    r.cancel t.id = .ok (r.depart t.abandoned, t.abandoned) := by
  simp only [cancel, ticket?_of_mem h ht, bind, Except.bind, Session.cancel, h.isOpen t ht,
    if_true]
  rfl

theorem registered_or_gone (r : Registry) (id : String) :
    (∃ t ∈ r.tickets, t.id = id) ∨ ∀ t ∈ r.tickets, t.id ≠ id := by
  by_cases hid : ∃ t ∈ r.tickets, t.id = id
  · exact .inl hid
  · exact .inr fun t ht heq => hid ⟨t, ht, heq⟩

/-! ## Opening -/

/-- Opens a session, with one reading of the clock for idle sessions and one for the new one. -/
def openSessionAt (r : Registry) (first second : Int) (name : String) (places : Option Int) :
    Registry × Except Fault Ticket :=
  match r.entry? name with
  | .error fault => (r, .error fault)
  | .ok entry =>
      let roomy := (r.setClock first).cleared
      match sessionOn entry.field places with
      | .error fault => (roomy, .error fault)
      | .ok session =>
          let (next, t) := (roomy.setClock second).enrol entry session
          (next, .ok t)

theorem now_cleared (h : r.Orderly) : r.cleared.now = r.now := by
  simp only [cleared_eq h, expire_eq, dismiss_eq]

theorem registered_cleared (h : r.Orderly) : r.cleared.registered = r.registered := by
  simp only [cleared_eq h, expire_eq, dismiss_eq]

theorem opened_cleared (h : r.Orderly) : r.cleared.opened = r.opened := by
  simp only [cleared_eq h, expire_eq, dismiss_eq]

/-- A clock that stands still gives the same reading twice. -/
theorem openSession_eq (h : r.Orderly) (name : String) (places : Option Int) :
    r.openSession name places = r.openSessionAt r.now r.now name places := by
  have hnow : r.cleared.setClock r.now = r.cleared := by
    conv_lhs => rw [← now_cleared h]
    rfl
  have hstill : r.setClock r.now = r := rfl
  simp only [openSessionAt, hstill, hnow]
  rfl

theorem sessionOn_eq_ok {f : Field} {places : Option Int} {s : Session}
    (h : sessionOn f places = .ok s) :
    ∃ precision : Nat, (precision : Int) = places.getD f.places ∧
      Session.opened f.value precision = .ok s := by
  cases places with
  | none => exact ⟨f.places, rfl, h⟩
  | some n =>
      simp only [sessionOn, bind, Except.bind, Display.checkPlaces] at h
      by_cases hn : n < 0
      · rw [if_pos hn] at h
        cases h
      · rw [if_neg hn] at h
        refine ⟨n.toNat, ?_, h⟩
        rw [Option.getD_some]
        omega

theorem isOpen_sessionOn {f : Field} {places : Option Int} {s : Session}
    (h : sessionOn f places = .ok s) : s.isOpen = true := by
  obtain ⟨precision, -, hopened⟩ := sessionOn_eq_ok h
  exact Session.isOpen_opened hopened

theorem Orderly.openedAt (h : r.Orderly) (first second : Int) {name : String} {entry : Entry}
    (field : r.entry? name = .ok entry) {places : Option Int} {session : Session}
    (start : sessionOn entry.field places = .ok session) :
    (((r.setClock first).cleared.setClock second).enrol entry session).1.Orderly := by
  have hclock := h.setClock first
  refine (hclock.cleared.setClock second).enrol (surplus_cleared hclock) ?_
    (isOpen_sessionOn start)
  have hentries : ((r.setClock first).cleared.setClock second).entries = r.entries :=
    entries_cleared (r.setClock first)
  rw [hentries]
  exact (entry?_eq_ok field).1

/-! ## One call -/

inductive Call where
  | addField (name : String) (label : Option String) (places : Int) (value : Json)
  | timed (first second : Int) (op : Operation)

/-- The registry that a call leaves. -/
def take (r : Registry) : Call → Registry
  | .addField name label places value => r.settled (r.addField name label places value)
  | .timed first second (.openSession name places) => (r.openSessionAt first second name places).1
  | .timed first _ op => (r.setClock first).apply op

/-- All that a call can do. -/
inductive Turn (r : Registry) : Call → Registry → Prop where
  | added {name : String} {label : Option String} {places : Int} {value : Json}
      {next : Registry × Entry} (added : r.addField name label places value = .ok next) :
      Turn r (.addField name label places value) next.1
  | notAdded {name : String} {label : Option String} {places : Int} {value : Json} :
      Turn r (.addField name label places value) r
  /-- No session has changed: fields were written, a call was refused, or the clock moved. -/
  | quiet {first second now : Int} {op : Operation} {written : Option (Entry × Binary64)}
      (unpressed : ∀ t ∈ r.tickets, ∀ keys actions, op = .press t.id keys →
        Action.ofKeys keys ≠ .ok actions) :
      Turn r (.timed first second op) { r with entries := r.afterWrite written, now }
  | cleared {first second : Int} {name : String} {places : Option Int} :
      Turn r (.timed first second (.openSession name places)) (r.setClock first).cleared
  | opened {first second : Int} {name : String} {places : Option Int} {entry : Entry}
      {session : Session} (field : r.entry? name = .ok entry)
      (start : sessionOn entry.field places = .ok session) :
      Turn r (.timed first second (.openSession name places))
        (((r.setClock first).cleared.setClock second).enrol entry session).1
  | pressed {first second : Int} {t : Ticket} {keys : List LooseText} {actions : List Action}
      (registered : t ∈ r.tickets) (known : Action.ofKeys keys = .ok actions) :
      Turn r (.timed first second (.press t.id keys))
        ((r.setClock first).update (t.pressed actions first))
  | finished {first second : Int} {t : Ticket} {written : Option (Entry × Binary64)}
      (registered : t ∈ r.tickets) :
      Turn r (.timed first second (.finish t.id))
        { (r.setClock first).depart t.finished with entries := r.afterWrite written }
  | cancelled {first second : Int} {t : Ticket} (registered : t ∈ r.tickets) :
      Turn r (.timed first second (.cancel t.id)) ((r.setClock first).depart t.abandoned)
  | expired {first second : Int} : Turn r (.timed first second .expire) (r.setClock first).expire

private theorem Turn.refused {first second now : Int} {op : Operation}
    (unpressed : ∀ t ∈ r.tickets, ∀ keys actions, op = .press t.id keys →
      Action.ofKeys keys ≠ .ok actions) : Turn r (.timed first second op) (r.setClock now) :=
  show Turn r _ { r with entries := r.afterWrite none, now } from .quiet unpressed

private theorem turn_setField (hproper : r.Proper) (first second : Int) (name : String)
    (value : Json) :
    Turn r (.timed first second (.setField name value))
      ((r.setClock first).settled ((r.setClock first).setField name value)) := by
  have hentries := entries_setField (hproper.setClock first) name value
  have hframe : (r.setClock first).settled ((r.setClock first).setField name value) =
      { r.setClock first with entries :=
        ((r.setClock first).settled ((r.setClock first).setField name value)).entries } := by
    simp only [setField, bind, Except.bind]
    cases value.toNumber with
    | error fault => rfl
    | ok x =>
        simp only
        split
        · cases Registry.entry? (r.setClock first) name with
          | error fault => rfl
          | ok entry =>
              simp only
              cases entry.field.set x <;> rfl
        · rfl
  rw [hframe, hentries]
  refine .quiet ?_
  rintro t - keys actions ⟨⟩

private theorem turn_submitText (hproper : r.Proper) (first second : Int) (name : String)
    (text : Text) :
    Turn r (.timed first second (.submitText name text))
      ((r.setClock first).settled ((r.setClock first).submitText name text)) := by
  have hentries := entries_submitText (hproper.setClock first) name text
  have hframe : (r.setClock first).settled ((r.setClock first).submitText name text) =
      { r.setClock first with entries :=
        ((r.setClock first).settled ((r.setClock first).submitText name text)).entries } := by
    simp only [submitText, bind, Except.bind]
    cases Registry.entry? (r.setClock first) name with
    | error fault => rfl
    | ok entry =>
        simp only
        cases entry.field.submit text <;> rfl
  rw [hframe, hentries]
  refine .quiet ?_
  rintro t - keys actions ⟨⟩

private theorem turn_openSession (r : Registry) (first second : Int) (name : String)
    (places : Option Int) :
    Turn r (.timed first second (.openSession name places))
      (r.openSessionAt first second name places).1 := by
  unfold openSessionAt
  split
  · refine Turn.refused ?_
    rintro t - keys actions ⟨⟩
  · next entry field =>
      simp only
      split
      · exact .cleared
      · next session start => exact .opened field start

private theorem turn_press (h : r.Orderly) (first second : Int) (id : String)
    (keys : List LooseText) :
    Turn r (.timed first second (.press id keys)) ((r.setClock first).press id keys).1 := by
  cases hkeys : Action.ofKeys keys with
  | error fault =>
      rw [press_unknownKey hkeys]
      refine Turn.refused ?_
      rintro t - keys' actions ⟨⟩
      rw [hkeys]
      exact nofun
  | ok actions =>
      rcases registered_or_gone r id with ⟨t, ht, rfl⟩ | hid
      · rw [press_registered (h.setClock first) hkeys ht]
        exact .pressed ht hkeys
      · rw [press_gone hkeys (show ∀ t ∈ (r.setClock first).tickets, t.id ≠ id from hid)]
        refine Turn.refused ?_
        rintro t ht keys' actions' ⟨⟩
        exact absurd rfl (hid t ht)

private theorem turn_finish (hproper : r.Proper) (h : r.Orderly) (first second : Int)
    (id : String) :
    Turn r (.timed first second (.finish id))
      ((r.setClock first).settled ((r.setClock first).finish id)) := by
  rcases registered_or_gone r id with ⟨t, ht, rfl⟩ | hid
  · rw [finish_registered (hproper.setClock first) (h.setClock first) ht]
    exact .finished ht
  · rw [finish_gone (show ∀ t ∈ (r.setClock first).tickets, t.id ≠ id from hid)]
    refine Turn.refused ?_
    rintro t - keys actions ⟨⟩

private theorem turn_cancel (h : r.Orderly) (first second : Int) (id : String) :
    Turn r (.timed first second (.cancel id))
      ((r.setClock first).settled ((r.setClock first).cancel id)) := by
  rcases registered_or_gone r id with ⟨t, ht, rfl⟩ | hid
  · rw [cancel_registered (h.setClock first) ht]
    exact .cancelled ht
  · rw [cancel_gone (show ∀ t ∈ (r.setClock first).tickets, t.id ≠ id from hid)]
    refine Turn.refused ?_
    rintro t - keys actions ⟨⟩

theorem turn_take (hproper : r.Proper) (h : r.Orderly) (call : Call) :
    Turn r call (r.take call) := by
  cases call with
  | addField name label places value =>
      simp only [take]
      cases hadd : r.addField name label places value with
      | error fault => exact .notAdded
      | ok next => exact .added hadd
  | timed first second op =>
      cases op with
      | setField name value => exact turn_setField hproper first second name value
      | submitText name text => exact turn_submitText hproper first second name text
      | openSession name places => exact turn_openSession r first second name places
      | press id keys => exact turn_press h first second id keys
      | finish id => exact turn_finish hproper h first second id
      | cancel id => exact turn_cancel h first second id
      | expire => exact .expired
      | setClock now =>
          refine Turn.refused ?_
          rintro t - keys actions ⟨⟩

/-! ## What every call keeps -/

theorem mem_names_putEntry {entry : Entry} {entries : List Entry} {name : String}
    (h : name ∈ entries.map (·.field.name)) :
    name ∈ (putEntry entry entries).map (·.field.name) := by
  induction entries with
  | nil => cases h
  | cons first rest ih =>
      unfold putEntry
      rw [List.map_cons, List.mem_cons] at h
      split
      · next hsame =>
          rw [List.map_cons, List.mem_cons, ← hsame]
          exact h
      · rw [List.map_cons, List.mem_cons]
        exact h.imp_right ih

variable {call : Call} {next : Registry}

theorem Orderly.afterWrite (h : r.Orderly) (written : Option (Entry × Binary64)) :
    Orderly { r with entries := r.afterWrite written } := by
  refine h.withEntries fun name hname => ?_
  rw [names_afterWrite]
  exact hname

theorem Issued.afterWrite (h : r.Issued) (written : Option (Entry × Binary64)) :
    Issued { r with entries := r.afterWrite written } := by
  refine ⟨⟨?_, decimal_afterWrite h.decimal written⟩, fun entry hentry => ?_⟩
  · have hserials := h.serials
    rw [← serials_afterWrite r written] at hserials
    exact hserials
  · have hmem : entry.serial ∈ (r.afterWrite written).map (·.serial) := List.mem_map_of_mem hentry
    rw [serials_afterWrite] at hmem
    obtain ⟨old, hold, heq⟩ := List.mem_map.mp hmem
    exact heq ▸ h.serial_lt old hold

theorem Turn.orderly (turn : Turn r call next) (h : r.Orderly) : next.Orderly := by
  cases turn with
  | @added _ _ _ _ next hadd =>
      obtain ⟨-, -, hnext⟩ := addField_eq_ok hadd
      have hentries : Orderly { r with entries := putEntry next.2 r.entries } :=
        h.withEntries fun name hname => mem_names_putEntry hname
      rw [hnext]
      exact ⟨hentries.numbers, hentries.isOpen, hentries.closed, hentries.named, hentries.capped⟩
  | notAdded => exact h
  | @quiet _ _ now _ written _ => exact (h.afterWrite written).setClock now
  | @cleared first => exact (h.setClock first).cleared
  | @opened first second _ _ _ _ field start => exact h.openedAt first second field start
  | @pressed first _ t _ actions registered known =>
      exact (h.setClock first).update registered rfl
        (Session.isOpen_performAll (h.isOpen t registered) actions)
  | @finished first _ t written registered =>
      have hgone : t.finished.number = t.number := rfl
      exact ((h.setClock first).depart registered hgone rfl).afterWrite written
  | @cancelled first _ t registered =>
      exact (h.setClock first).depart_abandoned registered
  | @expired first => exact (h.setClock first).expire

theorem Issued.of_eq (h : r.Issued) (hentries : next.entries = r.entries)
    (hregistered : next.registered = r.registered) : next.Issued :=
  ⟨⟨hentries ▸ h.serials, hentries ▸ h.decimal⟩, hentries ▸ hregistered ▸ h.serial_lt⟩

theorem Turn.issued (turn : Turn r call next) (horderly : r.Orderly) (h : r.Issued) :
    next.Issued := by
  have hcleared : ∀ first, (r.setClock first).cleared.Issued := fun first =>
    h.of_eq (entries_cleared (r.setClock first)) (registered_cleared (horderly.setClock first))
  cases turn with
  | added hadd => exact h.added hadd
  | notAdded => exact h
  | @quiet _ _ _ _ written _ => exact (h.afterWrite written).of_eq rfl rfl
  | @cleared first => exact hcleared first
  | @opened first => exact (hcleared first).of_eq rfl rfl
  | pressed | cancelled => exact h.of_eq rfl rfl
  | @finished _ _ _ written => exact (h.afterWrite written).of_eq rfl rfl
  | @expired first => exact h.of_eq (entries_expire (r.setClock first)) (by
      simp only [expire_eq, dismiss_eq]
      rfl)

/-- A session is registered after a call because it was and keys were not pressed on it, or keys
were, or it was opened. -/
inductive Present (r : Registry) : Call → Ticket → Prop where
  | kept {call : Call} {t : Ticket} (registered : t ∈ r.tickets)
      (unpressed : ∀ first second keys actions, call = .timed first second (.press t.id keys) →
        Action.ofKeys keys ≠ .ok actions) : Present r call t
  | pressed {first second : Int} {t : Ticket} {keys : List LooseText} {actions : List Action}
      (registered : t ∈ r.tickets) (known : Action.ofKeys keys = .ok actions) :
      Present r (.timed first second (.press t.id keys)) (t.pressed actions first)
  | opened {first second : Int} {name : String} {places : Option Int} {entry : Entry}
      {session : Session} (field : r.entry? name = .ok entry)
      (start : sessionOn entry.field places = .ok session) :
      Present r (.timed first second (.openSession name places))
        ⟨r.opened + 1, entry.field.name, entry.serial, session, .empty, second⟩

theorem Turn.present (turn : Turn r call next) (h : r.Orderly) {t : Ticket}
    (ht : t ∈ next.tickets) : Present r call t := by
  have hcleared : ∀ {first : Int}, t ∈ (r.setClock first).cleared.tickets → t ∈ r.tickets := by
    intro first hmem
    rw [cleared_eq_dismiss (h.setClock first)] at hmem
    exact (mem_tickets_dismiss.mp hmem).1
  cases turn with
  | added hadd =>
      obtain ⟨-, -, hnext⟩ := addField_eq_ok hadd
      rw [hnext] at ht
      exact .kept ht nofun
  | notAdded => exact .kept ht nofun
  | quiet unpressed =>
      refine .kept ht fun _ _ keys actions heq => ?_
      cases heq
      exact unpressed t ht keys actions rfl
  | cleared => exact .kept (hcleared ht) nofun
  | @opened first second name places entry session field start =>
      rcases List.mem_append.mp ht with hold | hnew
      · exact .kept (hcleared hold) nofun
      · have hnumber : ((r.setClock first).cleared.setClock second).opened = r.opened :=
          opened_cleared (h.setClock first)
        rw [List.mem_singleton.mp hnew, hnumber]
        exact .opened field start
  | @pressed first second u keys actions registered known =>
      rcases mem_tickets_update.mp ht with ⟨rfl, -⟩ | ⟨hold, hother⟩
      · exact .pressed registered known
      · refine .kept hold fun _ _ keys' actions' heq => ?_
        have hid : u.id = t.id := (Operation.press.inj (Call.timed.inj heq).2.2).1
        exact absurd (Ticket.id_inj.mp hid).symm hother
  | finished | cancelled => exact .kept (mem_tickets_depart.mp ht).1 nofun
  | expired => exact .kept (mem_tickets_dismiss.mp ht).1 nofun

/-- A session leaves the registry as it is when it is finished or cancelled. -/
inductive Leaving (r : Registry) : Call → Ticket → Prop where
  | finished {first second : Int} {t : Ticket} (registered : t ∈ r.tickets) :
      Leaving r (.timed first second (.finish t.id)) t.finished
  | cancelled {call : Call} {t : Ticket} (registered : t ∈ r.tickets) :
      Leaving r call t.abandoned

private theorem leaving_dismiss {leaving : List Ticket} (h : ∀ t ∈ leaving, t ∈ r.tickets)
    (now : Int) (call : Call) :
    ∃ gone, ((r.setClock now).dismiss leaving).departed = r.departed ++ gone ∧
      ∀ t ∈ gone, Leaving r call t := by
  refine ⟨leaving.map Ticket.abandoned, by rw [dismiss_eq]; rfl, fun t ht => ?_⟩
  obtain ⟨old, hold, rfl⟩ := List.mem_map.mp ht
  exact .cancelled (h old hold)

/-- Sessions that have left stay where they are, and those that leave come after them. -/
theorem Turn.departed (turn : Turn r call next) (h : r.Orderly) :
    ∃ gone, next.departed = r.departed ++ gone ∧ ∀ t ∈ gone, Leaving r call t := by
  have hstay : next.departed = r.departed →
      ∃ gone, next.departed = r.departed ++ gone ∧ ∀ t ∈ gone, Leaving r call t := by
    intro heq
    refine ⟨[], by rw [heq, List.append_nil], fun t ht => ?_⟩
    cases ht
  have hcleared : ∀ first, ∃ gone, (r.setClock first).cleared.departed = r.departed ++ gone ∧
      ∀ t ∈ gone, Leaving r call t := by
    intro first
    rw [cleared_eq_dismiss (h.setClock first)]
    have hmem : ∀ t ∈ (r.setClock first).crowd, t ∈ r.tickets := (r.setClock first).crowd_subset
    exact leaving_dismiss hmem first call
  cases turn with
  | added hadd =>
      obtain ⟨-, -, hnext⟩ := addField_eq_ok hadd
      exact hstay (by rw [hnext])
  | notAdded | quiet | pressed => exact hstay rfl
  | @cleared first => exact hcleared first
  | @opened first => exact hcleared first
  | @finished _ _ t _ registered =>
      refine ⟨[t.finished], rfl, fun u hu => ?_⟩
      rw [List.mem_singleton.mp hu]
      exact .finished registered
  | @cancelled _ _ t registered =>
      refine ⟨[t.abandoned], rfl, fun u hu => ?_⟩
      rw [List.mem_singleton.mp hu]
      exact .cancelled registered
  | @expired first =>
      have hmem : ∀ t ∈ (r.setClock first).idleTickets, t ∈ r.tickets :=
        fun t ht => (r.setClock first).idleTickets_sublist.subset ht
      exact leaving_dismiss hmem first _

theorem Turn.opened_le (turn : Turn r call next) (h : r.Orderly) : r.opened ≤ next.opened := by
  have hcleared : ∀ first, (r.setClock first).cleared.opened = r.opened := fun first =>
    opened_cleared (h.setClock first)
  cases turn with
  | added hadd =>
      obtain ⟨-, -, hnext⟩ := addField_eq_ok hadd
      exact Nat.le_of_eq (congrArg Registry.opened hnext).symm
  | notAdded | quiet | pressed | finished | cancelled => exact Nat.le_refl _
  | @cleared first => exact Nat.le_of_eq (hcleared first).symm
  | @opened first => exact Nat.le_succ_of_le (Nat.le_of_eq (hcleared first).symm)
  | expired =>
      rw [expire_eq, dismiss_eq]
      exact Nat.le_refl _

/-! ## Registries in use -/

/-- A registry that calls have led to. -/
inductive InUse : Registry → Prop where
  | empty (idleSeconds capacity : Int) : InUse (.empty idleSeconds capacity)
  | taken {r : Registry} (before : InUse r) (call : Call) : InUse (r.take call)

theorem orderly_empty (idleSeconds capacity : Int) : (empty idleSeconds capacity).Orderly where
  numbers := List.Perm.refl _
  isOpen t ht := by cases ht
  closed t ht := by cases ht
  named t ht := by cases ht
  capped := by
    simp only [Registry.empty, List.length_nil]
    omega

theorem InUse.issued_and_orderly (h : InUse r) : r.Issued ∧ r.Orderly := by
  induction h with
  | empty => exact ⟨issued_empty _ _, orderly_empty _ _⟩
  | taken _ call ih =>
      obtain ⟨hissued, horderly⟩ := ih
      have turn := turn_take hissued.toProper horderly call
      exact ⟨turn.issued horderly hissued, turn.orderly horderly⟩

theorem InUse.issued (h : InUse r) : r.Issued := h.issued_and_orderly.1

theorem InUse.orderly (h : InUse r) : r.Orderly := h.issued_and_orderly.2

/-- An operation of a host is a call while the clock stands still. -/
theorem apply_eq_take (h : r.Orderly) (op : Operation) :
    r.apply op = r.take (.timed r.now r.now op) := by
  cases op with
  | openSession name places =>
      simp only [apply, take]
      rw [openSession_eq h]
  | setField | submitText | press | finish | cancel | expire | setClock => rfl

theorem InUse.apply (h : InUse r) (op : Operation) : InUse (r.apply op) := by
  rw [apply_eq_take h.orderly]
  exact h.taken _

theorem InUse.run (h : InUse r) (ops : List Operation) : InUse (r.run ops) := by
  induction ops generalizing r with
  | nil => exact h
  | cons op rest ih => exact ih (h.apply op)

theorem SetUp.inUse (h : SetUp r) : InUse r := by
  induction h with
  | empty idleSeconds capacity => exact .empty idleSeconds capacity
  | @added r name label places value next _ hadd ih =>
      have htaken := ih.taken (.addField name label places value)
      rw [take, hadd] at htaken
      exact htaken

end Registry

end FieldCalc
