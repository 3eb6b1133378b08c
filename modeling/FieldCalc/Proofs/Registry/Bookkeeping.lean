import FieldCalc.Proofs.Registry.Dictionaries

/-!
# Three dictionaries keep one registry

The dictionaries of a registry hold what it knows of its sessions, under their ids. An operation
on the dictionaries tells what the same operation on the registry tells, fault or not, and leaves
the dictionaries of the registry that that one leaves.
-/

namespace FieldCalc

namespace Ticket

def sitting (t : Ticket) : Sitting := ⟨t.session, t.tape, t.serial⟩

/-- What is told of the session. -/
def told (t : Ticket) : Sitting × Option String := (t.sitting, some t.fieldName)

end Ticket

/-! ## Dictionaries of tickets -/

namespace Dict

variable {α : Type}

/-- What is recorded of tickets, under their ids. -/
def ofTickets (f : Ticket → α) (tickets : List Ticket) : Dict α :=
  ⟨tickets.map fun t => (t.id, f t)⟩

variable {f : Ticket → α} {tickets : List Ticket} {t new : Ticket}

theorem keys_ofTickets (f : Ticket → α) (tickets : List Ticket) :
    (ofTickets f tickets).keys = tickets.map Ticket.id := by
  simp [keys, ofTickets, Function.comp_def]

theorem get?_ofTickets (f : Ticket → α) (tickets : List Ticket) (id : String) :
    (ofTickets f tickets).get? id = (tickets.find? (·.id == id)).map f := by
  simp [get?, ofTickets, List.find?_map, Function.comp_def]

theorem erase_ofTickets (f : Ticket → α) (tickets : List Ticket) (t : Ticket) :
    (ofTickets f tickets).erase t.id = ofTickets f (tickets.filter (·.number != t.number)) := by
  simp only [erase, ofTickets, List.filter_map, Dict.mk.injEq]
  congr 1
  refine List.filter_congr fun u _ => ?_
  rw [Bool.eq_iff_iff]
  simp [Ticket.id_inj]

theorem put_ofTickets (f : Ticket → α) (ht : t ∈ tickets) (hnumber : new.number = t.number) :
    (ofTickets f tickets).put t.id (f new) =
      ofTickets f (tickets.map fun old => if old.number = new.number then new else old) := by
  have hid : t.id = new.id := Ticket.id_inj.mpr hnumber.symm
  have hmem : t.id ∈ (ofTickets f tickets).keys := by
    rw [keys_ofTickets]
    exact List.mem_map_of_mem ht
  rw [put, if_pos hmem]
  simp only [ofTickets, List.map_map, Dict.mk.injEq]
  refine List.map_congr_left fun old _ => ?_
  simp only [Function.comp_apply, hid, Ticket.id_inj]
  split
  · rfl
  · rfl

/-- What a new ticket does not change stays as it is. -/
theorem ofTickets_same (hunique : ∀ old ∈ tickets, old.number = new.number → f old = f new) :
    ofTickets f (tickets.map fun old => if old.number = new.number then new else old) =
      ofTickets f tickets := by
  simp only [ofTickets, List.map_map, Dict.mk.injEq]
  refine List.map_congr_left fun old hold => ?_
  simp only [Function.comp_apply]
  split
  · next heq => rw [hunique old hold heq, Ticket.id_inj.mpr heq]
  · rfl

theorem put_ofTickets_new (f : Ticket → α) (hnew : ∀ t ∈ tickets, t.number ≠ new.number) :
    (ofTickets f tickets).put new.id (f new) = ofTickets f (tickets ++ [new]) := by
  have hmem : new.id ∉ (ofTickets f tickets).keys := by
    rw [keys_ofTickets]
    intro hid
    obtain ⟨t, ht, heq⟩ := List.mem_map.mp hid
    exact hnew t ht (Ticket.id_inj.mp heq)
  rw [put, if_neg hmem]
  simp [ofTickets]

theorem least_map (first : Ticket) (rest : List Ticket) :
    least (first.id, first.lastUsed) (rest.map fun t => (t.id, t.lastUsed)) =
      (Ticket.oldest first rest).id := by
  induction rest generalizing first with
  | nil => rfl
  | cons t rest ih =>
      simp only [List.map_cons, least, Ticket.oldest]
      split
      · exact ih t
      · exact ih first

end Dict

/-! ## The records of a registry -/

namespace Registry

/-- The registry as it is recorded. -/
def roster (r : Registry) : Roster where
  entries := r.entries
  registered := r.registered
  sessions := .ofTickets Ticket.sitting r.tickets
  sessionFields := .ofTickets Ticket.fieldName r.tickets
  lastUsed := .ofTickets Ticket.lastUsed r.tickets
  closed := r.departed.map fun t => (t.id, t.sitting)
  opened := r.opened
  idleSeconds := r.idleSeconds
  capacity := r.capacity

variable {r : Registry}

/-! ### What becomes of the records -/

variable {t : Ticket}

theorem find?_id (h : r.Orderly) (ht : t ∈ r.tickets) :
    r.tickets.find? (·.id == t.id) = some t := by
  have hticket := ticket?_of_mem h ht
  unfold ticket? at hticket
  split at hticket
  · next found hfound =>
      cases hticket
      exact hfound
  · cases hticket

theorem find?_id_gone {id : String} (hid : ∀ t ∈ r.tickets, t.id ≠ id) :
    r.tickets.find? (·.id == id) = none :=
  List.find?_eq_none.mpr fun t ht => by simpa using hid t ht

theorem fieldName?_of_mem (h : r.Orderly) (ht : t ∈ r.tickets) :
    r.roster.sessionFields.get? t.id = some t.fieldName := by
  simp only [roster, Dict.get?_ofTickets, find?_id h ht, Option.map_some]

theorem roster_depart {gone : Ticket} (hnumber : gone.number = t.number) :
    (r.depart gone).roster = { r.roster with
      sessions := r.roster.sessions.erase t.id
      sessionFields := r.roster.sessionFields.erase t.id
      lastUsed := r.roster.lastUsed.erase t.id
      closed := r.roster.closed ++ [(t.id, gone.sitting)] } := by
  have hid : gone.id = t.id := Ticket.id_inj.mpr hnumber
  simp only [roster, Dict.erase_ofTickets, depart, hnumber, List.map_append, List.map_cons,
    List.map_nil, hid]

theorem roster_enrol (h : r.Orderly) (entry : Entry) (session : Session) :
    (r.enrol entry session).1.roster = { r.roster with
      opened := r.opened + 1
      sessions := r.roster.sessions.put (r.enrol entry session).2.id
        ⟨session, .empty, entry.serial⟩
      sessionFields := r.roster.sessionFields.put (r.enrol entry session).2.id entry.field.name
      lastUsed := r.roster.lastUsed.put (r.enrol entry session).2.id r.now } := by
  have hnew : ∀ t ∈ r.tickets, t.number ≠ (r.enrol entry session).2.number := by
    intro t ht
    have hle := (h.number_le (List.mem_append_left _ ht)).2
    have hnumber : (r.enrol entry session).2.number = r.opened + 1 := rfl
    omega
  have hsessions := Dict.put_ofTickets_new Ticket.sitting hnew
  have hfields := Dict.put_ofTickets_new Ticket.fieldName hnew
  have hused := Dict.put_ofTickets_new Ticket.lastUsed hnew
  have hrecords : (r.enrol entry session).1.roster = { r.roster with
      opened := r.opened + 1
      sessions := .ofTickets Ticket.sitting (r.tickets ++ [(r.enrol entry session).2])
      sessionFields := .ofTickets Ticket.fieldName (r.tickets ++ [(r.enrol entry session).2])
      lastUsed := .ofTickets Ticket.lastUsed (r.tickets ++ [(r.enrol entry session).2]) } := rfl
  rw [hrecords, ← hsessions, ← hfields, ← hused]
  rfl

theorem roster_update (h : r.Orderly) (ht : t ∈ r.tickets) {new : Ticket}
    (hnumber : new.number = t.number) (hname : new.fieldName = t.fieldName) :
    (r.update new).roster = { r.roster with
      sessions := r.roster.sessions.put t.id new.sitting
      lastUsed := r.roster.lastUsed.put t.id new.lastUsed } := by
  have hsessions := Dict.put_ofTickets Ticket.sitting ht hnumber
  have hused := Dict.put_ofTickets Ticket.lastUsed ht hnumber
  have hsame : Dict.ofTickets Ticket.fieldName (r.update new).tickets =
      .ofTickets Ticket.fieldName r.tickets := by
    refine Dict.ofTickets_same fun old hold heq => ?_
    rw [h.eq_of_number hold ht (heq.trans hnumber), hname]
  simp only [roster, hsessions, hused, hsame]
  rfl

/-! ### Answers -/

/-- An answer of the registry as the records give it. -/
def recorded {α β : Type} (tell : α → β) (answer : Registry × Except Fault α) :
    EStateM.Result Stop Roster β :=
  match answer.2 with
  | .ok a => .ok (tell a) answer.1.roster
  | .error fault => .error (.fault fault) answer.1.roster

/-- Settles an answer that leaves the registry as it is where it is a fault. -/
def settling {α : Type} (r : Registry) (answer : Except Fault (Registry × α)) :
    Registry × Except Fault α :=
  (r.settled answer, answer.map (·.2))

theorem after_recorded {α β : Type} {x : Keeping β} {tell : α → β}
    {answer : Registry × Except Fault α} (h : x.run r.roster = recorded tell answer) :
    r.roster.after x = answer.1.roster := by
  obtain ⟨next, result⟩ := answer
  rw [Roster.after, h]
  cases result <;> rfl

theorem recorded_eq_ok {α β : Type} {tell : α → β} {answer : Registry × Except Fault α} {b : β}
    {d : Roster} (h : recorded tell answer = .ok b d) : ∃ a, answer.2 = .ok a ∧ tell a = b := by
  obtain ⟨next, result⟩ := answer
  cases result with
  | error fault => cases h
  | ok a =>
      cases h
      exact ⟨a, rfl, rfl⟩

/-- An answer from the fields alone, put back where they belong. -/
def withFields {α : Type} (r : Registry) (answer : Registry × α) : Registry × α :=
  ({ r with entries := answer.1.entries, registered := answer.1.registered }, answer.2)

theorem setField_fields (r : Registry) (name : String) (value : Json) :
    r.setField name value =
      (Registry.setField r.roster.fields name value).map r.withFields := by
  have hfield : Registry.entry? r.roster.fields name = r.entry? name := rfl
  simp only [setField, hfield, bind, Except.bind]
  cases value.toNumber with
  | error fault => rfl
  | ok x =>
      simp only
      split
      · cases r.entry? name with
        | error fault => rfl
        | ok entry =>
            simp only
            cases entry.field.set x <;> rfl
      · rfl

theorem submitText_fields (r : Registry) (name : String) (text : Text) :
    r.submitText name text =
      (Registry.submitText r.roster.fields name text).map r.withFields := by
  have hfield : Registry.entry? r.roster.fields name = r.entry? name := rfl
  simp only [submitText, hfield, bind, Except.bind]
  cases r.entry? name with
  | error fault => rfl
  | ok entry =>
      simp only
      cases entry.field.submit text <;> rfl

theorem addField_fields (r : Registry) (name : String) (label : Option String) (places : Int)
    (value : Json) :
    r.addField name label places value =
      (Registry.addField r.roster.fields name label places value).map r.withFields := by
  simp only [addField, bind, Except.bind]
  cases Field.make name value places false <;> rfl

end Registry

namespace Keeping

open Registry

variable {r : Registry} {t : Ticket}

@[simp] theorem run_throw {α : Type} (stop : Stop) (d : Roster) :
    (throw stop : Keeping α).run d = .error stop d := rfl

@[simp] theorem run_lift_ok {α : Type} (a : α) (d : Roster) :
    (lift (.ok a)).run d = .ok a d := rfl

@[simp] theorem run_lift_error {α : Type} (fault : Fault) (d : Roster) :
    (lift (.error fault : Except Fault α)).run d = .error (.fault fault) d := rfl

/-! ## Single steps -/

theorem run_session (h : r.Orderly) (ht : t ∈ r.tickets) :
    (session t.id).run r.roster = .ok t.sitting r.roster := by
  have hfind : r.roster.sessions.get? t.id = some t.sitting := by
    simp only [roster, Dict.get?_ofTickets, find?_id h ht, Option.map_some]
  simp [session, hfind]

theorem run_session_gone {id : String} (hid : ∀ t ∈ r.tickets, t.id ≠ id) :
    (session id).run r.roster = .error (.fault (.unknownSession id)) r.roster := by
  have hfind : r.roster.sessions.get? id = none := by
    simp only [roster, Dict.get?_ofTickets, find?_id_gone hid, Option.map_none]
  simp [session, hfind]

theorem run_use (h : r.Orderly) (ht : t ∈ r.tickets) (now : Int) :
    (use now t.id).run r.roster =
      .ok t.sitting { r.roster with lastUsed := r.roster.lastUsed.put t.id now } := by
  simp only [use, EStateM.run_bind, run_session h ht]
  rfl

theorem run_use_gone {id : String} (hid : ∀ t ∈ r.tickets, t.id ≠ id) (now : Int) :
    (use now id).run r.roster = .error (.fault (.unknownSession id)) r.roster := by
  simp [use, run_session_gone hid]

theorem run_store (id : String) (s : Sitting) (d : Roster) :
    (store id s).run d = .ok () { d with sessions := d.sessions.put id s } := rfl

theorem run_discard (id : String) (d : Roster) :
    (discard id).run d = .ok () { d with
      sessions := d.sessions.erase id
      sessionFields := d.sessionFields.erase id
      lastUsed := d.lastUsed.erase id
      closed := d.closed ++ (d.sessions.get? id).toList.map fun s => (id, s) } := rfl

theorem run_told (id : String) (s : Sitting) (d : Roster) :
    (told id s).run d = .ok (s, d.sessionFields.get? id) d := rfl

theorem run_receive (hproper : r.Proper) {d : Roster} (hd : d.entries = r.entries) (serial : Nat)
    (value : Binary64) :
    (receive serial value).run d = .ok () { d with
      entries := r.afterWrite
        ((r.entries.find? (·.serial == serial)).map fun entry => (entry, value)) } := by
  cases hfind : r.entries.find? (·.serial == serial) with
  | none =>
      simp only [receive, EStateM.run_bind, EStateM.run_get, hd, hfind, Option.map_none, afterWrite]
      rw [← hd]
      rfl
  | some entry =>
      have hmem := List.mem_of_find?_eq_some hfind
      have hserial : entry.serial = serial := by simpa using List.find?_some hfind
      have hentries : (d.fields.writeField serial { entry.field with value }).entries =
          r.afterWrite (some (entry, value)) := by
        rw [afterWrite, ← writeField_entries hproper hmem value, hserial]
        simp only [writeField, Roster.fields, hd]
      simp only [receive, EStateM.run_bind, EStateM.run_get, hd, hfind,
        set_eq (hproper.decimal entry hmem), run_lift_ok, EStateM.run_set, hentries]
      rfl

theorem run_drop (h : r.Orderly) (ht : t ∈ r.tickets) :
    (drop t.id).run r.roster = .ok () (r.depart t.abandoned).roster := by
  have hcancel : t.sitting.session.cancel = .ok t.session.abandoned :=
    if_pos (h.isOpen t ht)
  rw [roster_depart (show t.abandoned.number = t.number from rfl)]
  simp only [drop, EStateM.run_bind, run_session h ht, hcancel, run_lift_ok, run_store,
    run_discard, Dict.erase_put, Dict.get?_put]
  rfl

theorem run_forM_drop (h : r.Orderly) {leaving : List Ticket}
    (hleaving : leaving.Sublist r.tickets) :
    ((leaving.map Ticket.id).forM drop).run r.roster = .ok () (r.dismiss leaving).roster := by
  induction leaving generalizing r with
  | nil => rfl
  | cons t rest ih =>
      have ht := hleaving.subset List.mem_cons_self
      have hnext := ih (h.depart_abandoned ht) (h.sublist_depart hleaving)
      rw [List.map_cons, List.forM, EStateM.run_bind, run_drop h ht, dismiss_cons]
      exact hnext

theorem run_expireIdle (h : r.Orderly) (now : Int) :
    (expireIdle now).run r.roster =
      .ok ((r.setClock now).idleTickets.map Ticket.id) (r.setClock now).expire.roster := by
  have hidle : (r.roster.lastUsed.items.filter
      fun item => item.2 ≤ now - r.roster.idleSeconds).map (·.1) =
      (r.setClock now).idleTickets.map Ticket.id := by
    simp only [roster, Dict.ofTickets, List.filter_map, List.map_map]
    rfl
  have hdrop := run_forM_drop (h.setClock now) (r.setClock now).idleTickets_sublist
  have hsame : (r.setClock now).roster = r.roster := rfl
  rw [hsame] at hdrop
  simp only [expireIdle, EStateM.run_bind, EStateM.run_get, hidle, hdrop]
  rfl

theorem run_makeRoom (h : r.Orderly) (count : Nat) :
    (makeRoom count).run r.roster = .ok () (Registry.makeRoom count r).roster := by
  -- Both loops look at the same list, so that a round here is a round there.
  induction count generalizing r with
  | zero => rfl
  | succ count ih =>
      simp only [makeRoom, Registry.makeRoom, EStateM.run_bind, EStateM.run_get]
      cases htickets : r.tickets with
      | nil =>
          have hnone : r.roster.sessions.items = [] := by
            simp only [roster, Dict.ofTickets, htickets, List.map_nil]
          simp only [hnone, ne_eq, not_true_eq_false, false_and, if_false]
          rfl
      | cons first rest =>
          have hmem : Ticket.oldest first rest ∈ r.tickets :=
            htickets ▸ Ticket.oldest_mem first rest
          have hsome : r.roster.sessions.items ≠ [] := by
            simp [roster, Dict.ofTickets, htickets]
          have hlength : r.roster.sessions.items.length = (first :: rest).length := by
            simp [roster, Dict.ofTickets, htickets]
          have hleast : leastRecent.run r.roster = .ok (Ticket.oldest first rest).id r.roster := by
            have hused : r.roster.lastUsed.items =
                (first.id, first.lastUsed) :: rest.map fun t => (t.id, t.lastUsed) := by
              simp only [roster, Dict.ofTickets, htickets, List.map_cons]
            simp only [leastRecent, EStateM.run_bind, EStateM.run_get, hused, Dict.least_map]
            rfl
          have hnext := ih (h.depart_abandoned hmem)
          have hcapacity : r.roster.capacity = r.capacity := rfl
          simp only [hsome, ne_eq, not_false_eq_true, true_and, hlength, hcapacity]
          split
          · simp only [EStateM.run_bind, hleast, run_drop h hmem, hnext]
          · rfl

/-! ## Operations -/

theorem run_onFields {α : Type} {f : Registry → Except Fault (Registry × α)}
    (hf : f r = (f r.roster.fields).map r.withFields) :
    (onFields f).run r.roster = recorded id (settling r (f r)) := by
  simp only [onFields, EStateM.run_bind, EStateM.run_get, hf]
  cases f r.roster.fields with
  | error fault => rfl
  | ok answer => rfl

theorem run_openSession (h : r.Orderly) (first second : Int) (name : String)
    (places : Option Int) :
    (openSession first second name places).run r.roster =
      recorded Ticket.id (r.openSessionAt first second name places) := by
  have hfield : Registry.entry? r.roster.fields name = r.entry? name := rfl
  have hclock := h.setClock first
  have hroom : (makeRoom (r.setClock first).expire.roster.sessions.items.length).run
      (r.setClock first).expire.roster = .ok () (r.setClock first).cleared.roster := by
    have hlength : (r.setClock first).expire.roster.sessions.items.length =
        (r.setClock first).expire.tickets.length := by
      simp [roster, Dict.ofTickets]
    rw [hlength]
    exact run_makeRoom hclock.expire _
  simp only [openSession, openSessionAt, EStateM.run_bind, EStateM.run_get, hfield]
  cases hentry : r.entry? name with
  | error fault => rfl
  | ok entry =>
      simp only [run_lift_ok, run_expireIdle h, hroom]
      cases hsession : sessionOn entry.field places with
      | error fault => rfl
      | ok session =>
          have henrol := roster_enrol (hclock.cleared.setClock second) entry session
          rw [(entry?_eq_ok hentry).2] at henrol
          simp only [run_lift_ok, EStateM.run_set, EStateM.run_pure, recorded, henrol]
          rfl

theorem run_press (h : r.Orderly) (now : Int) (id : String) (keys : List LooseText) :
    (press now id keys).run r.roster = recorded Ticket.told ((r.setClock now).press id keys) := by
  cases hkeys : Action.ofKeys keys with
  | error fault =>
      simp only [press, hkeys, press_unknownKey hkeys, EStateM.run_bind, run_lift_error]
      rfl
  | ok actions =>
      rcases registered_or_gone r id with ⟨t, ht, rfl⟩ | hid
      · have hname := fieldName?_of_mem h ht
        have hupdate := roster_update (h.setClock now) ht
          (show (t.pressed actions now).number = t.number from rfl) rfl
        rw [press_registered (h.setClock now) hkeys ht]
        have hnow : (r.setClock now).now = now := rfl
        have hperform : t.sitting.session.performAll actions = t.session.performAll actions := rfl
        simp only [press, hkeys, EStateM.run_bind, run_use h ht, run_lift_ok, run_store, hperform]
        cases hfault : (t.session.performAll actions).fault with
        | none =>
            simp only [run_told, hname, recorded, hnow, hupdate]
            rfl
        | some fault =>
            simp only [run_throw, recorded, hnow, hupdate]
            rfl
      · rw [press_gone hkeys (show ∀ t ∈ (r.setClock now).tickets, t.id ≠ id from hid)]
        simp only [press, hkeys, EStateM.run_bind, run_lift_ok, run_use_gone hid]
        rfl

theorem run_finish (hproper : r.Proper) (h : r.Orderly) (now : Int) (id : String) :
    (finish now id).run r.roster =
      recorded Ticket.told (settling (r.setClock now) ((r.setClock now).finish id)) := by
  rcases registered_or_gone r id with ⟨t, ht, rfl⟩ | hid
  · have hcommit : t.sitting.session.commit =
        .ok (t.finished.session, t.session.resultValue) := Session.commit_of_open (h.isOpen t ht)
    have hname := fieldName?_of_mem h ht
    have hrecords : ∀ entries,
        Registry.roster { (r.setClock now).depart t.finished with entries } =
          { (r.depart t.finished).roster with entries } := fun _ => rfl
    rw [finish_registered (hproper.setClock now) (h.setClock now) ht,
      write?_finish (h.setClock now) ht]
    simp only [finish, EStateM.run_bind, run_use h ht, hcommit, run_lift_ok, run_store]
    rw [run_receive hproper rfl]
    simp only [run_told, run_discard, Dict.erase_put, Dict.get?_put, hname, EStateM.run_pure]
    simp only [settling, settled, recorded, Except.map, hrecords,
      roster_depart (show t.finished.number = t.number from rfl)]
    rfl
  · rw [finish_gone (show ∀ t ∈ (r.setClock now).tickets, t.id ≠ id from hid)]
    simp only [finish, EStateM.run_bind, run_use_gone hid]
    rfl

theorem run_cancel (h : r.Orderly) (now : Int) (id : String) :
    (cancel now id).run r.roster =
      recorded Ticket.told (settling (r.setClock now) ((r.setClock now).cancel id)) := by
  rcases registered_or_gone r id with ⟨t, ht, rfl⟩ | hid
  · have hcancel : t.sitting.session.cancel = .ok t.abandoned.session := if_pos (h.isOpen t ht)
    have hname := fieldName?_of_mem h ht
    have hrecords : ((r.setClock now).depart t.abandoned).roster =
        (r.depart t.abandoned).roster := rfl
    rw [cancel_registered (h.setClock now) ht]
    simp only [cancel, EStateM.run_bind, run_use h ht, hcancel, run_lift_ok, run_store, run_told,
      run_discard, Dict.erase_put, Dict.get?_put, hname, EStateM.run_pure]
    simp only [settling, settled, recorded, Except.map, hrecords,
      roster_depart (show t.abandoned.number = t.number from rfl)]
    rfl
  · rw [cancel_gone (show ∀ t ∈ (r.setClock now).tickets, t.id ≠ id from hid)]
    simp only [cancel, EStateM.run_bind, run_use_gone hid]
    rfl

end Keeping

end FieldCalc
