import FieldCalc.Proofs.Registry.CallRuns
import FieldCalc.Proofs.Registry.Standalone

/-!
# Values are committed once

A field is written by setting it, by a text that it accepts, and by finishing a session on it;
whatever else a host does, and whatever fails, leaves the fields alone. A session that is no longer
registered is turned down from then on, so that it can write one value at most, when it is
finished.
-/

namespace FieldCalc.Registry

variable {r : Registry}

/-! ## Writing -/

/-- The operations that write the field of a name. They all succeed. -/
inductive Writes (r : Registry) : Operation → String → Prop where
  | set {name : String} {value : Json} {result : Registry × Entry}
      (success : r.setField name value = .ok result) : Writes r (.setField name value) name
  | typed {name : String} {text : Text} {next : Registry} {entry : Entry}
      (accepted : r.submitText name text = .ok (next, entry, true)) :
      Writes r (.submitText name text) name
  | finished {id : String} {next : Registry} {done : Ticket}
      (success : r.finish id = .ok (next, done)) : Writes r (.finish id) done.fieldName

theorem Writing.writes {op : Operation} {entry : Entry} {x : Binary64}
    (h : Writing r op entry x) (hproper : r.Proper) (horderly : r.Orderly) (hbound : r.Bound) :
    Writes r op entry.field.name := by
  cases h with
  | @set name value _ _ number field valid =>
      obtain ⟨hmem, hname⟩ := entry?_eq_ok field
      have success : r.setField name value =
          .ok (r.writeField entry.serial { entry.field with value := x },
            { entry with field := { entry.field with value := x } }) := by
        simp only [setField, number, field, valid, if_true, set_eq (hproper.decimal entry hmem),
          bind, Except.bind]
        rfl
      rw [hname]
      exact .set success
  | @typed name text _ _ field typed =>
      obtain ⟨hmem, hname⟩ := entry?_eq_ok field
      have accepted : r.submitText name text =
          .ok (r.writeField entry.serial { entry.field with value := x },
            { entry with field := { entry.field with value := x } }, true) := by
        simp only [submitText, Field.submit, field, typed, set_eq (hproper.decimal entry hmem),
          bind, Except.bind]
        rfl
      rw [hname]
      exact .typed accepted
  | @finished id t _ registered _ field =>
      obtain ⟨ht, rfl⟩ := ticket?_eq_ok registered
      obtain ⟨own, -, hown, hname⟩ := hbound.exists_field hproper ht
      rw [field] at hown
      cases hown
      rw [hname]
      exact show Writes r (.finish t.id) t.finished.fieldName from
        .finished (finish_registered hproper horderly ht)

/-! ## Leaving for good -/

/-- Whatever is asked of a session under the id fails and changes nothing. -/
structure TurnsDown (r : Registry) (id : String) : Prop where
  press : ∀ keys actions, Action.ofKeys keys = .ok actions →
    r.press id keys = (r, .error (.unknownSession id))
  pressUnknown : ∀ keys fault, Action.ofKeys keys = .error fault →
    r.press id keys = (r, .error fault)
  finish : r.finish id = .error (.unknownSession id)
  cancel : r.cancel id = .error (.unknownSession id)

theorem turnsDown_of_gone {id : String} (h : ∀ t ∈ r.tickets, t.id ≠ id) : r.TurnsDown id where
  press _ _ hkeys := press_gone hkeys h
  pressUnknown _ _ hkeys := press_unknownKey hkeys id
  finish := finish_gone h
  cancel := cancel_gone h

/-- A session that has left is turned down after every run. -/
theorem InUse.turnsDown_run (h : InUse r) {t : Ticket} (ht : t ∈ r.departed)
    (ops : List Operation) : (r.run ops).TurnsDown t.id := by
  obtain ⟨calls, hcalls⟩ := h.exists_calls ops
  rw [hcalls]
  exact turnsDown_of_gone (h.id_ne_of_departed ht calls)

/-- A session that was registered and is not any more has left. -/
theorem InUse.departed_of_lost (h : InUse r) {t : Ticket} (ht : t ∈ r.tickets)
    {ops : List Operation} (hlost : ∀ u ∈ (r.run ops).tickets, u.id ≠ t.id) :
    ∃ gone ∈ (r.run ops).departed, gone.id = t.id := by
  obtain ⟨calls, hcalls⟩ := h.exists_calls ops
  rw [hcalls] at hlost ⊢
  obtain ⟨u, hu, hid⟩ := h.exists_of_earlier (List.mem_append_left _ ht) calls
  rcases List.mem_append.mp hu with hu | hu
  · exact absurd hid (hlost u hu)
  · exact ⟨u, hu, hid⟩

theorem InUse.departed_of_finish (h : InUse r) {id : String} {next : Registry} {done : Ticket}
    (hfinish : r.finish id = .ok (next, done)) :
    ∃ gone ∈ (r.apply (.finish id)).departed, gone.id = id := by
  obtain ⟨t, ht, rfl⟩ := registered_of_finish hfinish
  have hnext := finish_registered h.issued.toProper h.orderly ht
  refine ⟨t.finished, ?_, rfl⟩
  rw [Registry.apply, hnext]
  exact List.mem_append_right _ (List.mem_singleton_self _)

theorem InUse.departed_of_cancel (h : InUse r) {id : String} {next : Registry} {gone : Ticket}
    (hcancel : r.cancel id = .ok (next, gone)) :
    ∃ gone ∈ (r.apply (.cancel id)).departed, gone.id = id := by
  rcases registered_or_gone r id with ⟨t, ht, rfl⟩ | hid
  · refine ⟨t.abandoned, ?_, rfl⟩
    rw [Registry.apply, cancel_registered h.orderly ht]
    exact List.mem_append_right _ (List.mem_singleton_self _)
  · rw [cancel_gone hid] at hcancel
    cases hcancel

/-! ## Runs -/

/-- A session was closed in a run: finished, cancelled or dropped. -/
inductive ClosedIn (r : Registry) (ops : List Operation) (id : String) : Prop where
  | finished {before after : List Operation} {result : Registry × Ticket}
      (split : ops = before ++ .finish id :: after)
      (success : (r.run before).finish id = .ok result)
  | cancelled {before after : List Operation} {result : Registry × Ticket}
      (split : ops = before ++ .cancel id :: after)
      (success : (r.run before).cancel id = .ok result)
  /-- It was registered and then was not. -/
  | lost {before between after : List Operation} {t : Ticket}
      (split : ops = before ++ between ++ after) (registered : t ∈ (r.run before).tickets)
      (named : t.id = id) (gone : ∀ u ∈ (r.run (before ++ between)).tickets, u.id ≠ id)

theorem InUse.turnsDown_of_closedIn (h : InUse r) {ops : List Operation} {id : String}
    (hclosed : ClosedIn r ops id) : (r.run ops).TurnsDown id := by
  cases hclosed with
  | @finished before after _ split success =>
      obtain ⟨gone, hgone, rfl⟩ := (h.run before).departed_of_finish success
      rw [split, run_append]
      exact ((h.run before).apply _).turnsDown_run hgone after
  | @cancelled before after _ split success =>
      obtain ⟨gone, hgone, rfl⟩ := (h.run before).departed_of_cancel success
      rw [split, run_append]
      exact ((h.run before).apply _).turnsDown_run hgone after
  | @lost before between after t split registered named gone =>
      rw [run_append, ← named] at gone
      obtain ⟨left, hleft, hid⟩ := (h.run before).departed_of_lost registered gone
      rw [split, run_append, run_append, ← named, ← hid]
      exact ((h.run before).run between).turnsDown_run hleft after

/-- What holds of committing after a run. -/
structure CommitsOnce (r : Registry) (ops : List Operation) : Prop where
  /-- A value changes only where its field is written. -/
  changes : ∀ op name, ((r.run ops).apply op).valueOf? name ≠ (r.run ops).valueOf? name →
    Writes (r.run ops) op name
  /-- Whatever does not write a field leaves them all as they are. -/
  quiet : ∀ op, (∀ name, ¬ Writes (r.run ops) op name) →
    ((r.run ops).apply op).entries = (r.run ops).entries
  /-- A registered session can always be finished. -/
  finishes : ∀ t ∈ (r.run ops).tickets, ∃ result, (r.run ops).finish t.id = .ok result
  /-- Finishing a session writes what it committed to the field that it was opened on. -/
  lands : ∀ id next done, (r.run ops).finish id = .ok (next, done) →
    (∃ o : Origin r ops id, o.name = done.fieldName) ∧
      ∃ value, done.session.state = .committed value ∧ next.valueOf? done.fieldName = some value
  /-- A session that was closed, in whatever way, is turned down. -/
  closed : ∀ id, ClosedIn r ops id → (r.run ops).TurnsDown id

/-- A field takes a value by being set, by an accepted text or by a session that is finished, and
each session is finished at most once and has no say after it was closed. -/
theorem commitsOnce_run (h : SetUp r) (ops : List Operation) : CommitsOnce r ops := by
  have hproper := proper_run h.proper ops
  have horderly := (h.inUse.run ops).orderly
  have hbound := h.bound_run ops
  constructor
  · intro op name hchange
    obtain ⟨entry, x, hwrite, rfl⟩ := write?_of_valueOf?_ne hbound hproper hchange
    exact (writing_of_write? hwrite).writes hproper horderly hbound
  · intro op hquiet
    rw [entries_apply hproper]
    cases hwrite : (r.run ops).write? op with
    | none => rfl
    | some written =>
        have hwrites := (writing_of_write? hwrite).writes hproper horderly hbound
        exact absurd hwrites (hquiet _)
  · intro t ht
    exact ⟨_, finish_registered hproper horderly ht⟩
  · intro id next done hfinish
    obtain ⟨t, ht, rfl⟩ := registered_of_finish hfinish
    obtain ⟨o, ho⟩ := exists_origin h.inUse h.tickets_eq_nil ops t ht
    obtain ⟨landed, hlanded, hvalue⟩ := finish_lands hbound hproper horderly ht
    rw [hlanded] at hfinish
    cases hfinish
    exact ⟨⟨o, ho.fieldName.symm⟩, t.session.resultValue, rfl, hvalue⟩
  · intro id hclosed
    exact h.inUse.turnsDown_of_closedIn hclosed

/-- Five is typed and committed. -/
theorem commitsOnce_run_five :
    SetUp tipsOnly ∧
      (tipsOnly.run [.openSession "tips" none, .press "s1" ["5"], .finish "s1"]).valueOf? "tips" =
        some (.ofNat 5) ∧
      TurnsDown (tipsOnly.run [.openSession "tips" none, .press "s1" ["5"], .finish "s1"])
        "s1" := by
  refine ⟨setUp_tipsOnly, by decide +kernel, (commitsOnce_run setUp_tipsOnly _).closed "s1" ?_⟩
  have hsuccess : ((tipsOnly.run [.openSession "tips" none, .press "s1" ["5"]]).finish
      "s1").isOk := by
    decide +kernel
  cases hfinish : (tipsOnly.run [.openSession "tips" none, .press "s1" ["5"]]).finish "s1" with
  | ok result => exact .finished rfl hfinish
  | error fault =>
      rw [hfinish] at hsuccess
      cases hsuccess

end FieldCalc.Registry
