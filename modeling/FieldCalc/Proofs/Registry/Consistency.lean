import FieldCalc.Proofs.Registry.Bookkeeping
import Mathlib.Data.List.Induction

/-!
# The dictionaries stay consistent

Whatever is called, at whatever readings of the clock and whether it succeeds or not, the three
dictionaries have the same ids in the same order, what is registered is open, and what was opened
and is not registered any more was committed or cancelled and stays away.
-/

namespace FieldCalc

open Registry (Call)

/-! ## Runs of calls -/

namespace Registry

variable {r : Registry}

/-- A call on the records of a registry leaves the records of what it leaves of the registry. -/
theorem roster_take (hproper : r.Proper) (h : r.Orderly) (call : Call) :
    r.roster.take call = (r.take call).roster := by
  cases call with
  | addField name label places value =>
      exact after_recorded (Keeping.run_onFields (addField_fields r name label places value))
  | timed first second op =>
      have hclock := h.setClock first
      have hsame : r.roster = (r.setClock first).roster := rfl
      cases op with
      | setField name value =>
          rw [hsame]
          exact after_recorded (Keeping.run_onFields (setField_fields _ name value))
      | submitText name text =>
          rw [hsame]
          exact after_recorded (Keeping.run_onFields (submitText_fields _ name text))
      | openSession name places =>
          exact after_recorded (Keeping.run_openSession h first second name places)
      | press id keys => exact after_recorded (Keeping.run_press h first id keys)
      | finish id => exact after_recorded (Keeping.run_finish hproper h first id)
      | cancel id => exact after_recorded (Keeping.run_cancel h first id)
      | expire =>
          simp only [Roster.take, Roster.after, Keeping.run_expireIdle h first]
          rfl
      | setClock now => rfl

theorem roster_takeAll (h : InUse r) (calls : List Call) :
    r.roster.takeAll calls = (r.takeAll calls).roster := by
  induction calls generalizing r with
  | nil => rfl
  | cons call rest ih =>
      have hfirst := roster_take h.issued.toProper h.orderly call
      exact (congrArg (Roster.takeAll · rest) hfirst).trans (ih (h.taken call))

end Registry

/-! ## One state -/

namespace Roster

/-- The dictionaries agree, and what they say of the sessions is true. -/
structure Consistent (d : Roster) : Prop where
  fieldKeys : d.sessionFields.keys = d.sessions.keys
  usedKeys : d.lastUsed.keys = d.sessions.keys
  /-- No id is that of two sessions, registered or taken out. -/
  nodup : (d.sessions.keys ++ d.closed.map (·.1)).Nodup
  isOpen : ∀ item ∈ d.sessions.items, item.2.session.state = .open
  named : ∀ item ∈ d.sessionFields.items, item.2 ∈ d.entries.map (·.field.name)
  capped : (d.sessions.items.length : Int) ≤ max 1 d.capacity

end Roster

namespace Registry

variable {r : Registry}

theorem Orderly.nodup_ids (h : r.Orderly) : ((r.tickets ++ r.departed).map Ticket.id).Nodup :=
  List.pairwise_map.mpr ((List.pairwise_map.mp h.nodup).imp fun hne heq =>
    hne (Ticket.id_inj.mp heq))

theorem Orderly.consistent (h : r.Orderly) : r.roster.Consistent where
  fieldKeys := by simp only [roster, Dict.keys_ofTickets]
  usedKeys := by simp only [roster, Dict.keys_ofTickets]
  nodup := by
    have hids := h.nodup_ids
    rw [List.map_append] at hids
    simpa [roster, Dict.keys_ofTickets, Function.comp_def] using hids
  isOpen item hitem := by
    obtain ⟨t, ht, rfl⟩ := List.mem_map.mp hitem
    have hopen := h.isOpen t ht
    have hstate : t.session.state = .open := by simpa [Session.isOpen] using hopen
    exact hstate
  named item hitem := by
    obtain ⟨t, ht, rfl⟩ := List.mem_map.mp hitem
    exact h.named t ht
  capped := by
    have hcapped := h.capped
    have hlength : r.roster.sessions.items.length = r.tickets.length := List.length_map _
    have hcapacity : r.roster.capacity = r.capacity := rfl
    omega

end Registry

/-! ## What becomes of a session -/

namespace Roster

variable {start : Roster} {calls : List Call} {id : String}

/-- A call of a run opened a session under the id. -/
inductive OpenedIn (start : Roster) (calls : List Call) (id : String) : Prop where
  | intro {before after : List Call} {first second : Int} {name : String} {places : Option Int}
      {next : Roster} (split : calls = before ++ .timed first second (.openSession name places) ::
        after)
      (success : (Keeping.openSession first second name places).run (start.takeAll before) =
        .ok id next)

/-- A call of a run finished the session under the id with the value. -/
inductive FinishedIn (start : Roster) (calls : List Call) (id : String) (value : Binary64) :
    Prop where
  | intro {before after : List Call} {first second : Int} {data : Sitting × Option String}
      {next : Roster} (split : calls = before ++ .timed first second (.finish id) :: after)
      (success : (Keeping.finish first id).run (start.takeAll before) = .ok data next)
      (committed : data.1.session.state = .committed value)

theorem FinishedIn.concat {value : Binary64} (h : FinishedIn start calls id value) (call : Call) :
    FinishedIn start (calls ++ [call]) id value := by
  obtain ⟨split, success, committed⟩ := h
  exact ⟨by rw [split, List.append_assoc]; rfl, success, committed⟩

end Roster

namespace Registry

variable {r : Registry}

/-- What has left was cancelled or finished. -/
theorem InUse.state_departed (h : InUse r) (hnone : r.departed = []) (calls : List Call) :
    ∀ t ∈ (r.takeAll calls).departed, t.session.state = .cancelled ∨
      ∃ value, t.session.state = .committed value ∧
        Roster.FinishedIn r.roster calls t.id value := by
  induction calls using List.reverseRecOn with
  | nil =>
      intro t ht
      have hempty : (r.takeAll []).departed = [] := hnone
      rw [hempty] at ht
      cases ht
  | append_singleton front call ih =>
      intro t ht
      have hfront := h.takeAll front
      have turn := turn_take hfront.issued.toProper hfront.orderly call
      obtain ⟨gone, hgone, hleaving⟩ := turn.departed hfront.orderly
      rw [takeAll_concat, hgone] at ht
      rcases List.mem_append.mp ht with hold | hnew
      · refine (ih t hold).imp_right ?_
        rintro ⟨value, hvalue, hfinished⟩
        exact ⟨value, hvalue, hfinished.concat call⟩
      · cases hleaving t hnew with
        | cancelled => exact .inl rfl
        | @finished first _ t registered =>
            have hfinish := Keeping.run_finish hfront.issued.toProper hfront.orderly first t.id
            rw [← roster_takeAll h, finish_registered (hfront.issued.toProper.setClock first)
              (hfront.orderly.setClock first) registered] at hfinish
            exact .inr ⟨t.session.resultValue, rfl, .intro rfl hfinish rfl⟩

theorem mem_openSessionAt {first second : Int} {name : String} {places : Option Int} {t : Ticket}
    (h : (r.openSessionAt first second name places).2 = .ok t) :
    t ∈ (r.openSessionAt first second name places).1.tickets := by
  unfold openSessionAt at h ⊢
  cases hentry : r.entry? name with
  | error fault =>
      rw [hentry] at h
      cases h
  | ok entry =>
      simp only [hentry] at h ⊢
      cases hsession : sessionOn entry.field places with
      | error fault =>
          rw [hsession] at h
          cases h
      | ok session =>
          simp only [hsession] at h ⊢
          cases h
          exact List.mem_append_right _ (List.mem_singleton_self _)

/-- An id that was given out is that of a session that is registered or has left. -/
theorem InUse.exists_of_openedIn (h : InUse r) {calls : List Call} {id : String}
    (hopened : Roster.OpenedIn r.roster calls id) :
    ∃ t ∈ (r.takeAll calls).tickets ++ (r.takeAll calls).departed, t.id = id := by
  obtain @⟨before, after, first, second, name, places, next, split, success⟩ := hopened
  have hbefore := h.takeAll before
  rw [roster_takeAll h, Keeping.run_openSession hbefore.orderly] at success
  obtain ⟨t, ht, rfl⟩ := recorded_eq_ok success
  have hmem := mem_openSessionAt ht
  rw [split, takeAll_append]
  exact (hbefore.taken _).exists_of_earlier (List.mem_append_left _ hmem) after

end Registry

namespace Roster

/-- What the records of a run say of every session that was opened. -/
structure Complete (start : Roster) (calls : List Call) : Prop where
  /-- A session that is not registered was cancelled, or was committed when it was finished. -/
  closed : ∀ id, OpenedIn start calls id → id ∉ (start.takeAll calls).sessions.keys →
    ∃ s, (id, s) ∈ (start.takeAll calls).closed ∧
      (s.session.state = .cancelled ∨
        ∃ value, s.session.state = .committed value ∧ FinishedIn start calls id value)
  /-- It is never registered again. -/
  stays : ∀ id, OpenedIn start calls id → id ∉ (start.takeAll calls).sessions.keys →
    ∀ later, id ∉ (start.takeAll (calls ++ later)).sessions.keys

end Roster

namespace Registry

variable {r : Registry}

theorem InUse.departed_of_openedIn (h : InUse r) {calls : List Call} {id : String}
    (hopened : Roster.OpenedIn r.roster calls id)
    (hgone : id ∉ (r.roster.takeAll calls).sessions.keys) :
    ∃ t ∈ (r.takeAll calls).departed, t.id = id := by
  obtain ⟨t, ht, rfl⟩ := h.exists_of_openedIn hopened
  rw [roster_takeAll h, roster, Dict.keys_ofTickets] at hgone
  rcases List.mem_append.mp ht with ht | ht
  · exact absurd (List.mem_map_of_mem ht) hgone
  · exact ⟨t, ht, rfl⟩

theorem InUse.complete (h : InUse r) (hnone : r.departed = []) (calls : List Call) :
    r.roster.Complete calls where
  closed id hopened hgone := by
    obtain ⟨t, ht, rfl⟩ := h.departed_of_openedIn hopened hgone
    rw [roster_takeAll h]
    exact ⟨t.sitting, List.mem_map.mpr ⟨t, ht, rfl⟩, h.state_departed hnone calls t ht⟩
  stays id hopened hgone later := by
    obtain ⟨t, ht, rfl⟩ := h.departed_of_openedIn hopened hgone
    rw [roster_takeAll h, takeAll_append, roster, Dict.keys_ofTickets]
    intro hback
    obtain ⟨u, hu, hid⟩ := List.mem_map.mp hback
    exact (h.takeAll calls).id_ne_of_departed ht later u hu hid

end Registry

/-- The records of a host that started empty are those of its registry after any calls. The
dictionaries agree, and every session that was opened is accounted for. -/
theorem dictionaries_consistent (idleSeconds capacity : Int) (calls : List Call) :
    (Roster.empty idleSeconds capacity).takeAll calls =
        ((Registry.empty idleSeconds capacity).takeAll calls).roster ∧
      ((Roster.empty idleSeconds capacity).takeAll calls).Consistent ∧
      (Roster.empty idleSeconds capacity).Complete calls := by
  have hstart := Registry.InUse.empty idleSeconds capacity
  have hrecords := Registry.roster_takeAll hstart calls
  have hempty : (Registry.empty idleSeconds capacity).roster =
      Roster.empty idleSeconds capacity := rfl
  rw [hempty] at hrecords
  refine ⟨hrecords, ?_, ?_⟩
  · rw [hrecords]
    exact (hstart.takeAll calls).orderly.consistent
  · rw [← hempty]
    exact hstart.complete rfl calls

end FieldCalc
