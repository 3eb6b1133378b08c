import FieldCalc.Proofs.Registry.Calls

/-!
# Runs of calls

A session that has left during a run of calls stays away for the rest of it. Runs of calls and runs
of operations lead to the same registries. An operation is a call while the clock stands still, and
two readings of the clock do no more than one followed by a press of no keys.
-/

namespace FieldCalc.Registry

variable {r : Registry}

def takeAll (r : Registry) (calls : List Call) : Registry := calls.foldl take r

theorem takeAll_append (r : Registry) (front back : List Call) :
    r.takeAll (front ++ back) = (r.takeAll front).takeAll back :=
  List.foldl_append

theorem takeAll_concat (r : Registry) (calls : List Call) (call : Call) :
    r.takeAll (calls ++ [call]) = (r.takeAll calls).take call :=
  takeAll_append r calls [call]

theorem InUse.takeAll (h : InUse r) (calls : List Call) : InUse (r.takeAll calls) := by
  induction calls generalizing r with
  | nil => exact h
  | cons call rest ih => exact ih (h.taken call)

/-- A session that has left stays as it was then. -/
theorem InUse.departed_takeAll (h : InUse r) (calls : List Call) :
    r.departed ⊆ (r.takeAll calls).departed := by
  induction calls generalizing r with
  | nil => exact List.Subset.refl _
  | cons call rest ih =>
      have turn := turn_take h.issued.toProper h.orderly call
      obtain ⟨gone, hgone, -⟩ := turn.departed h.orderly
      have hfirst : r.departed ⊆ (r.take call).departed := by
        rw [hgone]
        exact List.subset_append_left _ _
      exact List.Subset.trans hfirst (ih (h.taken call))

theorem InUse.opened_takeAll (h : InUse r) (calls : List Call) :
    r.opened ≤ (r.takeAll calls).opened := by
  induction calls generalizing r with
  | nil => exact Nat.le_refl _
  | cons call rest ih =>
      have turn := turn_take h.issued.toProper h.orderly call
      exact Nat.le_trans (turn.opened_le h.orderly) (ih (h.taken call))

/-- A session that was registered or had left is registered or has left. -/
theorem InUse.exists_of_earlier (h : InUse r) {t : Ticket} (ht : t ∈ r.tickets ++ r.departed)
    (calls : List Call) :
    ∃ u ∈ (r.takeAll calls).tickets ++ (r.takeAll calls).departed, u.id = t.id := by
  have hnumber := h.orderly.number_le ht
  have hopened := Nat.le_trans hnumber.2 (h.opened_takeAll calls)
  obtain ⟨u, hu, heq⟩ := (h.takeAll calls).orderly.exists_of_number hnumber.1 hopened
  exact ⟨u, hu, Ticket.id_inj.mpr heq⟩

/-- A session that has left is not registered again. -/
theorem InUse.id_ne_of_departed (h : InUse r) {t : Ticket} (ht : t ∈ r.departed)
    (calls : List Call) : ∀ u ∈ (r.takeAll calls).tickets, u.id ≠ t.id := by
  intro u hu hid
  have hgone := h.departed_takeAll calls ht
  exact (h.takeAll calls).orderly.number_ne hu hgone (Ticket.id_inj.mp hid)

/-! ## Calls and operations -/

/-- A run of operations is a run of calls. -/
theorem InUse.exists_calls (h : InUse r) (ops : List Operation) :
    ∃ calls, r.run ops = r.takeAll calls := by
  induction ops generalizing r with
  | nil => exact ⟨[], rfl⟩
  | cons op rest ih =>
      obtain ⟨calls, hcalls⟩ := ih (h.apply op)
      refine ⟨.timed r.now r.now op :: calls, ?_⟩
      rw [run_cons, hcalls, apply_eq_take h.orderly]
      rfl

/-- Only the last of the sessions has the number. -/
theorem update_last {t new : Ticket} (hnew : ∀ old ∈ r.tickets, old.number ≠ new.number)
    (hnumber : t.number = new.number) :
    update { r with tickets := r.tickets ++ [t] } new =
      { r with tickets := r.tickets ++ [new] } := by
  have hold : r.tickets.map (fun old => if old.number = new.number then new else old) =
      r.tickets :=
    (List.map_congr_left fun old hmem => if_neg (hnew old hmem)).trans (List.map_id _)
  simp only [update, List.map_append, hold, List.map_cons, List.map_nil, if_pos hnumber]

/-- Keys that are none only mark the session as used. -/
theorem press_nothing (h : r.Orderly) {t : Ticket} (ht : t ∈ r.tickets) :
    r.press t.id [] =
      (r.update { t with lastUsed := r.now }, .ok { t with lastUsed := r.now }) := by
  have hnone : t.pressed [] r.now = { t with lastUsed := r.now } := by
    simp [Ticket.pressed, Session.performAll, Outcome.quiet]
  rw [press_registered h (show Action.ofKeys [] = .ok [] from rfl) ht, hnone]
  rfl

/-- A new session that is used at once is as one opened then. -/
theorem press_enrolled (h : r.Orderly) {entry : Entry} {session : Session}
    (hnext : (r.enrol entry session).1.Orderly) (now : Int) :
    (Registry.press ((r.enrol entry session).1.setClock now) (r.enrol entry session).2.id []).1 =
      ((r.setClock now).enrol entry session).1 := by
  have hmem : (r.enrol entry session).2 ∈ ((r.enrol entry session).1.setClock now).tickets :=
    List.mem_append_right _ (List.mem_singleton_self _)
  have hnew : ∀ old ∈ r.tickets, old.number ≠ r.opened + 1 := by
    intro old hold
    have hle := (h.number_le (List.mem_append_left _ hold)).2
    omega
  have hlast := @update_last { r with opened := r.opened + 1, now } (r.enrol entry session).2
    { (r.enrol entry session).2 with lastUsed := now } hnew rfl
  rw [press_nothing (hnext.setClock now) hmem]
  exact hlast

/-- Two readings of the clock lead to no registry that one does not lead to: the second is made up
for by pressing no keys. -/
theorem InUse.exists_ops (h : InUse r) (first second : Int) (op : Operation) :
    ∃ ops, r.run ops = r.take (.timed first second op) := by
  have hclock := h.orderly.setClock first
  cases op with
  | openSession name places =>
      have hfirst : r.run [.setClock first, .openSession name places] =
          ((r.setClock first).openSessionAt first first name places).1 := by
        change (Registry.openSession (r.setClock first) name places).1 = _
        rw [openSession_eq hclock]
        rfl
      simp only [take, openSessionAt]
      cases hentry : r.entry? name with
      | error fault => exact ⟨[], rfl⟩
      | ok entry =>
          have hfield : Registry.entry? (r.setClock first) name = .ok entry := hentry
          have hstill : (r.setClock first).setClock first = r.setClock first := rfl
          simp only
          cases hsession : sessionOn entry.field places with
          | error fault =>
              refine ⟨[.setClock first, .openSession name places], ?_⟩
              rw [hfirst]
              simp only [openSessionAt, hfield, hsession, hstill]
          | ok session =>
              have hopened : (r.run [.setClock first, .openSession name places]) =
                  (((r.setClock first).cleared.setClock first).enrol entry session).1 := by
                rw [hfirst]
                simp only [openSessionAt, hfield, hsession, hstill]
              have hused := press_enrolled (hclock.cleared.setClock first)
                (h.orderly.openedAt first first hentry hsession) second
              let id := (((r.setClock first).cleared.setClock first).enrol entry session).2.id
              refine ⟨[.setClock first, .openSession name places] ++
                [.setClock second, .press id []], ?_⟩
              rw [run_append, hopened]
              exact hused
  | setField name value => exact ⟨[.setClock first, .setField name value], rfl⟩
  | submitText name text => exact ⟨[.setClock first, .submitText name text], rfl⟩
  | press id keys => exact ⟨[.setClock first, .press id keys], rfl⟩
  | finish id => exact ⟨[.setClock first, .finish id], rfl⟩
  | cancel id => exact ⟨[.setClock first, .cancel id], rfl⟩
  | expire => exact ⟨[.setClock first, .expire], rfl⟩
  | setClock now => exact ⟨[.setClock first, .setClock now], rfl⟩

end FieldCalc.Registry
