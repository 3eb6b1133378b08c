import FieldCalc.Proofs.Registry.Calls

/-!
# Openings that are rejected

An opening on a field that is not there changes nothing. One with a precision that no session has
is rejected late: by then idle sessions have gone and room has been made, so that in a registry at
its capacity the session unused for longest has been cancelled for nothing. No other session is
lost, and the fields are as they were.
-/

namespace FieldCalc.Registry

variable {r : Registry} {name : String} {places : Option Int} {fault : Fault}

theorem entry?_eq_error (h : r.entry? name = .error fault) :
    name ∉ r.entries.map (·.field.name) := by
  intro hname
  obtain ⟨entry, hentry, rfl⟩ := List.mem_map.mp hname
  unfold entry? at h
  split at h
  · cases h
  · next hnone =>
      have hno := List.find?_eq_none.mp hnone entry hentry
      simp at hno

/-- What a rejected opening leaves. -/
theorem rejected_open_cases (h : r.Orderly)
    (rejected : (r.openSession name places).2 = .error fault) :
    (name ∉ r.entries.map (·.field.name) ∧ (r.openSession name places).1 = r) ∨
      (name ∈ r.entries.map (·.field.name) ∧
        (r.openSession name places).1 = r.expire.dismiss r.expire.surplus) := by
  rw [openSession_eq h] at rejected ⊢
  unfold openSessionAt at rejected ⊢
  cases hentry : r.entry? name with
  | error unknown => exact .inl ⟨entry?_eq_error hentry, rfl⟩
  | ok entry =>
      obtain ⟨hmem, hname⟩ := entry?_eq_ok hentry
      simp only [hentry] at rejected ⊢
      cases hsession : sessionOn entry.field places with
      | error reason => exact .inr ⟨List.mem_map.mpr ⟨entry, hmem, hname⟩, cleared_eq h⟩
      | ok session =>
          rw [hsession] at rejected
          cases rejected

/-- Of the sessions that may stay, at most one is unlucky. -/
theorem mem_surplus (h : r.Orderly) {t : Ticket} (ht : t ∈ r.tickets) :
    t ∉ (r.dismiss r.surplus).tickets ↔ t ∈ r.surplus := by
  rw [mem_tickets_dismiss]
  constructor
  · intro hgone
    by_contra hstay
    refine hgone ⟨ht, fun u hu heq => hstay ?_⟩
    rw [h.eq_of_number ht (r.surplus_sublist.subset hu) heq]
    exact hu
  · rintro hleaving ⟨-, hstay⟩
    exact hstay t hleaving rfl

theorem surplus_oldest {t : Ticket} (ht : t ∈ r.surplus) :
    r.surplus = [t] ∧ ∀ other ∈ r.tickets, t.lastUsed ≤ other.lastUsed := by
  unfold surplus at ht ⊢
  cases htickets : r.tickets with
  | nil =>
      rw [htickets] at ht
      cases ht
  | cons first rest =>
      simp only [htickets] at ht ⊢
      split at ht
      · next hfull =>
          rw [List.mem_singleton.mp ht, if_pos hfull]
          exact ⟨rfl, Ticket.lastUsed_oldest_le first rest⟩
      · cases ht

/-- A rejected opening writes no field and leaves the sessions it leaves registered untouched. It
keeps all those that are not idle just if the field is not there or there is room for one more;
else exactly one is lost, one unused for longest, which is cancelled. -/
theorem rejected_open_keeps_iff (h : InUse r)
    (rejected : (r.openSession name places).2 = .error fault) :
    (r.openSession name places).1.entries = r.entries ∧
      (∀ t ∈ (r.openSession name places).1.tickets, t ∈ r.tickets ∧ t.session.isOpen = true) ∧
      ((∀ t ∈ r.expire.tickets, t ∈ (r.openSession name places).1.tickets) ↔
        name ∉ r.entries.map (·.field.name) ∨ r.expire.tickets = [] ∨
          (r.expire.tickets.length : Int) < r.capacity) ∧
      ∀ t ∈ r.expire.tickets, t ∉ (r.openSession name places).1.tickets →
        t.abandoned ∈ (r.openSession name places).1.departed ∧
          ∀ other ∈ r.expire.tickets, t.lastUsed ≤ other.lastUsed ∧
            (other = t ∨ other ∈ (r.openSession name places).1.tickets) := by
  have horderly := h.orderly
  have hkept : ∀ t ∈ r.expire.tickets, t ∈ r.tickets := fun t ht => (mem_tickets_dismiss.mp ht).1
  refine ⟨entries_openSession r name places, ?_⟩
  rcases rejected_open_cases horderly rejected with ⟨hname, hsame⟩ | ⟨hname, hroomy⟩
  · rw [hsame]
    refine ⟨fun t ht => ⟨ht, horderly.isOpen t ht⟩, ?_, ?_⟩
    · exact ⟨fun _ => .inl hname, fun _ => hkept⟩
    · intro t ht hlost
      exact absurd (hkept t ht) hlost
  · rw [hroomy]
    have hleft : ∀ t ∈ r.expire.tickets,
        (t ∉ (r.expire.dismiss r.expire.surplus).tickets ↔ t ∈ r.expire.surplus) :=
      fun t ht => mem_surplus horderly.expire ht
    refine ⟨fun t ht => ?_, ?_, ?_⟩
    · have hmem := hkept t (mem_tickets_dismiss.mp ht).1
      exact ⟨hmem, horderly.isOpen t hmem⟩
    · have hcapacity : r.expire.capacity = r.capacity := by rw [expire_eq, dismiss_eq]
      rw [or_iff_right (not_not_intro hname), ← hcapacity, ← surplus_eq_nil_iff]
      constructor
      · intro hall
        refine List.eq_nil_iff_forall_not_mem.mpr fun t ht => ?_
        have hmem := r.expire.surplus_sublist.subset ht
        exact (hleft t hmem).mpr ht (hall t hmem)
      · intro hnone t ht
        by_contra hlost
        rw [hleft t ht, hnone] at hlost
        cases hlost
    · intro t ht hlost
      obtain ⟨hone, holdest⟩ := surplus_oldest ((hleft t ht).mp hlost)
      refine ⟨?_, fun other hother => ⟨holdest other hother, ?_⟩⟩
      · rw [dismiss_eq, hone]
        exact List.mem_append_right _ (List.mem_singleton_self _)
      · by_contra hneither
        rw [not_or, hleft other hother, hone, List.mem_singleton] at hneither
        exact hneither.1 hneither.2

/-- A host for one session, which is open, is asked for one with minus one places. -/
theorem rejected_open_at_capacity :
    ∃ r, InUse r ∧ (r.openSession "tips" (some (-1))).2 = .error (.negativePlaces (-1)) ∧
      ¬ ∀ t ∈ r.expire.tickets, t ∈ (r.openSession "tips" (some (-1))).1.tickets := by
  have inUse := (((InUse.empty 1800 1).taken (.addField "tips" none 2 (.float .zero))).apply
    (.openSession "tips" none))
  refine ⟨_, inUse, rfl, fun hall => ?_⟩
  rcases (rejected_open_keeps_iff inUse rfl).2.2.1.mp hall with hname | hnone | hroom
  · exact hname (List.mem_singleton_self _)
  · cases hnone
  · revert hroom
    decide

end FieldCalc.Registry
