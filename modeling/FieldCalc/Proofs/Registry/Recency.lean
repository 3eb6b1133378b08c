import FieldCalc.Proofs.Registry.Bookkeeping
import FieldCalc.Proofs.Registry.Faults
import Mathlib.Order.Nat

/-!
# Sessions by their last use

An opening first lets go of the sessions that have been idle for too long, and then of as few
others as make room for one more, those unused for longest. Of sessions used at the same time the
one that was opened first goes first: sessions are kept in the order of their numbers, and a
search for the least keeps the first one it finds.
-/

namespace FieldCalc

namespace Ticket

/-- Whether one session has to leave before another. -/
def LeavesBefore (t u : Ticket) : Prop :=
  t.lastUsed < u.lastUsed ∨ t.lastUsed = u.lastUsed ∧ t.number < u.number

theorem oldest_leavesBefore {first : Ticket} {rest : List Ticket}
    (h : (first :: rest).Pairwise (·.number < ·.number)) :
    ∀ t ∈ first :: rest, t = oldest first rest ∨ (oldest first rest).LeavesBefore t := by
  induction rest generalizing first with
  | nil => exact fun t ht => .inl (List.mem_singleton.mp ht)
  | cons u rest ih =>
      -- The search goes on from the second where that is earlier, else from the first.
      have hnumber : first.number < u.number := List.rel_of_pairwise_cons h List.mem_cons_self
      intro t ht
      unfold oldest
      split
      · next hearlier =>
          have holdest := lastUsed_oldest_le u rest u List.mem_cons_self
          rcases List.mem_cons.mp ht with rfl | ht
          · exact .inr (.inl (by omega))
          · exact ih h.of_cons t ht
      · next hlater =>
          have hfirst := ih (h.sublist ((List.sublist_cons_self u rest).cons_cons first))
          rcases List.mem_cons.mp ht with rfl | ht
          · exact hfirst t List.mem_cons_self
          · rcases List.mem_cons.mp ht with rfl | ht
            · -- The first one goes before `t`, and the oldest is the first or goes before it.
              right
              rcases hfirst first List.mem_cons_self with hsame | hbefore
              · rw [← hsame]
                unfold LeavesBefore
                omega
              · unfold LeavesBefore at hbefore ⊢
                omega
            · exact hfirst t (List.mem_cons_of_mem first ht)

end Ticket

namespace Registry

variable {r : Registry}

/-! ## The order of opening -/

/-- Sessions are registered in the order in which they were opened. -/
def Ascending (r : Registry) : Prop := r.tickets.Pairwise (·.number < ·.number)

theorem Ascending.of_sublist {next : Registry} (h : r.Ascending)
    (hsub : next.tickets.Sublist r.tickets) : next.Ascending :=
  List.Pairwise.sublist hsub h

theorem dismiss_sublist (r : Registry) (leaving : List Ticket) :
    (r.dismiss leaving).tickets.Sublist r.tickets := by
  rw [dismiss_eq]
  exact List.filter_sublist

theorem Ascending.update (h : r.Ascending) (t : Ticket) : (r.update t).Ascending := by
  have hnumbers : (r.tickets.map (·.number)).Pairwise (· < ·) := List.pairwise_map.mpr h
  rw [← numbers_update r t] at hnumbers
  exact List.pairwise_map.mp hnumbers

theorem Ascending.enrol (h : r.Ascending) (horderly : r.Orderly) (entry : Entry)
    (session : Session) : (r.enrol entry session).1.Ascending := by
  refine List.pairwise_append.mpr ⟨h, List.pairwise_singleton _ _, fun old hold t ht => ?_⟩
  rw [List.mem_singleton.mp ht]
  have hbound := (horderly.number_le (List.mem_append_left _ hold)).2
  exact Nat.lt_succ_of_le hbound

theorem Turn.ascending {call : Call} {next : Registry} (turn : Turn r call next)
    (horderly : r.Orderly) (h : r.Ascending) : next.Ascending := by
  have hcleared : ∀ first, (r.setClock first).cleared.Ascending := by
    intro first
    rw [cleared_eq_dismiss (horderly.setClock first)]
    exact h.of_sublist (dismiss_sublist (r.setClock first) _)
  cases turn with
  | added hadd =>
      obtain ⟨-, -, hnext⟩ := addField_eq_ok hadd
      rw [hnext]
      exact h
  | notAdded | quiet => exact h
  | @cleared first => exact hcleared first
  | @opened first second _ _ entry session =>
      have hroomy : ((r.setClock first).cleared.setClock second).Ascending := hcleared first
      exact hroomy.enrol ((horderly.setClock first).cleared.setClock second) entry session
  | @pressed first _ t _ actions =>
      exact Ascending.update (show (r.setClock first).Ascending from h) _
  | finished | cancelled => exact h.of_sublist List.filter_sublist
  | @expired first => exact h.of_sublist (dismiss_sublist (r.setClock first) _)

theorem InUse.ascending (h : InUse r) : r.Ascending := by
  induction h with
  | empty => exact List.Pairwise.nil
  | taken before call ih =>
      exact (turn_take before.issued.toProper before.orderly call).ascending before.orderly ih

/-! ## Making room -/

/-- Of the sessions held, these leave so that one more may be held, and those stay. -/
structure MakesRoom (capacity : Int) (held leaving staying : List Ticket) : Prop where
  leaving_sublist : leaving.Sublist held
  staying_eq : staying = held.filter fun t => t.number ∉ leaving.map (·.number)
  /-- No fewer make the rest less than the capacity; if none do, all leave. -/
  fewest : IsLeast {count | count ≤ held.length ∧
    (((held.length - count : Nat) : Int) < capacity ∨ count = held.length)} leaving.length
  leastRecent : ∀ gone ∈ leaving, ∀ kept ∈ staying, gone.LeavesBefore kept

theorem surplus_leavesBefore (hascending : r.Ascending) {gone : Ticket} (hgone : gone ∈ r.surplus) :
    ∀ t ∈ r.tickets, t = gone ∨ gone.LeavesBefore t := by
  unfold surplus at hgone
  unfold Ascending at hascending
  cases htickets : r.tickets with
  | nil =>
      rw [htickets] at hgone
      cases hgone
  | cons first rest =>
      simp only [htickets] at hgone hascending
      split at hgone
      · rw [List.mem_singleton.mp hgone]
        exact Ticket.oldest_leavesBefore hascending
      · cases hgone

theorem length_surplus_le (r : Registry) : r.surplus.length ≤ 1 := by
  unfold surplus
  split
  · exact Nat.zero_le 1
  · split
    · exact Nat.le_refl 1
    · exact Nat.zero_le 1

theorem makesRoom_surplus (h : r.Orderly) (hascending : r.Ascending) :
    MakesRoom r.capacity r.tickets r.surplus (r.dismiss r.surplus).tickets where
  leaving_sublist := r.surplus_sublist
  staying_eq := by rw [dismiss_eq]
  fewest := by
    -- At most the capacity are held, or one session, so that one has to go at most.
    have hlength := length_surplus_le r
    have hsublist := r.surplus_sublist.length_le
    have hcapped := h.capped
    have hnone : r.surplus.length = 0 ↔
        r.tickets.length = 0 ∨ (r.tickets.length : Int) < r.capacity := by
      rw [List.length_eq_zero_iff, surplus_eq_nil_iff, List.length_eq_zero_iff]
    constructor
    · exact ⟨hsublist, by omega⟩
    · rintro count ⟨hle, henough⟩
      omega
  leastRecent gone hgone kept hkept := by
    obtain ⟨hmem, hother⟩ := mem_tickets_dismiss.mp hkept
    refine (surplus_leavesBefore hascending hgone kept hmem).resolve_left ?_
    rintro rfl
    exact hother kept hgone rfl

/-! ## What leaves -/

/-- The sessions that have not been idle for too long. -/
def awake (r : Registry) : List Ticket :=
  r.tickets.filter fun t => r.now - r.idleSeconds < t.lastUsed

theorem tickets_expire (h : r.Orderly) : r.expire.tickets = r.awake := by
  rw [expire_eq, dismiss_eq, awake]
  refine List.filter_congr fun t ht => ?_
  have hidle : t.number ∈ r.idleTickets.map (·.number) ↔ t.lastUsed ≤ r.now - r.idleSeconds := by
    constructor
    · intro hmem
      obtain ⟨u, hu, hnumber⟩ := List.mem_map.mp hmem
      have hsame := h.eq_of_number (r.idleTickets_sublist.subset hu) ht hnumber
      rw [hsame] at hu
      simpa [isIdle] using (List.mem_filter.mp hu).2
    · intro hlate
      exact List.mem_map_of_mem (List.mem_filter.mpr ⟨ht, by simpa [isIdle] using hlate⟩)
  rw [Bool.eq_iff_iff, decide_eq_true_iff, decide_eq_true_iff, hidle, Int.not_le]

/-- Sessions have been cancelled and are gone, and no field has been written. -/
structure Cancels (r next : Registry) (leaving : List Ticket) : Prop where
  departed : next.departed = r.departed ++ leaving.map Ticket.abandoned
  cancelled : ∀ t ∈ next.departed.drop r.departed.length, t.session.state = .cancelled
  entries : next.entries = r.entries

theorem cancels_of_departed {next : Registry} {leaving : List Ticket}
    (departed : next.departed = r.departed ++ leaving.map Ticket.abandoned)
    (entries : next.entries = r.entries) : Cancels r next leaving where
  departed := departed
  cancelled t ht := by
    rw [departed, List.drop_left] at ht
    obtain ⟨old, -, rfl⟩ := List.mem_map.mp ht
    rfl
  entries := entries

theorem cancels_dismiss (r : Registry) (leaving : List Ticket) :
    Cancels r (r.dismiss leaving) leaving :=
  cancels_of_departed (by rw [dismiss_eq]) (by rw [dismiss_eq])

theorem openSession_eq_ok {name : String} {places : Option Int} {t : Ticket}
    (hopen : (r.openSession name places).2 = .ok t) : ∃ entry session,
      (r.openSession name places).1 = (r.cleared.enrol entry session).1 ∧
        t = (r.cleared.enrol entry session).2 := by
  unfold openSession at hopen ⊢
  cases hentry : r.entry? name with
  | error fault =>
      rw [hentry] at hopen
      cases hopen
  | ok entry =>
      simp only [hentry] at hopen ⊢
      cases hsession : sessionOn entry.field places with
      | error fault =>
          rw [hsession] at hopen
          cases hopen
      | ok session =>
          rw [hsession] at hopen
          exact ⟨entry, session, rfl, (Except.ok.inj hopen).symm⟩

/-- An opening lets the idle sessions go, and of the others those that have to make room. -/
theorem InUse.opened (h : InUse r) {name : String} {places : Option Int} {t : Ticket}
    (hopen : (r.openSession name places).2 = .ok t) :
    ∃ evicted staying, MakesRoom r.capacity r.awake evicted staying ∧
      (r.openSession name places).1.tickets = staying ++ [t] ∧ t.lastUsed = r.now ∧
      Cancels r (r.openSession name places).1 (r.idleTickets ++ evicted) := by
  have horderly := h.orderly
  have hroom := makesRoom_surplus horderly.expire
    (h.ascending.of_sublist (dismiss_sublist r r.idleTickets))
  have hcapacity : r.expire.capacity = r.capacity := by rw [expire_eq, dismiss_eq]
  rw [tickets_expire horderly, hcapacity, ← cleared_eq horderly] at hroom
  have hcancels := cancels_dismiss r r.crowd
  rw [← cleared_eq_dismiss horderly] at hcancels
  obtain ⟨entry, session, hnext, rfl⟩ := openSession_eq_ok hopen
  rw [hnext]
  exact ⟨r.expire.surplus, r.cleared.tickets, hroom, rfl, now_cleared horderly,
    cancels_of_departed hcancels.departed hcancels.entries⟩

theorem press_eq_ok (h : r.Orderly) {id : String} {keys : List LooseText} {t : Ticket}
    (hpress : (r.press id keys).2 = .ok t) :
    t.id = id ∧ t.lastUsed = r.now ∧ (r.press id keys).1 = r.update t := by
  cases hkeys : Action.ofKeys keys with
  | error fault =>
      rw [press_unknownKey hkeys] at hpress
      cases hpress
  | ok actions =>
      rcases registered_or_gone r id with ⟨old, hold, rfl⟩ | hid
      · rw [press_registered h hkeys hold] at hpress ⊢
        simp only at hpress
        split at hpress
        · cases hpress
        · cases hpress
          exact ⟨rfl, rfl, rfl⟩
      · rw [press_gone hkeys hid] at hpress
        cases hpress

theorem after_session (h : r.Orderly) (id : String) :
    r.roster.after (Keeping.session id) = r.roster := by
  unfold Roster.after
  rcases registered_or_gone r id with ⟨t, ht, rfl⟩ | hid
  · rw [Keeping.run_session h ht]
  · rw [Keeping.run_session_gone hid]

/-! ## What is used and what is not -/

/-- How the last use of sessions is kept and what it decides. -/
structure MindsUse (r : Registry) : Prop where
  ascending : r.Ascending
  /-- An opening cancels the idle sessions and those that have to make room, and no others. -/
  opened : ∀ name places t, (r.openSession name places).2 = .ok t →
    ∃ evicted staying, MakesRoom r.capacity r.awake evicted staying ∧
      (r.openSession name places).1.tickets = staying ++ [t] ∧ t.lastUsed = r.now ∧
      Cancels r (r.openSession name places).1 (r.idleTickets ++ evicted)
  /-- Asking for the idle sessions cancels them and returns their ids. -/
  expired : (Keeping.expireIdle r.now).run r.roster =
      .ok (r.idleTickets.map Ticket.id) r.expire.roster ∧
    r.expire.tickets = r.awake ∧ Cancels r r.expire r.idleTickets
  pressed : ∀ id keys t, (r.press id keys).2 = .ok t →
    t.id = id ∧ t.lastUsed = r.now ∧ (r.press id keys).1 = r.update t
  looked : ∀ id, r.roster.after (Keeping.session id) = r.roster
  /-- After a failure the sessions that are left are as they were, but for one whose keys were
  pressed up to a result that its precision cannot show. -/
  failed : ∀ op fault, r.fault? op = some fault →
    (∀ t ∈ (r.apply op).tickets, t ∈ r.tickets) ∨
      ∃ t ∈ r.tickets, ∃ keys actions, op = .press t.id keys ∧
        Action.ofKeys keys = .ok actions ∧ Display.maxShownPlaces < t.session.places ∧
        r.apply op = r.update (t.pressed actions r.now)

theorem mindsUse (h : InUse r) : r.MindsUse where
  ascending := h.ascending
  opened _ _ _ := h.opened
  expired := ⟨Keeping.run_expireIdle h.orderly r.now, tickets_expire h.orderly,
    cancels_dismiss r r.idleTickets⟩
  pressed _ _ _ := press_eq_ok h.orderly
  looked := after_session h.orderly
  failed op fault hfault := by
    have hfailed := failed_apply h hfault
    generalize r.apply op = next at hfailed ⊢
    cases hfailed with
    | unchanged => exact .inl fun t ht => ht
    | rejected => exact .inl fun t ht => (mem_tickets_dismiss.mp ht).1
    | cutShort registered known unshown =>
        exact .inr ⟨_, registered, _, _, rfl, known, unshown, rfl⟩

def unshownAtFive : List Operation := [.openSession "tips" (some 0x80000000), .setClock 5]

/-- A sum that cannot be shown is refused, and the session has been used all the same. -/
theorem mindsUse_unshown_sum :
    InUse (tipsOnly.run unshownAtFive) ∧ ∃ fault,
      (tipsOnly.run unshownAtFive).fault? (.press "s1" ["1", "+", "2", "="]) = some fault ∧
        ∃ t ∈ (tipsOnly.run unshownAtFive).tickets, t.lastUsed = 0 ∧
          Display.maxShownPlaces < t.session.places ∧
            ∃ used ∈ ((tipsOnly.run unshownAtFive).apply
              (.press "s1" ["1", "+", "2", "="])).tickets, used.id = t.id ∧ used.lastUsed = 5 := by
  have inUse := setUp_tipsOnly.inUse.run unshownAtFive
  have hbefore : ∀ t ∈ (tipsOnly.run unshownAtFive).tickets, t.lastUsed = 0 := by
    decide +kernel
  have hafter : ∃ t ∈ ((tipsOnly.run unshownAtFive).apply
      (.press "s1" ["1", "+", "2", "="])).tickets, t.lastUsed = 5 := by
    decide +kernel
  obtain ⟨fault, hfault⟩ := Option.isSome_iff_exists.mp (show ((tipsOnly.run unshownAtFive).fault?
    (.press "s1" ["1", "+", "2", "="])).isSome = true by decide +kernel)
  refine ⟨inUse, fault, hfault, ?_⟩
  rcases (mindsUse inUse).failed _ _ hfault with
    hsame | ⟨t, ht, keys, actions, -, -, hplaces, hnext⟩
  · obtain ⟨used, hused, hfive⟩ := hafter
    have hzero := hbefore used (hsame used hused)
    omega
  · refine ⟨t, ht, hbefore t ht, hplaces, t.pressed actions 5, ?_, rfl, rfl⟩
    rw [hnext]
    exact mem_tickets_update.mpr (.inl ⟨rfl, t, ht, rfl⟩)

end Registry

end FieldCalc
