import FieldCalc.Proofs.Registry.Run
import FieldCalc.Proofs.Session.Lifecycle

/-!
# The sessions of a host

Every session that a host has opened is in one of two places. It is registered and open, or it
has left the registry and is closed. What leaves and what enters goes through a few functions of
the registry; what each does to the two places is found here, and with it that the places stay in
order.
-/

namespace FieldCalc

namespace Ticket

theorem id_inj {t u : Ticket} : t.id = u.id ↔ t.number = u.number := by
  constructor
  · intro h
    have hrepr : t.number.repr = u.number.repr := by simpa [id] using h
    have hdigits : Nat.toDigits 10 t.number = Nat.toDigits 10 u.number := by
      rw [← Nat.toList_repr, hrepr, Nat.toList_repr]
    calc t.number
        = Nat.ofDigitChars 10 (Nat.toDigits 10 t.number) 0 :=
          (Nat.ofDigitChars_toDigits (by decide) (by decide)).symm
      _ = u.number := by rw [hdigits, Nat.ofDigitChars_toDigits (by decide) (by decide)]
  · intro h
    rw [id, h, id]

/-- The ticket after keys were pressed on its session. -/
def pressed (t : Ticket) (actions : List Action) (now : Int) : Ticket :=
  { t with
    session := (t.session.performAll actions).state
    tape := t.tape.record (t.session.performAll actions).steps
    lastUsed := now }

theorem oldest_mem (first : Ticket) (rest : List Ticket) :
    oldest first rest ∈ first :: rest := by
  induction rest generalizing first with
  | nil => exact List.mem_cons_self
  | cons t rest ih =>
      unfold oldest
      split
      · exact List.mem_cons_of_mem first (ih t)
      · rcases List.mem_cons.mp (ih first) with h | h
        · rw [h]
          exact List.mem_cons_self
        · exact List.mem_cons_of_mem first (List.mem_cons_of_mem t h)

theorem lastUsed_oldest_le (first : Ticket) (rest : List Ticket) :
    ∀ t ∈ first :: rest, (oldest first rest).lastUsed ≤ t.lastUsed := by
  induction rest generalizing first with
  | nil =>
      intro t ht
      rw [List.mem_singleton.mp ht]
      exact Int.le_refl _
  | cons u rest ih =>
      intro t ht
      unfold oldest
      split
      · next hlt =>
          have hu := ih u u List.mem_cons_self
          rcases List.mem_cons.mp ht with rfl | ht
          · omega
          · exact ih u t ht
      · next hge =>
          have hfirst := ih first first List.mem_cons_self
          rcases List.mem_cons.mp ht with rfl | ht
          · exact hfirst
          · rcases List.mem_cons.mp ht with rfl | ht
            · omega
            · exact ih first t (List.mem_cons_of_mem first ht)

end Ticket

namespace Registry

/-- The two places of sessions, in order. -/
structure Orderly (r : Registry) : Prop where
  /-- Each number given out is that of one session, registered or gone. -/
  numbers : ((r.tickets ++ r.departed).map (·.number)).Perm (List.range' 1 r.opened)
  isOpen : ∀ t ∈ r.tickets, t.session.isOpen = true
  closed : ∀ t ∈ r.departed, t.session.isOpen = false
  named : ∀ t ∈ r.tickets, t.fieldName ∈ r.entries.map (·.field.name)
  capped : (r.tickets.length : Int) ≤ max 1 r.capacity

namespace Orderly

variable {r : Registry}

theorem nodup (h : r.Orderly) : ((r.tickets ++ r.departed).map (·.number)).Nodup :=
  h.numbers.nodup_iff.mpr List.nodup_range'

theorem nodup_tickets (h : r.Orderly) : (r.tickets.map (·.number)).Nodup := by
  have hboth := h.nodup
  rw [List.map_append] at hboth
  exact (List.nodup_append.mp hboth).1

theorem eq_of_number (h : r.Orderly) {t u : Ticket} (ht : t ∈ r.tickets) (hu : u ∈ r.tickets)
    (heq : t.number = u.number) : t = u :=
  List.inj_on_of_nodup_map h.nodup_tickets ht hu heq

/-- No session is both registered and gone. -/
theorem number_ne (h : r.Orderly) {t u : Ticket} (ht : t ∈ r.tickets) (hu : u ∈ r.departed) :
    t.number ≠ u.number := by
  have hboth := h.nodup
  rw [List.map_append] at hboth
  exact (List.nodup_append.mp hboth).2.2 _ (List.mem_map_of_mem ht) _ (List.mem_map_of_mem hu)

theorem number_le (h : r.Orderly) {t : Ticket} (ht : t ∈ r.tickets ++ r.departed) :
    1 ≤ t.number ∧ t.number ≤ r.opened := by
  have hmem := h.numbers.mem_iff.mp (List.mem_map_of_mem ht)
  rw [List.mem_range'_1] at hmem
  omega

/-- Every session that was opened is somewhere. -/
theorem exists_of_number (h : r.Orderly) {n : Nat} (hlow : 1 ≤ n) (hhigh : n ≤ r.opened) :
    ∃ t ∈ r.tickets ++ r.departed, t.number = n := by
  have hmem : n ∈ (r.tickets ++ r.departed).map (·.number) := by
    rw [h.numbers.mem_iff, List.mem_range'_1]
    omega
  exact List.mem_map.mp hmem

end Orderly

/-! ## Looking sessions up -/

theorem ticket?_eq_ok {r : Registry} {id : String} {t : Ticket} (h : r.ticket? id = .ok t) :
    t ∈ r.tickets ∧ t.id = id := by
  unfold ticket? at h
  split at h
  · next found hfound =>
      cases h
      exact ⟨List.mem_of_find?_eq_some hfound, by simpa using List.find?_some hfound⟩
  · cases h

theorem ticket?_of_mem {r : Registry} (h : r.Orderly) {t : Ticket} (ht : t ∈ r.tickets) :
    r.ticket? t.id = .ok t := by
  unfold ticket?
  split
  · next found hfound =>
      have hmem := List.mem_of_find?_eq_some hfound
      have hid : found.id = t.id := by simpa using List.find?_some hfound
      rw [h.eq_of_number hmem ht (Ticket.id_inj.mp hid)]
  · next hnone =>
      have hno := List.find?_eq_none.mp hnone t ht
      simp at hno

theorem ticket?_eq_error {r : Registry} {id : String} (h : ∀ t ∈ r.tickets, t.id ≠ id) :
    r.ticket? id = .error (.unknownSession id) := by
  unfold ticket?
  split
  · next found hfound =>
      have hid : found.id = id := by simpa using List.find?_some hfound
      exact absurd hid (h found (List.mem_of_find?_eq_some hfound))
  · rfl

/-! ## Leaving -/

/-- The numbers after one session has gone from one place to the other. -/
private theorem numbers_depart {r : Registry} (h : r.Orderly) {t gone : Ticket}
    (ht : t ∈ r.tickets) (hnumber : gone.number = t.number) :
    (((r.depart gone).tickets ++ (r.depart gone).departed).map (·.number)).Perm
      ((r.tickets ++ r.departed).map (·.number)) := by
  have hmem : gone.number ∈ r.tickets.map (·.number) := hnumber ▸ List.mem_map_of_mem ht
  have herase : (r.depart gone).tickets.map (·.number) =
      (r.tickets.map (·.number)).erase gone.number := by
    rw [h.nodup_tickets.erase_eq_filter, List.filter_map]
    rfl
  have hback : (r.depart gone).departed = r.departed ++ [gone] := rfl
  rw [List.map_append, List.map_append, herase, hback, List.map_append, ← List.append_assoc]
  exact (List.perm_append_singleton _ _).trans
    ((List.perm_cons_erase hmem).symm.append_right _)

theorem mem_tickets_depart {r : Registry} {gone t : Ticket} :
    t ∈ (r.depart gone).tickets ↔ t ∈ r.tickets ∧ t.number ≠ gone.number := by
  simp [depart]

theorem Orderly.depart {r : Registry} (h : r.Orderly) {t gone : Ticket} (ht : t ∈ r.tickets)
    (hnumber : gone.number = t.number) (hclosed : gone.session.isOpen = false) :
    (r.depart gone).Orderly where
  numbers := (numbers_depart h ht hnumber).trans h.numbers
  isOpen u hu := h.isOpen u (mem_tickets_depart.mp hu).1
  closed u hu := by
    rcases List.mem_append.mp hu with hu | hu
    · exact h.closed u hu
    · rw [List.mem_singleton.mp hu]
      exact hclosed
  named u hu := h.named u (mem_tickets_depart.mp hu).1
  capped := by
    have hshorter : (r.depart gone).tickets.length ≤ r.tickets.length := List.length_filter_le _ _
    have hcapped := h.capped
    have hcapacity : (r.depart gone).capacity = r.capacity := rfl
    omega

theorem Orderly.depart_abandoned {r : Registry} (h : r.Orderly) {t : Ticket}
    (ht : t ∈ r.tickets) : (r.depart t.abandoned).Orderly :=
  h.depart ht rfl t.session.abandoned_closed

/-- Cancels some of the sessions, one after the other. -/
def dismiss (r : Registry) (leaving : List Ticket) : Registry :=
  leaving.foldl (fun r t => r.depart t.abandoned) r

@[simp] theorem dismiss_nil (r : Registry) : r.dismiss [] = r := rfl

theorem dismiss_cons (r : Registry) (t : Ticket) (rest : List Ticket) :
    r.dismiss (t :: rest) = (r.depart t.abandoned).dismiss rest := rfl

theorem expire_eq (r : Registry) : r.expire = r.dismiss r.idleTickets := rfl

/-- Cancelling sessions changes nothing else. -/
theorem dismiss_eq (r : Registry) (leaving : List Ticket) :
    r.dismiss leaving = { r with
      tickets := r.tickets.filter fun t => t.number ∉ leaving.map (·.number)
      departed := r.departed ++ leaving.map Ticket.abandoned } := by
  induction leaving generalizing r with
  | nil => simp
  | cons t rest ih =>
      have hstay : (r.depart t.abandoned).tickets.filter
            (fun u => u.number ∉ rest.map (·.number)) =
          r.tickets.filter fun u => u.number ∉ (t :: rest).map (·.number) := by
        rw [Registry.depart, List.filter_filter]
        refine List.filter_congr fun u _ => ?_
        rw [Bool.eq_iff_iff]
        simp [Ticket.abandoned, and_comm]
      rw [dismiss_cons, ih, hstay]
      simp [Registry.depart]

theorem mem_tickets_dismiss {r : Registry} {leaving : List Ticket} {t : Ticket} :
    t ∈ (r.dismiss leaving).tickets ↔ t ∈ r.tickets ∧ ∀ u ∈ leaving, t.number ≠ u.number := by
  simp [dismiss_eq, eq_comm]

/-- After the first of some sessions has left, the others are still there. -/
theorem Orderly.sublist_depart {r : Registry} (h : r.Orderly) {t : Ticket} {rest : List Ticket}
    (hleaving : (t :: rest).Sublist r.tickets) :
    rest.Sublist (r.depart t.abandoned).tickets := by
  have hnodup := (hleaving.map (·.number)).nodup h.nodup_tickets
  obtain ⟨hnew, -⟩ := List.nodup_cons.mp hnodup
  have hrest : (t :: rest).filter (·.number != t.number) = rest := by
    rw [List.filter_cons_of_neg (by simp), List.filter_eq_self]
    intro u hu
    have hne : u.number ≠ t.number := fun heq => hnew (List.mem_map.mpr ⟨u, hu, heq⟩)
    simpa using hne
  have hfilter := hleaving.filter (·.number != t.number)
  rw [hrest] at hfilter
  exact hfilter

theorem Orderly.dismiss {r : Registry} (h : r.Orderly) {leaving : List Ticket}
    (hleaving : leaving.Sublist r.tickets) : (r.dismiss leaving).Orderly := by
  induction leaving generalizing r with
  | nil => exact h
  | cons t rest ih =>
      have ht := hleaving.subset List.mem_cons_self
      exact ih (h.depart_abandoned ht) (h.sublist_depart hleaving)

theorem idleTickets_sublist (r : Registry) : r.idleTickets.Sublist r.tickets :=
  List.filter_sublist

theorem Orderly.expire {r : Registry} (h : r.Orderly) : r.expire.Orderly :=
  h.dismiss r.idleTickets_sublist

/-! ## Making room -/

/-- The session that has to leave before another may be opened, if one has to. -/
def surplus (r : Registry) : List Ticket :=
  match r.tickets with
  | [] => []
  | first :: rest => if r.capacity ≤ r.tickets.length then [Ticket.oldest first rest] else []

theorem surplus_sublist (r : Registry) : r.surplus.Sublist r.tickets := by
  unfold surplus
  split
  · exact List.nil_sublist _
  · next first rest heq =>
      split
      · rw [heq]
        exact List.singleton_sublist.mpr (Ticket.oldest_mem first rest)
      · exact List.nil_sublist _

theorem surplus_eq_nil_iff {r : Registry} :
    r.surplus = [] ↔ r.tickets = [] ∨ (r.tickets.length : Int) < r.capacity := by
  unfold surplus
  cases htickets : r.tickets with
  | nil => simp
  | cons first rest =>
      simp only [ite_eq_right_iff, List.cons_ne_self, imp_false, reduceCtorEq, false_or]
      omega

/-- After it has left, no other has to: there is never more than one session too many. -/
theorem surplus_dismiss {r : Registry} (h : r.Orderly) : (r.dismiss r.surplus).surplus = [] := by
  cases htickets : r.tickets with
  | nil =>
      have hnone : r.surplus = [] := surplus_eq_nil_iff.mpr (.inl htickets)
      rw [hnone, dismiss_nil, hnone]
  | cons first rest =>
      by_cases hfull : r.capacity ≤ r.tickets.length
      · have hold : r.surplus = [Ticket.oldest first rest] := by
          simp only [surplus, htickets]
          rw [if_pos (htickets ▸ hfull)]
        have hmem : Ticket.oldest first rest ∈ r.tickets := htickets ▸ Ticket.oldest_mem first rest
        have hone : r.dismiss r.surplus = r.depart (Ticket.oldest first rest).abandoned := by
          rw [hold]
          rfl
        have hlength : (r.depart (Ticket.oldest first rest).abandoned).tickets.length + 1 =
            r.tickets.length := by
          have hnumbers := (numbers_depart h hmem
            (show (Ticket.oldest first rest).abandoned.number = _ from rfl)).length_eq
          simp only [List.length_map, List.length_append] at hnumbers
          simp only [Registry.depart, List.length_append, List.length_singleton] at hnumbers ⊢
          omega
        have hcapacity : (r.depart (Ticket.oldest first rest).abandoned).capacity = r.capacity :=
          rfl
        have hcapped := h.capped
        rw [hone, surplus_eq_nil_iff, hcapacity, ← List.length_eq_zero_iff]
        omega
      · have hnone : r.surplus = [] := by
          rw [surplus_eq_nil_iff]
          right
          omega
        rw [hnone, dismiss_nil, hnone]

private theorem makeRoom_of_room {r : Registry} (h : r.surplus = []) (count : Nat) :
    makeRoom count r = r := by
  cases count with
  | zero => rfl
  | succ count =>
      unfold makeRoom
      split
      · rfl
      · next first rest heq =>
          have hroom := surplus_eq_nil_iff.mp h
          simp only [heq, reduceCtorEq, false_or] at hroom
          rw [heq, if_neg (by omega)]

theorem makeRoom_eq {r : Registry} (h : r.Orderly) :
    makeRoom r.tickets.length r = r.dismiss r.surplus := by
  have hroom := surplus_dismiss h
  unfold surplus at hroom ⊢
  split
  · next htickets =>
      rw [htickets]
      rfl
  · next first rest htickets =>
      simp only [htickets, List.length_cons, makeRoom] at hroom ⊢
      split
      · next hfull =>
          rw [if_pos hfull] at hroom
          exact makeRoom_of_room hroom rest.length
      · rfl

/-- The registry after idle sessions have gone and room has been made. -/
def cleared (r : Registry) : Registry := makeRoom r.expire.tickets.length r.expire

theorem cleared_eq {r : Registry} (h : r.Orderly) :
    r.cleared = r.expire.dismiss r.expire.surplus :=
  makeRoom_eq h.expire

/-- The sessions that leave so that another may be opened. -/
def crowd (r : Registry) : List Ticket := r.idleTickets ++ r.expire.surplus

theorem cleared_eq_dismiss {r : Registry} (h : r.Orderly) : r.cleared = r.dismiss r.crowd := by
  rw [cleared_eq h, crowd, dismiss, dismiss, List.foldl_append]
  rfl

theorem crowd_subset (r : Registry) : ∀ t ∈ r.crowd, t ∈ r.tickets := by
  intro t ht
  rcases List.mem_append.mp ht with ht | ht
  · exact r.idleTickets_sublist.subset ht
  · exact (mem_tickets_dismiss.mp (r.expire.surplus_sublist.subset ht)).1

theorem Orderly.cleared {r : Registry} (h : r.Orderly) : r.cleared.Orderly := by
  rw [cleared_eq h]
  exact h.expire.dismiss r.expire.surplus_sublist

theorem surplus_cleared {r : Registry} (h : r.Orderly) : r.cleared.surplus = [] := by
  rw [cleared_eq h]
  exact surplus_dismiss h.expire

theorem entries_cleared (r : Registry) : r.cleared.entries = r.entries :=
  (entries_makeRoom _ _).trans r.entries_expire

/-! ## Entering and staying -/

theorem Orderly.enrol {r : Registry} (h : r.Orderly) (hroom : r.surplus = []) {entry : Entry}
    (hentry : entry ∈ r.entries) {session : Session} (hopen : session.isOpen = true) :
    (r.enrol entry session).1.Orderly where
  numbers := by
    have hrange : List.range' 1 (r.opened + 1) = List.range' 1 r.opened ++ [1 + r.opened] :=
      List.range'_1_concat
    have hfresh : (r.enrol entry session).1.opened = r.opened + 1 := rfl
    rw [hfresh, hrange, Nat.add_comm 1]
    refine List.Perm.trans ?_ (h.numbers.append_right _)
    simp only [Registry.enrol, List.map_append, List.append_assoc]
    exact List.perm_append_comm.append_left _
  isOpen t ht := by
    rcases List.mem_append.mp ht with ht | ht
    · exact h.isOpen t ht
    · rw [List.mem_singleton.mp ht]
      exact hopen
  closed := h.closed
  named t ht := by
    rcases List.mem_append.mp ht with ht | ht
    · exact h.named t ht
    · rw [List.mem_singleton.mp ht]
      exact List.mem_map_of_mem hentry
  capped := by
    have hlength : (r.enrol entry session).1.tickets.length = r.tickets.length + 1 := by
      simp [Registry.enrol]
    have hcapacity : (r.enrol entry session).1.capacity = r.capacity := rfl
    have hfree := surplus_eq_nil_iff.mp hroom
    rw [← List.length_eq_zero_iff] at hfree
    omega

theorem mem_tickets_update {r : Registry} {new t : Ticket} :
    t ∈ (r.update new).tickets ↔
      (t = new ∧ ∃ old ∈ r.tickets, old.number = new.number) ∨
        (t ∈ r.tickets ∧ t.number ≠ new.number) := by
  simp only [update, List.mem_map]
  constructor
  · rintro ⟨old, hold, heq⟩
    split at heq
    · next hnumber => exact .inl ⟨heq.symm, old, hold, hnumber⟩
    · next hnumber => exact .inr ⟨heq ▸ hold, heq ▸ hnumber⟩
  · rintro (⟨rfl, old, hold, hnumber⟩ | ⟨ht, hnumber⟩)
    · exact ⟨old, hold, if_pos hnumber⟩
    · exact ⟨t, ht, if_neg hnumber⟩

theorem numbers_update (r : Registry) (new : Ticket) :
    (r.update new).tickets.map (·.number) = r.tickets.map (·.number) := by
  simp only [update, List.map_map]
  refine List.map_congr_left fun old _ => ?_
  simp only [Function.comp_apply]
  split
  · next hnumber => exact hnumber.symm
  · rfl

theorem Orderly.update {r : Registry} (h : r.Orderly) {t new : Ticket} (ht : t ∈ r.tickets)
    (hname : new.fieldName = t.fieldName) (hopen : new.session.isOpen = true) :
    (r.update new).Orderly where
  numbers := by
    have hnumbers := h.numbers
    rw [List.map_append] at hnumbers ⊢
    rw [numbers_update]
    exact hnumbers
  isOpen u hu := by
    rcases mem_tickets_update.mp hu with ⟨rfl, -⟩ | ⟨hu, -⟩
    · exact hopen
    · exact h.isOpen u hu
  closed := h.closed
  named u hu := by
    rcases mem_tickets_update.mp hu with ⟨rfl, -⟩ | ⟨hu, -⟩
    · rw [hname]
      exact h.named t ht
    · exact h.named u hu
  capped := by
    have hlength : (r.update new).tickets.length = r.tickets.length := List.length_map _
    have hcapacity : (r.update new).capacity = r.capacity := rfl
    have hcapped := h.capped
    omega

/-- Sessions do not depend on the fields but for their names. -/
theorem Orderly.withEntries {r : Registry} (h : r.Orderly) {entries : List Entry}
    (hnames : ∀ name ∈ r.entries.map (·.field.name), name ∈ entries.map (·.field.name)) :
    Orderly { r with entries } where
  numbers := h.numbers
  isOpen := h.isOpen
  closed := h.closed
  named t ht := hnames _ (h.named t ht)
  capped := h.capped

theorem Orderly.setClock {r : Registry} (h : r.Orderly) (now : Int) : (r.setClock now).Orderly :=
  ⟨h.numbers, h.isOpen, h.closed, h.named, h.capped⟩

end Registry

end FieldCalc
