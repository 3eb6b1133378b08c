import FieldCalc.Proofs.Session.Lists

/-!
# Cancelling

Whatever is called on a session before it is closed, cancelling takes it back to its start: the
buffer, the memory and the precision are those that it was opened with. The tape stays, and the
sink is never called. The same holds where the buffer has lists of its own.
-/

namespace FieldCalc

/-- Whether a call closes an open session. -/
def Call.closes : Call → Bool
  | done | cancel => true
  | press _ | pressAll _ | resultValue => false

namespace Session

variable {s t : Session} {initial : Binary64} {places : Nat}

theorem start_opened (h : opened initial places = .ok s) :
    s.start = s.calculator.buffer ∧ s.calculator.memory = .empty := by
  unfold opened at h
  split at h
  · split at h
    · cases h
    · cases h
      exact ⟨rfl, rfl⟩
  · cases h
    exact ⟨rfl, rfl⟩

/-- Open, and with the start and the precision of another session. -/
structure Continues (s t : Session) : Prop where
  isOpen : t.isOpen = true
  start : t.start = s.start
  places : t.places = s.places

theorem Continues.perform (h : s.Continues t) (action : Action) :
    s.Continues (t.perform action).state := by
  rw [Session.perform_of_open h.isOpen]
  exact ⟨h.isOpen, h.start, (t.calculator.stroke_press action).places_eq.trans h.places⟩

theorem Continues.press (h : s.Continues t) (key : LooseText) :
    s.Continues (t.press key).state := by
  unfold Session.press
  cases Action.ofKey key with
  | error fault => exact h
  | ok action => exact h.perform action

theorem Continues.pressAll (h : s.Continues t) (keys : List LooseText) :
    s.Continues (t.pressAll keys).state :=
  Outcome.forEach_keeps s.Continues (fun _ key ht => ht.press key) h keys

theorem Continues.abandoned (h : s.Continues t) (hstart : s.start = s.calculator.buffer)
    (hmemory : s.calculator.memory = .empty) :
    t.abandoned = { s with state := .cancelled } := by
  have hplaces : t.calculator.places = s.calculator.places := h.places
  simp only [Session.abandoned, h.start, hstart, hplaces, ← hmemory]

end Session

namespace Holding

variable {s : Session} {h : Holding}

theorem continues_call (hsession : s.Continues h.session) {call : Call}
    (hcall : call.closes = false) :
    s.Continues (h.call call).1.session ∧ (h.call call).1.received = h.received := by
  cases call with
  | press key => exact ⟨hsession.press key, rfl⟩
  | pressAll keys => exact ⟨hsession.pressAll keys, rfl⟩
  | resultValue => exact ⟨hsession, rfl⟩
  | done | cancel => cases hcall

theorem continues_run (hsession : s.Continues h.session) {calls : List Call}
    (hcalls : ∀ call ∈ calls, call.closes = false) :
    s.Continues (h.run calls).session ∧ (h.run calls).received = h.received := by
  induction calls generalizing h with
  | nil => exact ⟨hsession, rfl⟩
  | cons call rest ih =>
      obtain ⟨hcall, hrest⟩ := List.forall_mem_cons.mp hcalls
      obtain ⟨hnext, hreceived⟩ := continues_call hsession hcall
      obtain ⟨hlast, hsame⟩ := ih hnext hrest
      exact ⟨hlast, hsame.trans hreceived⟩

end Holding

/-- What cancelling comes to for a session and the lists of its buffer, `s` being the session as
it was opened. -/
structure Restores (s : Session) (before : Holding) (k : SessionObjects) : Prop where
  answered : (before.call .cancel).2 = .nothing
  buffer : (before.call .cancel).1.session.calculator.buffer = s.calculator.buffer
  memory : (before.call .cancel).1.session.calculator.memory.value = .zero
  session : (before.call .cancel).1.session = { s with state := .cancelled }
  tape : (before.call .cancel).1.tape = before.tape
  uncommitted : (before.call .cancel).1.session.state.committed? = none
  unreceived : (before.call .cancel).1.received = []
  /-- Whatever the keys have made of the list that the buffer holds. -/
  shown : k.Shows before.session
  copy : k.buffer.recorded k.start = s.calculator.buffer.contents
  lists : (k.call .cancel).buffer.contents = s.calculator.buffer.contents

/-- Cancelling restores the start of a session, whatever was called on it and whatever tape it
records on, and leaves nothing of it but the tape. -/
theorem restores_cancelled {initial : Binary64} {places : Nat} {s : Session}
    (h : Session.opened initial places = .ok s) (tape : Tape) {calls : List Call}
    (hcalls : ∀ call ∈ calls, call.closes = false) :
    ∃ k, SessionObjects.opened initial places = .ok k ∧
      Restores s ((⟨s, tape, []⟩ : Holding).run calls) (k.run calls) := by
  obtain ⟨hstart, hmemory⟩ := Session.start_opened h
  have hself : s.Continues s := ⟨Session.isOpen_opened h, rfl, rfl⟩
  obtain ⟨k, hk, hshows⟩ := SessionObjects.shows_opened h
  obtain ⟨hsession, hreceived⟩ :=
    Holding.continues_run (h := ⟨s, tape, []⟩) hself hcalls
  have hlists := SessionObjects.Shows.run (s := ⟨s, tape, []⟩) hshows calls
  generalize (⟨s, tape, []⟩ : Holding).run calls = before at *
  have habandoned := hsession.abandoned hstart hmemory
  have hcancel : before.call .cancel =
      ({ before with session := { s with state := .cancelled } }, .nothing) := by
    rw [← habandoned]
    simp only [Holding.call, Session.cancel_of_open hsession.isOpen]
  refine ⟨k, hk, ?_⟩
  constructor
  case shown => exact hlists
  case copy => rw [hlists.start, hsession.start, hstart]
  case lists => rw [(hlists.call .cancel).buffer, hcancel]
  all_goals rw [hcancel]
  case memory => rw [hmemory]; rfl
  case unreceived => exact hreceived
  all_goals rfl

/-- A sum, and then a division by zero, on a session that was opened on twelve. -/
theorem restores_afterError : ∃ s calls k,
    Session.opened (Binary64.ofNat 12) 2 = .ok s ∧ s.display = "12".toList ∧
      ((Holding.opened s).run calls).session.display = Display.errorText ∧
      ((Holding.opened s).run calls).tape.steps.length = 1 ∧
      Restores s ((Holding.opened s).run calls) k := by
  let s : Session := ⟨(Calculator.fresh 2).edit (·.loadNumber "12".toList), .open,
    Buffer.fresh.loadNumber "12".toList⟩
  have hopened : Session.opened (Binary64.ofNat 12) 2 = .ok s :=
    eq_ok_of_toOption (by decide +kernel)
  let calls : List Call := [.pressAll ["M+", "+", "3", "="], .pressAll ["/", "0", "="]]
  have hcalls : ∀ call ∈ calls, call.closes = false := by
    intro call hcall
    simp only [calls, List.mem_cons, List.not_mem_nil, or_false] at hcall
    rcases hcall with rfl | rfl <;> rfl
  obtain ⟨k, -, hrestores⟩ := restores_cancelled hopened .empty hcalls
  exact ⟨s, calls, _, hopened, by decide +kernel, by decide +kernel, by decide +kernel,
    hrestores⟩

end FieldCalc
