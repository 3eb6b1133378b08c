import FieldCalc.Proofs.Calculator.Changes
import FieldCalc.Proofs.Calculator.Showable
import FieldCalc.Proofs.Session.Calls

/-!
# A session with lists of its own

The buffer of a session may be kept in a list, and what it was at the start in a copy of that
list. The session then does under every call what it does otherwise, since no key reaches the copy
and going back copies it once more.
-/

namespace FieldCalc

structure SessionObjects where
  places : Nat
  memory : Memory
  state : SessionState
  buffer : Objects
  start : Snapshot
  kept : start.list < buffer.lists.length
  apart : start.list ≠ buffer.live

namespace SessionObjects

def fresh : Objects := ⟨[[Token.zero]], 0, false, none, false, Nat.one_pos⟩

/-- A session that starts from a buffer, with a copy of its list. -/
def startedOn (places : Nat) (m : Objects) : SessionObjects :=
  { places, memory := .empty, state := .open, buffer := m.copied, start := m.snapshot
    kept := by
      rw [Objects.copied, List.length_append]
      exact Nat.lt_succ_self _
    apart := Nat.ne_of_gt m.held }

def opened (initial : Binary64) (places : Nat) : Except Fault SessionObjects :=
  if initial.isFinite && initial.isPositive then
    match Display.format places initial with
    | .error fault => .error fault
    | .ok text => .ok (startedOn places (fresh.applyAll (Buffer.loadChanges text)))
  else .ok (startedOn places fresh)

variable (k : SessionObjects)

/-- The calculator that is read off the lists. -/
def calculator : Calculator := ⟨k.places, k.buffer.contents.buffer, k.memory⟩

/-! ## Calls -/

def pressed (action : Action) : SessionObjects :=
  { k with
    memory := (k.calculator.press action).state.memory
    buffer := k.buffer.applyAll (k.calculator.pressChanges action)
    kept := (Objects.spares_applyAll _ k.kept k.apart).lt
    apart := (Objects.spares_applyAll _ k.kept k.apart).apart }

def perform (action : Action) : Outcome SessionObjects :=
  if k.state == .open then
    let o := k.calculator.press action
    ⟨k.pressed action, o.steps, o.feedback, o.fault⟩
  else .refused k (.sessionClosed k.state.name)

def press (key : LooseText) : Outcome SessionObjects :=
  match Action.ofKey key with
  | .error fault => .refused k fault
  | .ok action => k.perform action

def pressAll (keys : List LooseText) : Outcome SessionObjects := Outcome.forEach press k keys

def resultValue : Binary64 :=
  match Display.plainNumber? k.calculator.display with
  | some value => Display.commit k.places value
  | none => .zero

def cancelled : SessionObjects :=
  { k with
    memory := .empty
    state := .cancelled
    buffer := k.buffer.restored k.start
    kept := (Objects.spares_restored k.start k.kept).lt
    apart := (Objects.spares_restored k.start k.kept).apart }

def call : Call → SessionObjects
  | .press key => (k.press key).state
  | .pressAll keys => (k.pressAll keys).state
  | .resultValue => k
  | .done => if k.state == .open then { k with state := .committed k.resultValue } else k
  | .cancel => if k.state == .open then k.cancelled else k

def run (calls : List Call) : SessionObjects := calls.foldl call k

/-! ## What is seen -/

/-- Whether all that is seen is a session. -/
structure Shows (s : Session) : Prop where
  places : k.places = s.calculator.places
  memory : k.memory = s.calculator.memory
  state : k.state = s.state
  buffer : k.buffer.contents = s.calculator.buffer.contents
  start : k.buffer.recorded k.start = s.start.contents

variable {k} {s : Session}

theorem Shows.calculator (h : k.Shows s) : k.calculator = s.calculator := by
  rw [SessionObjects.calculator, h.places, h.memory, h.buffer, Buffer.buffer_contents]

theorem shows_startedOn (places : Nat) {m : Objects} {b : Buffer}
    (h : m.contents = b.contents) :
    (startedOn places m).Shows ⟨⟨places, b, .empty⟩, .open, b⟩ where
  places := rfl
  memory := rfl
  state := rfl
  buffer := (Objects.contents_copied m).trans h
  start := (Objects.recorded_copied m).trans h

theorem shows_opened {initial : Binary64} {places : Nat}
    (h : Session.opened initial places = .ok s) :
    ∃ k, opened initial places = .ok k ∧ k.Shows s := by
  unfold Session.opened at h
  unfold opened
  split
  · next hseed =>
      rw [if_pos hseed] at h
      cases hformat : Display.format places initial with
      | error fault =>
          rw [hformat] at h
          cases h
      | ok text =>
          rw [hformat] at h
          cases h
          exact ⟨_, rfl, shows_startedOn places (Objects.contents_applyAll _ _)⟩
  · next hseed =>
      rw [if_neg hseed] at h
      cases h
      exact ⟨_, rfl, shows_startedOn places rfl⟩

theorem Shows.pressed (h : k.Shows s) (action : Action) :
    (k.pressed action).Shows (s.withCalculator (s.calculator.press action).state) where
  places := by
    rw [Session.withCalculator, (s.calculator.stroke_press action).places_eq]
    exact h.places
  memory := congrArg (fun c : Calculator => (c.press action).state.memory) h.calculator
  state := h.state
  buffer := by
    refine (Objects.contents_applyAll _ _).trans ?_
    rw [h.calculator, h.buffer, ← Calculator.contents_press]
    rfl
  start := by
    refine Eq.trans ?_ h.start
    exact congrArg (Contents.mk · _ _ _) (Objects.spares_applyAll _ k.kept k.apart).same

theorem Shows.perform (h : k.Shows s) (action : Action) :
    (k.perform action).Agrees Shows (s.perform action) := by
  unfold SessionObjects.perform Session.perform Session.isOpen
  rw [h.state, h.calculator]
  split
  · exact ⟨h.pressed action, rfl, rfl, rfl⟩
  · exact ⟨h, rfl, rfl, rfl⟩

theorem Shows.press (h : k.Shows s) (key : LooseText) :
    (k.press key).Agrees Shows (s.press key) := by
  unfold SessionObjects.press Session.press
  cases Action.ofKey key with
  | error fault => exact ⟨h, rfl, rfl, rfl⟩
  | ok action => exact h.perform action

theorem Shows.resultValue (h : k.Shows s) : k.resultValue = s.resultValue := by
  rw [SessionObjects.resultValue, h.calculator, h.places]
  rfl

theorem Shows.cancelled (h : k.Shows s) : k.cancelled.Shows s.abandoned where
  places := h.places
  memory := rfl
  state := rfl
  buffer := (Objects.contents_restored _ _).trans h.start
  start := by
    refine Eq.trans ?_ h.start
    exact congrArg (Contents.mk · _ _ _) (Objects.spares_restored k.start k.kept).same

theorem Shows.call {s : Holding} (h : k.Shows s.session) (call : Call) :
    (k.call call).Shows (s.call call).1.session := by
  have hstate : (k.state == .open) = s.session.isOpen := by
    rw [h.state]
    rfl
  cases call with
  | press key => exact (h.press key).state
  | pressAll keys => exact (Outcome.agrees_forEach (fun _ _ key h => h.press key) h keys).state
  | resultValue => exact h
  | done =>
      cases hopen : s.session.isOpen with
      | true =>
          simp only [SessionObjects.call, Holding.call, hstate, hopen, if_true,
            Session.commit_of_open hopen]
          exact ⟨h.places, h.memory, congrArg SessionState.committed h.resultValue, h.buffer,
            h.start⟩
      | false =>
          rw [Holding.call_of_closed hopen, SessionObjects.call, hstate, hopen]
          exact h
  | cancel =>
      cases hopen : s.session.isOpen with
      | true =>
          simp only [SessionObjects.call, Holding.call, hstate, hopen, if_true,
            Session.cancel_of_open hopen]
          exact h.cancelled
      | false =>
          rw [Holding.call_of_closed hopen, SessionObjects.call, hstate, hopen]
          exact h

/-- Whatever is called, the lists show what the session is. -/
theorem Shows.run {s : Holding} (h : k.Shows s.session) (calls : List Call) :
    (k.run calls).Shows (s.run calls).session := by
  induction calls generalizing k s with
  | nil => exact h
  | cons call rest ih => exact ih (h.call call)

end SessionObjects

end FieldCalc
