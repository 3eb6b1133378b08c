import FieldCalc.Proofs.Display.Commit
import FieldCalc.Proofs.Outcome
import FieldCalc.Proofs.Session.Lifecycle
import FieldCalc.Registry
import FieldCalc.Session.Shared
import Mathlib.Data.List.Induction

/-!
# Calls on a session

The holder of a session may press keys, ask what would be committed, commit and cancel, in any
order and as often as it likes. A session is left open once at most, and from then on every call
leaves it as it is. What a commit returns is what the sink receives, and nothing else ever
reaches the sink.
-/

namespace FieldCalc

/-! ## Calls -/

inductive Call where
  | press (key : LooseText)
  | pressAll (keys : List LooseText)
  | resultValue
  | done
  | cancel

inductive Reply where
  | shown (display : Text)
  | value (x : Binary64)
  | nothing
  | refused (fault : Fault)

/-- Whether a call needs the session to be open: a known key, alone or as the first of several,
and either way of closing. -/
def Call.needsOpen : Call → Bool
  | press key => (Action.ofKey key).isOk
  | pressAll [] => false
  | pressAll (key :: _) => (Action.ofKey key).isOk
  | resultValue => false
  | done => true
  | cancel => true

/-- A session with the tape it records on and all that its sink has received. -/
structure Holding where
  session : Session
  tape : Tape
  received : List Binary64

namespace Holding

def opened (session : Session) : Holding := ⟨session, .empty, []⟩

def pressed (s : Holding) (o : Outcome Session) : Holding × Reply :=
  ({ s with session := o.state, tape := s.tape.record o.steps },
    match o.fault with
    | none => .shown o.state.display
    | some fault => .refused fault)

def call (s : Holding) : Call → Holding × Reply
  | .press key => s.pressed (s.session.press key)
  | .pressAll keys => s.pressed (s.session.pressAll keys)
  | .resultValue => (s, .value s.session.resultValue)
  | .done =>
      match s.session.commit with
      | .ok (session, value) =>
          ({ s with session, received := s.received ++ [value] }, .value value)
      | .error fault => (s, .refused fault)
  | .cancel =>
      match s.session.cancel with
      | .ok session => ({ s with session }, .nothing)
      | .error fault => (s, .refused fault)

def run (s : Holding) (calls : List Call) : Holding := calls.foldl (fun s c => (s.call c).1) s

theorem run_append (s : Holding) (front back : List Call) :
    s.run (front ++ back) = (s.run front).run back := List.foldl_append

end Holding

theorem Session.pressAll_singleton (s : Session) (key : LooseText) :
    s.pressAll [key] = s.press key := by
  rw [pressAll, Outcome.forEach_cons]
  exact Outcome.andThen_quiet _

/-! ## Seats of a group -/

namespace Group

def holding? (g : Group) (n : Nat) : Option Holding :=
  g.seats[n]?.bind fun seat =>
    g.tapes[seat.tape]?.map fun tape => ⟨seat.session, tape, seat.received⟩

def call (g : Group) (n : Nat) : Call → Group
  | .press key => (g.press n [key]).state
  | .pressAll keys => (g.press n keys).state
  | .resultValue => g
  | .done =>
      match g.commit n with
      | .ok (next, _) => next
      | .error _ => g
  | .cancel =>
      match g.cancel n with
      | .ok next => next
      | .error _ => g

variable {g : Group} {n : Nat} {s : Holding}

theorem holding?_eq_some : g.holding? n = some s ↔ ∃ seat tape, g.seats[n]? = some seat ∧
    g.tapes[seat.tape]? = some tape ∧ s = ⟨seat.session, tape, seat.received⟩ := by
  simp only [holding?, Option.bind_eq_some_iff, Option.map_eq_some_iff]
  constructor
  · rintro ⟨seat, hseat, tape, htape, rfl⟩
    exact ⟨seat, tape, hseat, htape, rfl⟩
  · rintro ⟨seat, tape, hseat, htape, rfl⟩
    exact ⟨seat, hseat, tape, htape, rfl⟩

theorem holding?_press (h : g.holding? n = some s) (keys : List LooseText) :
    (g.press n keys).state.holding? n = some (s.pressed (s.session.pressAll keys)).1 := by
  obtain ⟨seat, tape, hseat, htape, rfl⟩ := holding?_eq_some.mp h
  have hn : n < g.seats.length := (List.getElem?_eq_some_iff.mp hseat).1
  have htapes :
      (g.tapes.modify seat.tape (·.record (seat.session.pressAll keys).steps))[seat.tape]? =
        some (tape.record (seat.session.pressAll keys).steps) := by
    rw [List.getElem?_modify_eq, htape]
    rfl
  simp only [press, hseat]
  exact holding?_eq_some.mpr ⟨_, _, List.getElem?_set_self hn, htapes, rfl⟩

/-- What a call does to one seat of a group is what it does to the session and the tape there. -/
theorem holding?_call (h : g.holding? n = some s) (call : Call) :
    (g.call n call).holding? n = some (s.call call).1 := by
  cases call with
  | press key =>
      have hpress := holding?_press h [key]
      rwa [Session.pressAll_singleton] at hpress
  | pressAll keys => exact holding?_press h keys
  | resultValue => exact h
  | done =>
      obtain ⟨seat, tape, hseat, htape, rfl⟩ := holding?_eq_some.mp h
      have hn : n < g.seats.length := (List.getElem?_eq_some_iff.mp hseat).1
      simp only [Group.call, Holding.call, commit, hseat]
      cases hcommit : seat.session.commit with
      | error fault => exact h
      | ok result => exact holding?_eq_some.mpr ⟨_, _, List.getElem?_set_self hn, htape, rfl⟩
  | cancel =>
      obtain ⟨seat, tape, hseat, htape, rfl⟩ := holding?_eq_some.mp h
      have hn : n < g.seats.length := (List.getElem?_eq_some_iff.mp hseat).1
      simp only [Group.call, Holding.call, cancel, hseat]
      cases hcancel : seat.session.cancel with
      | error fault => exact h
      | ok session => exact holding?_eq_some.mpr ⟨_, _, List.getElem?_set_self hn, htape, rfl⟩

theorem holding?_run (h : g.holding? n = some s) (calls : List Call) :
    (calls.foldl (fun g c => g.call n c) g).holding? n = some (s.run calls) := by
  induction calls generalizing g s with
  | nil => exact h
  | cons call rest ih => exact ih (holding?_call h call)

end Group

/-! ## Closed sessions -/

namespace Session

variable {s : Session}

theorem perform_of_closed (h : s.isOpen = false) (action : Action) :
    s.perform action = .refused s s.closedFault := by
  simp only [perform, h, Bool.false_eq_true, if_false]

/-- A key is read before the session is looked at. -/
theorem press_of_closed (h : s.isOpen = false) (key : LooseText) :
    ∃ fault, s.press key = .refused s fault := by
  unfold press
  split
  · next fault _ => exact ⟨fault, rfl⟩
  · next action _ => exact ⟨s.closedFault, perform_of_closed h action⟩

theorem pressAll_of_closed (h : s.isOpen = false) (keys : List LooseText) :
    (s.pressAll keys).state = s ∧ (s.pressAll keys).steps = [] := by
  cases keys with
  | nil => exact ⟨rfl, rfl⟩
  | cons key rest =>
      obtain ⟨fault, hpress⟩ := press_of_closed h key
      rw [pressAll, Outcome.forEach_cons, hpress]
      exact ⟨rfl, rfl⟩

theorem commit_of_closed (h : s.isOpen = false) : s.commit = .error s.closedFault := by
  simp only [commit, h, Bool.false_eq_true, if_false]

theorem cancel_of_closed (h : s.isOpen = false) : s.cancel = .error s.closedFault := by
  simp only [cancel, h, Bool.false_eq_true, if_false]

theorem cancel_of_open (h : s.isOpen = true) : s.cancel = .ok s.abandoned := by
  simp only [cancel, h, if_true]

theorem isOpen_iff : s.isOpen = true ↔ s.state = .open := by
  simp only [isOpen, beq_iff_eq]

theorem isOpen_press (s : Session) (key : LooseText) : (s.press key).state.isOpen = s.isOpen := by
  unfold press
  split
  · rfl
  · next action _ => exact s.isOpen_perform action

theorem isOpen_pressAll (s : Session) (keys : List LooseText) :
    (s.pressAll keys).state.isOpen = s.isOpen :=
  Outcome.forEach_keeps (fun t : Session => t.isOpen = s.isOpen)
    (fun t key ht => (t.isOpen_press key).trans ht) rfl keys

end Session

/-- What a sink may receive: a finite number above zero, or plus zero. -/
def IsAmount (x : Binary64) : Prop := x.isFinite = true ∧ (x = .zero ∨ x.isPositive = true)

theorem Display.isAmount_commit (places : Nat) (x : Binary64) : IsAmount (commit places x) := by
  refine ⟨(commit_valid places x).1, ?_⟩
  unfold commit
  split
  · next h =>
      simp only [Bool.and_eq_true] at h
      exact .inr h.2
  · exact .inl rfl

theorem Session.isAmount_resultValue (s : Session) : IsAmount s.resultValue := by
  unfold resultValue
  split
  · exact Display.isAmount_commit _ _
  · exact ⟨rfl, .inl rfl⟩

theorem IsAmount.isNonneg {x : Binary64} (h : IsAmount x) : x.isNonneg = true := by
  rcases h.2 with rfl | hpositive
  · rfl
  · exact Display.isNonneg_of_isPositive hpositive

theorem Field.set_of_isFinite (f : Field) {x : Binary64} (h : x.isFinite = true) :
    ∃ f', f.set x = .ok f' := by
  unfold set
  split
  · cases x with
    | finite negative units _ => exact ⟨_, rfl⟩
    | nan | infinite _ => cases h
  · exact ⟨_, rfl⟩

/-- A registry sets any field it has to such a number. -/
theorem IsAmount.accepted {x : Binary64} (h : IsAmount x) {r : Registry} {name : String}
    {entry : Entry} (hentry : r.entry? name = .ok entry) :
    ∃ result, r.setField name (.float x) = .ok result := by
  have hguard : (x.isFinite && x.isNonneg) = true := by rw [h.1, h.isNonneg]; rfl
  obtain ⟨field, hfield⟩ := entry.field.set_of_isFinite h.1
  simp only [Registry.setField, Json.toNumber, bind, Except.bind, hguard, if_true, hentry, hfield]
  exact ⟨_, rfl⟩

/-! ## One call -/

namespace Holding

variable {s : Holding}

/-- The sink has received what the session is committed to, and nothing else. -/
structure Settled (s : Holding) : Prop where
  received_eq : s.received = s.session.state.committed?.toList
  isAmount : ∀ v ∈ s.received, IsAmount v

theorem settled_of_open (hopen : s.session.isOpen = true) (hreceived : s.received = []) :
    s.Settled := by
  have hstate := Session.isOpen_iff.mp hopen
  refine ⟨?_, ?_⟩
  · rw [hreceived, hstate]
    rfl
  · intro v hv
    rw [hreceived] at hv
    cases hv

theorem call_of_closed (h : s.session.isOpen = false) (call : Call) : (s.call call).1 = s := by
  have hpressed : ∀ o : Outcome Session, o.state = s.session → o.steps = [] →
      (s.pressed o).1 = s := by
    intro o hstate hsteps
    simp only [pressed, hstate, hsteps, Tape.record_nil]
  cases call with
  | press key =>
      obtain ⟨fault, hpress⟩ := Session.press_of_closed h key
      exact hpressed _ (by rw [hpress]; rfl) (by rw [hpress]; rfl)
  | pressAll keys =>
      obtain ⟨hstate, hsteps⟩ := Session.pressAll_of_closed h keys
      exact hpressed _ hstate hsteps
  | resultValue => rfl
  | done => simp only [Holding.call, Session.commit_of_closed h]
  | cancel => simp only [Holding.call, Session.cancel_of_closed h]

theorem run_of_closed (h : s.session.isOpen = false) (calls : List Call) : s.run calls = s := by
  induction calls with
  | nil => rfl
  | cons call rest ih =>
      have hcall : s.run (call :: rest) = (s.call call).1.run rest := rfl
      rw [hcall, call_of_closed h, ih]

theorem refused_of_closed (h : s.session.isOpen = false) {call : Call}
    (hneeds : call.needsOpen = true) : (s.call call).2 = .refused s.session.closedFault := by
  have hpress : ∀ {key : LooseText}, (Action.ofKey key).isOk = true →
      s.session.press key = .refused s.session s.session.closedFault := by
    intro key hkey
    unfold Session.press
    split
    · next fault hfault =>
        rw [hfault] at hkey
        cases hkey
    · next action _ => exact Session.perform_of_closed h action
  cases call with
  | press key => simp only [Holding.call, hpress hneeds]; rfl
  | pressAll keys =>
      cases keys with
      | nil => cases hneeds
      | cons key rest =>
          simp only [Holding.call, Session.pressAll, Outcome.forEach_cons, hpress hneeds]
          rfl
  | resultValue => cases hneeds
  | done => simp only [Holding.call, Session.commit_of_closed h]
  | cancel => simp only [Holding.call, Session.cancel_of_closed h]

/-- An open session is left open by a call, or it is committed or cancelled by it. -/
theorem call_of_open (hopen : s.session.isOpen = true) (call : Call) :
    ((s.call call).1.session.isOpen = true ∧ (s.call call).1.received = s.received ∧
        call ≠ .done) ∨
      (call = .done ∧ s.call call =
        ({ s with
            session := { s.session with state := .committed s.session.resultValue }
            received := s.received ++ [s.session.resultValue] },
          .value s.session.resultValue)) ∨
      (call = .cancel ∧ s.call call = ({ s with session := s.session.abandoned }, .nothing)) := by
  cases call with
  | press key => exact .inl ⟨(s.session.isOpen_press key).trans hopen, rfl, nofun⟩
  | pressAll keys => exact .inl ⟨(s.session.isOpen_pressAll keys).trans hopen, rfl, nofun⟩
  | resultValue => exact .inl ⟨hopen, rfl, nofun⟩
  | done =>
      refine .inr (.inl ⟨rfl, ?_⟩)
      simp only [Holding.call, Session.commit_of_open hopen]
  | cancel =>
      refine .inr (.inr ⟨rfl, ?_⟩)
      simp only [Holding.call, Session.cancel_of_open hopen]

theorem Settled.call (h : s.Settled) (call : Call) : (s.call call).1.Settled := by
  cases hopen : s.session.isOpen with
  | false =>
      rw [call_of_closed hopen]
      exact h
  | true =>
      have hnone : s.received = [] := by
        rw [h.received_eq, Session.isOpen_iff.mp hopen]
        rfl
      rcases call_of_open hopen call with ⟨hstill, hreceived, -⟩ | ⟨-, hdone⟩ | ⟨-, hcancel⟩
      · exact settled_of_open hstill (hreceived.trans hnone)
      · rw [hdone]
        simp only [hnone, List.nil_append]
        refine ⟨rfl, fun v hv => ?_⟩
        rw [List.mem_singleton.mp hv]
        exact s.session.isAmount_resultValue
      · rw [hcancel]
        exact ⟨hnone, h.isAmount⟩

/-! ## All calls -/

theorem Settled.run (h : s.Settled) (calls : List Call) : (s.run calls).Settled := by
  induction calls generalizing s with
  | nil => exact h
  | cons call rest ih => exact ih (h.call call)

theorem run_concat (s : Holding) (calls : List Call) (call : Call) :
    s.run (calls ++ [call]) = ((s.run calls).call call).1 := s.run_append calls [call]

/-- A session is committed to a value exactly if a call of done has returned it. -/
theorem committed_iff_returned (hopen : s.session.isOpen = true) (calls : List Call)
    (v : Binary64) : (s.run calls).session.state = .committed v ↔
      ∃ front back, calls = front ++ .done :: back ∧ ((s.run front).call .done).2 = .value v := by
  constructor
  · intro hstate
    induction calls using List.reverseRecOn with
    | nil => rw [show s.run [] = s from rfl, Session.isOpen_iff.mp hopen] at hstate; cases hstate
    | append_singleton calls call ih =>
        rw [run_concat] at hstate
        -- Either an earlier call has closed the session, or the last one commits it.
        cases hnow : (s.run calls).session.isOpen with
        | false =>
            rw [call_of_closed hnow] at hstate
            obtain ⟨front, back, rfl, hvalue⟩ := ih hstate
            exact ⟨front, back ++ [call], by simp, hvalue⟩
        | true =>
            rcases call_of_open hnow call with ⟨hstill, -, -⟩ | ⟨rfl, hdone⟩ | ⟨-, hcancel⟩
            · rw [Session.isOpen_iff.mp hstill] at hstate
              cases hstate
            · rw [hdone] at hstate
              cases hstate
              exact ⟨calls, [], rfl, by rw [hdone]⟩
            · rw [hcancel] at hstate
              cases hstate
  · rintro ⟨front, back, rfl, hvalue⟩
    cases hnow : (s.run front).session.isOpen with
    | false =>
        rw [refused_of_closed hnow rfl] at hvalue
        cases hvalue
    | true =>
        rcases call_of_open hnow .done with ⟨-, -, hne⟩ | ⟨-, hdone⟩ | ⟨hcancel, -⟩
        · exact absurd rfl hne
        · rw [hdone] at hvalue
          cases hvalue
          have hclosed : ((s.run front).call .done).1.session.isOpen = false := by rw [hdone]; rfl
          rw [run_append, show (s.run front).run (.done :: back) =
            ((s.run front).call .done).1.run back from rfl, run_of_closed hclosed, hdone]
        · cases hcancel

/-- What holds of a session after any calls on it. -/
structure KeepsLifecycle (start : Holding) (calls : List Call) : Prop where
  receivedOnce : (start.run calls).received.length ≤ 1
  received_iff : ∀ v, (start.run calls).received = [v] ↔
    (start.run calls).session.state = .committed v
  committed_iff : ∀ v, (start.run calls).session.state = .committed v ↔
    ∃ front back, calls = front ++ .done :: back ∧ ((start.run front).call .done).2 = .value v
  isAmount : ∀ v ∈ (start.run calls).received, IsAmount v
  accepted : ∀ v ∈ (start.run calls).received, ∀ (r : Registry) (name : String) (entry : Entry),
    r.entry? name = .ok entry → ∃ result, r.setField name (.float v) = .ok result
  returns : (start.run calls).session.isOpen = true →
    ∃ v, ((start.run calls).call .done).2 = .value v
  /-- Once closed, it stays as it is. -/
  final : ∀ front back, calls = front ++ back → (start.run front).session.isOpen = false →
    start.run calls = start.run front
  refuses : (start.run calls).session.isOpen = false → ∀ call : Call,
    ((start.run calls).call call).1 = start.run calls ∧
      (call.needsOpen = true →
        ((start.run calls).call call).2 = .refused (start.run calls).session.closedFault)

end Holding

/-- Whatever is called on a session, in whatever order, it is closed at most once and for good,
and its sink receives the value it is committed to, if it is, and nothing else. -/
theorem keepsLifecycle_opened {initial : Binary64} {places : Nat} {s : Session}
    (h : Session.opened initial places = .ok s) (calls : List Call) :
    (Holding.opened s).KeepsLifecycle calls := by
  have hopen : (Holding.opened s).session.isOpen = true := Session.isOpen_opened h
  have hsettled := (Holding.settled_of_open hopen rfl).run calls
  refine ⟨?_, ?_, Holding.committed_iff_returned hopen calls, hsettled.isAmount, ?_, ?_, ?_, ?_⟩
  · rw [hsettled.received_eq]
    cases ((Holding.opened s).run calls).session.state <;> simp [SessionState.committed?]
  · intro v
    rw [hsettled.received_eq]
    cases ((Holding.opened s).run calls).session.state <;> simp [SessionState.committed?]
  · intro v hv r name entry hentry
    exact (hsettled.isAmount v hv).accepted hentry
  · intro hnow
    rcases Holding.call_of_open hnow .done with ⟨-, -, hne⟩ | ⟨-, hdone⟩ | ⟨hcancel, -⟩
    · exact absurd rfl hne
    · exact ⟨_, by rw [hdone]⟩
    · cases hcancel
  · rintro front back rfl hclosed
    rw [Holding.run_append, Holding.run_of_closed hclosed]
  · intro hclosed call
    exact ⟨Holding.call_of_closed hclosed call, Holding.refused_of_closed hclosed⟩

/-- A session that is committed to seven, and then used on. -/
theorem keepsLifecycle_seven :
    ∃ s calls, Session.opened .zero 2 = .ok s ∧ (Holding.opened s).KeepsLifecycle calls ∧
      ((Holding.opened s).run calls).received = [Binary64.ofNat 7] := by
  have hopened : Session.opened .zero 2 = .ok ⟨Calculator.fresh 2, .open, Buffer.fresh⟩ := rfl
  refine ⟨_, [.press (.ofString "7"), .done, .press (.ofString "1"), .done, .cancel], hopened,
    keepsLifecycle_opened hopened _, ?_⟩
  decide +kernel

end FieldCalc
