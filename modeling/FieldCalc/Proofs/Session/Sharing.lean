import FieldCalc.Proofs.Session.Calls

/-!
# Sessions that share a tape

The calls on the sessions of a group may come in any order. A session cannot tell: it goes through
the states that its own calls lead it through, and nothing it does reads the tape. What a shared
tape gains is what each session would have recorded on a tape of its own, in the order of the
calls.
-/

namespace FieldCalc

/-! ## One session and its tape -/

namespace Session

/-- The calculations that a call adds to the tape. -/
def steps (s : Session) : Call → List Step
  | .press key => (s.press key).steps
  | .pressAll keys => (s.pressAll keys).steps
  | .resultValue | .done | .cancel => []

end Session

/-- What a call does and answers is the same on every tape. -/
theorem Holding.call_tape (s : Holding) (tape : Tape) (call : Call) :
    ({ s with tape } : Holding).call call =
      ({ (s.call call).1 with tape := tape.record (s.session.steps call) }, (s.call call).2) := by
  cases call with
  | press | pressAll => rfl
  | resultValue => simp only [Holding.call, Session.steps, Tape.record_nil]
  | done =>
      simp only [Holding.call, Session.steps, Tape.record_nil]
      cases s.session.commit <;> rfl
  | cancel =>
      simp only [Holding.call, Session.steps, Tape.record_nil]
      cases s.session.cancel <;> rfl

theorem Holding.tape_call (s : Holding) (call : Call) :
    (s.call call).1.tape = s.tape.record (s.session.steps call) :=
  congrArg (·.1.tape) (s.call_tape s.tape call)

theorem Holding.reply_call (s : Holding) (tape : Tape) (call : Call) :
    (({ s with tape } : Holding).call call).2 = (s.call call).2 :=
  congrArg (·.2) (s.call_tape tape call)

namespace Seat

/-- The session of a seat on a tape of its own. -/
def alone (seat : Seat) : Holding := ⟨seat.session, .empty, seat.received⟩

/-- The seat with the session as it is elsewhere. -/
def holding (seat : Seat) (s : Holding) : Seat :=
  { seat with session := s.session, received := s.received }

end Seat

/-! ## One call in a group -/

namespace Group

variable {g : Group} {n : Nat} {seat : Seat}

theorem set_same (h : g.seats[n]? = some seat) : g.seats.set n seat = g.seats := by
  obtain ⟨hn, rfl⟩ := List.getElem?_eq_some_iff.mp h
  exact List.set_getElem_self hn

theorem modify_record_nil (tapes : List Tape) (k : Nat) :
    tapes.modify k (·.record []) = tapes := by
  have hid : (fun tape : Tape => tape.record []) = id := funext Tape.record_nil
  rw [hid, List.modify_id]

theorem call_of_none (h : g.seats[n]? = none) (call : Call) : g.call n call = g := by
  cases call with
  | press | pressAll =>
      simp only [Group.call, press, h]
      rfl
  | resultValue => rfl
  | done => simp only [Group.call, commit, h]
  | cancel => simp only [Group.call, cancel, h]

/-- A call changes the seat it is made at and adds to the tape of that seat. -/
theorem call_of_some (h : g.seats[n]? = some seat) (call : Call) : g.call n call =
    ⟨g.tapes.modify seat.tape (·.record (seat.session.steps call)),
      g.seats.set n (seat.holding (seat.alone.call call).1)⟩ := by
  have hsame : g = ⟨g.tapes, g.seats.set n seat⟩ := by rw [set_same h]
  cases call with
  | press =>
      simp only [Group.call, press, h, Session.pressAll_singleton]
      rfl
  | pressAll =>
      simp only [Group.call, press, h]
      rfl
  | resultValue =>
      simp only [Session.steps, modify_record_nil]
      exact hsame
  | done =>
      simp only [Group.call, commit, h, Session.steps, modify_record_nil, Holding.call, Seat.alone]
      cases seat.session.commit with
      | error => exact hsame
      | ok => rfl
  | cancel =>
      simp only [Group.call, cancel, h, Session.steps, modify_record_nil, Holding.call, Seat.alone]
      cases seat.session.cancel with
      | error => exact hsame
      | ok => rfl

/-! ## All calls in a group -/

def run (g : Group) (calls : List (Nat × Call)) : Group :=
  calls.foldl (fun g (n, call) => g.call n call) g

theorem run_concat (g : Group) (calls : List (Nat × Call)) (n : Nat) (call : Call) :
    g.run (calls ++ [(n, call)]) = (g.run calls).call n call := by
  rw [run, List.foldl_append]
  rfl

/-- What is marked with the number of one of some seats, without the numbers. -/
def select {α : Type} (belongs : Nat → Bool) (items : List (Nat × α)) : List α :=
  (items.filter fun item => belongs item.1).map (·.2)

theorem select_append {α : Type} (belongs : Nat → Bool) (front back : List (Nat × α)) :
    select belongs (front ++ back) = select belongs front ++ select belongs back := by
  simp only [select, List.filter_append, List.map_append]

theorem select_of_true {α : Type} {belongs : Nat → Bool} {m : Nat} (h : belongs m = true)
    (items : List α) : select belongs (items.map (m, ·)) = items := by
  simp [select, List.filter_map, Function.comp_def, h]

theorem select_of_false {α : Type} {belongs : Nat → Bool} {m : Nat} (h : belongs m = false)
    (items : List α) : select belongs (items.map (m, ·)) = [] := by
  simp [select, List.filter_map, Function.comp_def, h]

/-- The session of a seat after its own calls, on a tape of its own. -/
def aloneAfter (seat : Seat) (n : Nat) (calls : List (Nat × Call)) : Holding :=
  seat.alone.run (select (· == n) calls)

theorem aloneAfter_own (seat : Seat) (n : Nat) (calls : List (Nat × Call)) (call : Call) :
    aloneAfter seat n (calls ++ [(n, call)]) = ((aloneAfter seat n calls).call call).1 := by
  have hone : select (· == n) [(n, call)] = [call] :=
    @select_of_true _ (· == n) n (beq_self_eq_true n) [call]
  rw [aloneAfter, select_append, hone, Holding.run_concat]
  rfl

theorem aloneAfter_other (seat : Seat) {m n : Nat} (hne : m ≠ n) (calls : List (Nat × Call))
    (call : Call) : aloneAfter seat n (calls ++ [(m, call)]) = aloneAfter seat n calls := by
  have hnone : select (· == n) [(m, call)] = [] :=
    @select_of_false _ (· == n) m (beq_false_of_ne hne) [call]
  rw [aloneAfter, select_append, hnone, List.append_nil]
  rfl

/-- What a call, after others, adds to the tape that the session has for itself. -/
def gained (g : Group) (past : List (Nat × Call)) : Nat × Call → List (Nat × Step)
  | (n, call) =>
      match g.seats[n]? with
      | none => []
      | some seat => ((aloneAfter seat n past).session.steps call).map (n, ·)

/-- All that the sessions add to tapes of their own, each step with the seat, in the order of the
calls. -/
def timeline (g : Group) (past : List (Nat × Call)) : List (Nat × Call) → List (Nat × Step)
  | [] => []
  | call :: rest => g.gained past call ++ g.timeline (past ++ [call]) rest

theorem timeline_concat (g : Group) (past calls : List (Nat × Call)) (call : Nat × Call) :
    g.timeline past (calls ++ [call]) = g.timeline past calls ++ g.gained (past ++ calls) call := by
  induction calls generalizing past with
  | nil => simp [timeline]
  | cons first rest ih => simp [timeline, ih]

/-! ## Apart -/

theorem length_run (g : Group) (calls : List (Nat × Call)) :
    (g.run calls).seats.length = g.seats.length := by
  induction calls using List.reverseRecOn with
  | nil => rfl
  | append_singleton calls last ih =>
      obtain ⟨m, call⟩ := last
      rw [run_concat]
      cases hm : (g.run calls).seats[m]? with
      | none => rw [call_of_none hm, ih]
      | some other => rw [call_of_some hm, List.length_set, ih]

theorem seats_run_of_none (h : g.seats[n]? = none) (calls : List (Nat × Call)) :
    (g.run calls).seats[n]? = none := by
  rw [List.getElem?_eq_none_iff] at h ⊢
  rw [length_run]
  exact h

/-- After any calls a seat has its session as its own calls alone have left it. -/
theorem seats_run (h : g.seats[n]? = some seat) (calls : List (Nat × Call)) :
    (g.run calls).seats[n]? = some (seat.holding (aloneAfter seat n calls)) := by
  -- From the end: the last call meets the seat as the calls before have left it.
  induction calls using List.reverseRecOn with
  | nil => exact h
  | append_singleton calls last ih =>
      obtain ⟨m, call⟩ := last
      rw [run_concat]
      by_cases hsame : m = n
      · subst hsame
        have hm := (List.getElem?_eq_some_iff.mp ih).1
        rw [call_of_some ih, List.getElem?_set_self hm, aloneAfter_own]
        have hcall := (aloneAfter seat m calls).call_tape .empty call
        exact congrArg (fun next => some (seat.holding next.1)) hcall
      · rw [aloneAfter_other seat hsame]
        cases hm : (g.run calls).seats[m]? with
        | none => rw [call_of_none hm, ih]
        | some other => rw [call_of_some hm, List.getElem?_set_ne hsame, ih]

def recordsOn (g : Group) (k n : Nat) : Bool := g.seats[n]?.any (·.tape == k)

/-- A tape of the group gains what the sessions that record on it gain on tapes of their own. -/
theorem tapes_run {k : Nat} {tape : Tape} (h : g.tapes[k]? = some tape)
    (calls : List (Nat × Call)) : (g.run calls).tapes[k]? =
      some (tape.record (select (g.recordsOn k) (g.timeline [] calls))) := by
  induction calls using List.reverseRecOn with
  | nil =>
      rw [timeline, select, List.filter_nil, List.map_nil, Tape.record_nil]
      exact h
  | append_singleton calls last ih =>
      obtain ⟨m, call⟩ := last
      rw [run_concat, timeline_concat, select_append, Tape.record_append, List.nil_append]
      cases hm : g.seats[m]? with
      | none =>
          simp only [call_of_none (seats_run_of_none hm calls), gained, hm]
          rw [ih]
          exact congrArg some (Tape.record_nil _).symm
      | some seat =>
          simp only [call_of_some (seats_run hm calls), gained, hm]
          cases hk : g.recordsOn k m with
          | true =>
              obtain rfl : seat.tape = k := by simpa [recordsOn, hm] using hk
              rw [select_of_true hk]
              simp only [Seat.holding, List.getElem?_modify_eq, ih]
              rfl
          | false =>
              have htape : seat.tape ≠ k := by simpa [recordsOn, hm] using hk
              rw [select_of_false hk, Tape.record_nil]
              simp only [Seat.holding]
              rw [List.getElem?_modify_ne _ _ htape, ih]

theorem steps_aloneAfter (h : g.seats[n]? = some seat) (calls : List (Nat × Call)) :
    (aloneAfter seat n calls).tape.steps = select (· == n) (g.timeline [] calls) := by
  induction calls using List.reverseRecOn with
  | nil => rfl
  | append_singleton calls last ih =>
      obtain ⟨m, call⟩ := last
      rw [timeline_concat, select_append, List.nil_append, ← ih]
      by_cases hsame : m = n
      · subst hsame
        rw [aloneAfter_own, Holding.tape_call]
        simp only [gained, h]
        rw [@select_of_true _ (· == m) m (beq_self_eq_true m)]
        rfl
      · rw [aloneAfter_other seat hsame]
        simp only [gained]
        split
        · exact (List.append_nil _).symm
        · rw [@select_of_false _ (· == n) m (beq_false_of_ne hsame), List.append_nil]

/-- What no session can tell about the others. -/
structure KeepsApart (g : Group) (calls : List (Nat × Call)) : Prop where
  /-- A session is as its own calls leave it alone, and still records where it did. -/
  alone : ∀ n seat, g.seats[n]? = some seat → ∃ next, (g.run calls).seats[n]? = some next ∧
    next.session = (aloneAfter seat n calls).session ∧
    next.received = (aloneAfter seat n calls).received ∧ next.tape = seat.tape
  /-- It answers the next call as it does alone. -/
  answers : ∀ n seat, g.seats[n]? = some seat → ∀ s, (g.run calls).holding? n = some s →
    ∀ call, (s.call call).2 = ((aloneAfter seat n calls).call call).2
  /-- The steps marked with a seat are those on the tape that its session has alone. -/
  merged : ∀ n seat, g.seats[n]? = some seat →
    select (· == n) (g.timeline [] calls) = (aloneAfter seat n calls).tape.steps
  /-- A tape has gained the steps of the sessions that record on it, in the order of the calls. -/
  shared : ∀ k (tape : Tape), g.tapes[k]? = some tape →
    (g.run calls).tapes[k]? = some (tape.record (select (g.recordsOn k) (g.timeline [] calls)))

/-- Sessions that share a tape do not influence each other, whatever the order of the calls. -/
theorem keepsApart (g : Group) (calls : List (Nat × Call)) : g.KeepsApart calls where
  alone n seat hseat := ⟨_, seats_run hseat calls, rfl, rfl, rfl⟩
  answers n seat hseat s hs call := by
    obtain ⟨next, tape, hnext, -, rfl⟩ := holding?_eq_some.mp hs
    rw [seats_run hseat calls] at hnext
    cases hnext
    exact (aloneAfter seat n calls).reply_call tape call
  merged n seat hseat := (steps_aloneAfter hseat calls).symm
  shared k tape htape := tapes_run htape calls

/-- Two sessions on one tape, the first cancelled in between. -/
theorem keepsApart_oneTape :
    let fresh : Session := ⟨Calculator.fresh 2, .open, Buffer.fresh⟩
    let g := (empty.sit fresh).sitAt fresh 0
    let calls : List (Nat × Call) := [(0, .pressAll ["1", "+"]),
      (1, .pressAll ["2", "+", "2", "="]), (0, .pressAll ["1", "="]), (0, .cancel), (1, .press "=")]
    ∃ first second tape, (g.run calls).seats[0]? = some first ∧
      (g.run calls).seats[1]? = some second ∧ (g.run calls).tapes[0]? = some tape ∧
      first.session = (aloneAfter ⟨fresh, 0, []⟩ 0 calls).session ∧
      second.session = (aloneAfter ⟨fresh, 0, []⟩ 1 calls).session ∧
      first.session.state = .cancelled ∧ second.session.display = "4".toList ∧
      tape.steps.map (·.expression) = ["2+2".toList, "1+1".toList] ∧
      select (· == 0) (g.timeline [] calls) = (aloneAfter ⟨fresh, 0, []⟩ 0 calls).tape.steps := by
  intro fresh g calls
  have apart := keepsApart g calls
  obtain ⟨first, hfirst, hcancelled, -⟩ := apart.alone 0 ⟨fresh, 0, []⟩ rfl
  obtain ⟨second, hsecond, hopen, -⟩ := apart.alone 1 ⟨fresh, 0, []⟩ rfl
  refine ⟨first, second, _, hfirst, hsecond, apart.shared 0 .empty rfl, hcancelled, hopen, ?_, ?_,
    ?_, apart.merged 0 _ rfl⟩
  · rw [hcancelled]
    decide +kernel
  · rw [hopen]
    decide +kernel
  · decide +kernel

end Group

end FieldCalc
