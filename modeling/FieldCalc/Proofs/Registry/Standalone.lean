import FieldCalc.Proofs.Calculator.Showable
import FieldCalc.Proofs.Registry.Binding

/-!
# Sessions on their own

A session in a registry fares as it would on its own. It is opened with the value that its field
has then, and of all that a host does afterwards only the keys pressed under its id reach it. A
batch with an unknown key is refused before any of its keys is pressed. A batch of known keys is
refused too if one of them raises a fault, but by then the keys before that one have been pressed.
This happens only where more places are asked for than a text may have.
-/

namespace FieldCalc

/-- A session and its tape, in no registry. -/
structure Standalone where
  session : Session
  tape : Tape
  deriving DecidableEq

def Ticket.standalone (t : Ticket) : Standalone := ⟨t.session, t.tape⟩

namespace Standalone

def opened (initial : Binary64) (places : Nat) : Except Fault Standalone := do
  return ⟨← Session.opened initial places, .empty⟩

/-- Presses keys, up to one that raises a fault. -/
def press (s : Standalone) (keys : List LooseText) : Standalone :=
  let o := s.session.pressAll keys
  ⟨o.state, s.tape.record o.steps⟩

def pressBatches (s : Standalone) (batches : List (List LooseText)) : Standalone :=
  batches.foldl press s

theorem pressBatches_append (s : Standalone) (front back : List (List LooseText)) :
    s.pressBatches (front ++ back) = (s.pressBatches front).pressBatches back :=
  List.foldl_append

theorem opened_of_session {initial : Binary64} {places : Nat} {session : Session}
    (h : Session.opened initial places = .ok session) :
    opened initial places = .ok ⟨session, .empty⟩ := by
  simp only [opened, h, bind, Except.bind]
  rfl

theorem steady_opened {initial : Binary64} {places : Nat} {s : Standalone}
    (h : opened initial places = .ok s) : s.session.Steady places := by
  simp only [opened, bind, Except.bind] at h
  split at h
  · cases h
  · next session hsession =>
      cases h
      exact Session.steady_opened hsession

theorem steady_pressBatches {places : Nat} {s : Standalone} (h : s.session.Steady places)
    (batches : List (List LooseText)) : (s.pressBatches batches).session.Steady places := by
  induction batches generalizing s with
  | nil => exact h
  | cons keys rest ih => exact ih (h.pressAll keys)

end Standalone

theorem Ticket.standalone_pressed {keys : List LooseText} {actions : List Action}
    (hkeys : Action.ofKeys keys = .ok actions) (t : Ticket) (now : Int) :
    (t.pressed actions now).standalone = t.standalone.press keys := by
  have hall : t.standalone.session.pressAll keys = t.session.performAll actions :=
    Session.pressAll_eq hkeys t.session
  simp only [Standalone.press, hall]
  rfl

namespace Registry

/-! ## Batches of keys -/

/-- What an operation presses under an id, if it knows all the keys. -/
def knownKeys? (id : String) : Operation → Option (List LooseText)
  | .press other keys => if other = id ∧ (Action.ofKeys keys).isOk then some keys else none
  | _ => none

def knownBatches (id : String) (ops : List Operation) : List (List LooseText) :=
  ops.filterMap (knownKeys? id)

/-- What an operation presses under an id, if the registry reports no fault. -/
def acceptedKeys? (r : Registry) (id : String) : Operation → Option (List LooseText)
  | .press other keys => if other = id ∧ (r.press other keys).2.isOk then some keys else none
  | _ => none

def acceptedBatches (r : Registry) (id : String) : List Operation → List (List LooseText)
  | [] => []
  | op :: rest => (r.acceptedKeys? id op).toList ++ (r.apply op).acceptedBatches id rest

theorem knownBatches_concat (id : String) (ops : List Operation) (op : Operation) :
    knownBatches id (ops ++ [op]) = knownBatches id ops ++ (knownKeys? id op).toList := by
  rw [knownBatches, List.filterMap_append]
  cases hkeys : knownKeys? id op <;> simp [knownBatches, hkeys]

theorem acceptedBatches_concat (r : Registry) (id : String) (ops : List Operation)
    (op : Operation) : r.acceptedBatches id (ops ++ [op]) =
      r.acceptedBatches id ops ++ ((r.run ops).acceptedKeys? id op).toList := by
  induction ops generalizing r with
  | nil => exact List.append_nil _
  | cons first rest ih => simp only [List.cons_append, acceptedBatches, ih, run_cons,
      List.append_assoc]

variable {r : Registry} {id : String} {op : Operation}

theorem knownKeys?_press {keys : List LooseText} {actions : List Action}
    (hkeys : Action.ofKeys keys = .ok actions) (id : String) :
    knownKeys? id (.press id keys) = some keys := by
  simp only [knownKeys?, hkeys, true_and]
  rfl

theorem knownKeys?_eq_none
    (unpressed : ∀ keys actions, op = .press id keys → Action.ofKeys keys ≠ .ok actions) :
    knownKeys? id op = none := by
  cases op with
  | press other keys =>
      refine if_neg ?_
      rintro ⟨rfl, hkeys⟩
      cases hof : Action.ofKeys keys with
      | error fault =>
          rw [hof] at hkeys
          cases hkeys
      | ok actions => exact unpressed keys actions rfl hof
  | setField | submitText | openSession | finish | cancel | expire | setClock => rfl

theorem acceptedKeys?_eq_none
    (unpressed : ∀ keys actions, op = .press id keys → Action.ofKeys keys ≠ .ok actions) :
    r.acceptedKeys? id op = none := by
  cases op with
  | press other keys =>
      refine if_neg ?_
      rintro ⟨rfl, haccepted⟩
      cases hof : Action.ofKeys keys with
      | error fault =>
          rw [press_unknownKey hof] at haccepted
          cases haccepted
      | ok actions => exact unpressed keys actions rfl hof
  | setField | submitText | openSession | finish | cancel | expire | setClock => rfl

/-! ## Where a session comes from -/

/-- The opening in a run that gave out an id, and the session it opened on the value that the
field had at that moment. -/
structure Origin (r : Registry) (ops : List Operation) (id : String) where
  before : List Operation
  name : String
  places : Option Int
  after : List Operation
  entry : Entry
  precision : Nat
  start : Standalone
  split : ops = before ++ .openSession name places :: after
  field : Registry.entry? (r.run before) name = .ok entry
  requested : (precision : Int) = places.getD entry.field.places
  opened : Standalone.opened entry.field.value precision = .ok start
  issued : ∃ t, ((r.run before).openSession name places).2 = .ok t ∧ t.id = id

namespace Origin

variable {ops : List Operation}

/-- The registry right after the opening. -/
def enrolled (o : Origin r ops id) : Registry :=
  r.run (o.before ++ [.openSession o.name o.places])

/-- The session as it is now on its own, after every batch of known keys that was pressed. -/
def alone (o : Origin r ops id) : Standalone := o.start.pressBatches (knownBatches id o.after)

def extend (o : Origin r ops id) (op : Operation) : Origin r (ops ++ [op]) id :=
  { o with
    after := o.after ++ [op]
    split := by
      conv_lhs => rw [o.split]
      simp }

theorem run_enrolled (o : Origin r ops id) : o.enrolled.run o.after = r.run ops := by
  conv_rhs => rw [o.split]
  simp [enrolled, run]

/-- The ticket is as the opening and the batches after it have made it. -/
structure Explains {t : Ticket} (o : Origin r ops t.id) : Prop where
  fieldName : t.fieldName = o.name
  standalone : t.standalone = o.alone
  /-- No batch was cut short unless the precision cannot be shown. -/
  accepted : o.precision ≤ Display.maxShownPlaces →
    o.enrolled.acceptedBatches t.id o.after = knownBatches t.id o.after

theorem Explains.steady {t : Ticket} {o : Origin r ops t.id} (h : o.Explains) :
    t.session.Steady o.precision := by
  have hsession : t.session = o.alone.session := congrArg Standalone.session h.standalone
  rw [hsession]
  exact Standalone.steady_pressBatches (Standalone.steady_opened o.opened) _

theorem Explains.kept {t : Ticket} {o : Origin r ops t.id} (h : o.Explains)
    (unpressed : ∀ keys actions, op = .press t.id keys → Action.ofKeys keys ≠ .ok actions) :
    (o.extend op).Explains := by
  have hknown : knownBatches t.id (o.after ++ [op]) = knownBatches t.id o.after := by
    rw [knownBatches_concat, knownKeys?_eq_none unpressed]
    exact List.append_nil _
  have haccepted : o.enrolled.acceptedBatches t.id (o.after ++ [op]) =
      o.enrolled.acceptedBatches t.id o.after := by
    rw [acceptedBatches_concat, acceptedKeys?_eq_none unpressed]
    exact List.append_nil _
  refine ⟨h.fieldName, ?_, fun hshown => ?_⟩
  · exact h.standalone.trans (congrArg o.start.pressBatches hknown.symm)
  · exact haccepted.trans ((h.accepted hshown).trans hknown.symm)

theorem Explains.pressed {t : Ticket} {o : Origin r ops t.id} (h : o.Explains)
    (horderly : (r.run ops).Orderly) (registered : t ∈ (r.run ops).tickets)
    {keys : List LooseText} {actions : List Action} (known : Action.ofKeys keys = .ok actions)
    (now : Int) :
    Explains (t := t.pressed actions now) (o.extend (.press t.id keys)) := by
  have hknown : knownBatches t.id (o.after ++ [.press t.id keys]) =
      knownBatches t.id o.after ++ [keys] := by
    rw [knownBatches_concat, knownKeys?_press known]
    rfl
  refine ⟨h.fieldName, ?_, fun hshown => ?_⟩
  · have halone : (o.extend (.press t.id keys)).alone = o.alone.press keys := by
      change o.start.pressBatches (knownBatches t.id (o.after ++ [.press t.id keys])) = _
      rw [hknown, Standalone.pressBatches_append]
      rfl
    exact (t.standalone_pressed known now).trans
      ((congrArg (Standalone.press · keys) h.standalone).trans halone.symm)
  · have hquiet := h.steady.fault_performAll hshown actions
    have haccepted : (r.run ops).acceptedKeys? t.id (.press t.id keys) = some keys := by
      simp only [acceptedKeys?, press_registered horderly known registered, hquiet, true_and]
      rfl
    change o.enrolled.acceptedBatches t.id (o.after ++ [.press t.id keys]) =
      knownBatches t.id (o.after ++ [.press t.id keys])
    rw [hknown, acceptedBatches_concat, run_enrolled, haccepted, h.accepted hshown]
    rfl

end Origin

/-! ## Openings -/

theorem openSessionAt_opened (h : r.Orderly) (first second : Int) {name : String} {entry : Entry}
    (field : r.entry? name = .ok entry) {places : Option Int} {session : Session}
    (start : sessionOn entry.field places = .ok session) :
    (r.openSessionAt first second name places).2 =
      .ok ⟨r.opened + 1, entry.field.name, entry.serial, session, .empty, second⟩ := by
  have hnumber : ((r.setClock first).cleared.setClock second).opened = r.opened :=
    opened_cleared (h.setClock first)
  simp only [openSessionAt, field, start, enrol, hnumber]
  rfl

theorem exists_origin_opened {ops : List Operation} (h : (r.run ops).Orderly) {name : String}
    {entry : Entry} (field : Registry.entry? (r.run ops) name = .ok entry) {places : Option Int}
    {session : Session} (start : sessionOn entry.field places = .ok session) {t : Ticket}
    (ht : t = ⟨(r.run ops).opened + 1, entry.field.name, entry.serial, session, .empty,
      (r.run ops).now⟩) :
    ∃ o : Origin r (ops ++ [.openSession name places]) t.id, o.Explains := by
  obtain ⟨precision, hrequested, hopened⟩ := sessionOn_eq_ok start
  have hissued : ((r.run ops).openSession name places).2 = .ok t := by
    rw [openSession_eq h, openSessionAt_opened h _ _ field start, ht]
  subst ht
  exact ⟨{
    before := ops
    name := name
    places := places
    after := []
    entry := entry
    precision := precision
    start := ⟨session, .empty⟩
    split := rfl
    field := field
    requested := hrequested
    opened := Standalone.opened_of_session hopened
    issued := ⟨_, hissued, rfl⟩ }, (entry?_eq_ok field).2, rfl, fun _ => rfl⟩

/-! ## Runs -/

theorem exists_origin (h : InUse r) (hnone : r.tickets = []) (ops : List Operation) :
    ∀ t ∈ (r.run ops).tickets, ∃ o : Origin r ops t.id, o.Explains := by
  induction ops using List.reverseRecOn with
  | nil =>
      intro t ht
      rw [run_nil, hnone] at ht
      cases ht
  | append_singleton front op ih =>
      intro t ht
      have hissued := (h.run front).issued
      have horderly := (h.run front).orderly
      rw [run_concat, apply_eq_take horderly] at ht
      cases (turn_take hissued.toProper horderly _).present horderly ht with
      | kept registered unpressed =>
          obtain ⟨o, ho⟩ := ih t registered
          refine ⟨o.extend op, ho.kept fun keys actions hop => ?_⟩
          exact unpressed _ _ keys actions (by rw [hop])
      | @pressed _ _ old keys actions registered known =>
          obtain ⟨o, ho⟩ := ih old registered
          exact ⟨o.extend _, ho.pressed horderly registered known _⟩
      | opened field start => exact exists_origin_opened horderly field start rfl

theorem SetUp.tickets_eq_nil (h : SetUp r) : r.tickets = [] := by
  induction h with
  | empty => rfl
  | added _ hadd ih =>
      obtain ⟨-, -, hnext⟩ := addField_eq_ok hadd
      rw [hnext]
      exact ih

theorem registered_of_finish {next : Registry} {done : Ticket}
    (h : r.finish id = .ok (next, done)) : ∃ t ∈ r.tickets, t.id = id := by
  rcases registered_or_gone r id with hregistered | hgone
  · exact hregistered
  · rw [finish_gone hgone] at h
    cases h

/-- Every registered session is as its opening and the batches of known keys pressed on it since
would have made it on its own, and where the precision can be shown these are the batches that
were accepted. What finishing writes to a field is what the session would commit on its own. -/
theorem run_standalone (h : SetUp r) (ops : List Operation) :
    (∀ t ∈ (r.run ops).tickets, ∃ o : Origin r ops t.id, o.Explains) ∧
      ∀ id next done, (r.run ops).finish id = .ok (next, done) →
        ∃ t ∈ (r.run ops).tickets, t.id = id ∧ ∃ o : Origin r ops t.id, o.Explains ∧
          ∃ value, o.alone.session.commit = .ok (done.session, value) ∧
            next.valueOf? o.name = some value := by
  have horigin := exists_origin h.inUse h.tickets_eq_nil ops
  have horderly := (h.inUse.run ops).orderly
  refine ⟨horigin, fun id next done hfinish => ?_⟩
  obtain ⟨t, ht, rfl⟩ := registered_of_finish hfinish
  obtain ⟨o, ho⟩ := horigin t ht
  obtain ⟨landed, hlanded, hvalue⟩ :=
    finish_lands (h.bound_run ops) (proper_run h.proper ops) horderly ht
  rw [hlanded] at hfinish
  cases hfinish
  have hsession : t.session = o.alone.session := congrArg Standalone.session ho.standalone
  refine ⟨t, ht, rfl, o, ho, t.session.resultValue, ?_, ho.fieldName ▸ hvalue⟩
  rw [← hsession]
  exact Session.commit_of_open (horderly.isOpen t ht)

/-- An opening with more places than a text may have, and a calculation there. -/
def unshownSum : List Operation :=
  [.openSession "tips" (some 0x80000000), .press "s1" ["1", "+", "2", "="]]

/-- The sum is refused and yet on the display. -/
theorem run_standalone_unshown_sum :
    SetUp tipsOnly ∧ ∃ t ∈ (tipsOnly.run unshownSum).tickets,
      ∃ o : Origin tipsOnly unshownSum t.id,
        o.Explains ∧ o.enrolled.acceptedBatches t.id o.after = [] ∧
          t.session.display = "1+2".toList ∧ o.start.session.display = "0".toList := by
  have hdisplay : (tipsOnly.run unshownSum).tickets.map (·.session.display) =
      ["1+2".toList] := by
    decide +kernel
  have hrefused : ((tipsOnly.run [.openSession "tips" (some 0x80000000)]).press "s1"
      ["1", "+", "2", "="]).2.isOk = false := by
    decide +kernel
  obtain ⟨t, htickets, ht⟩ := List.map_eq_singleton_iff.mp hdisplay
  have hmem : t ∈ (tipsOnly.run unshownSum).tickets := htickets ▸ List.mem_singleton_self t
  obtain ⟨o, ho⟩ := (run_standalone setUp_tipsOnly unshownSum).1 t hmem
  have horigin : o.before = [] ∧ (o.name = "tips" ∧ o.places = some 0x80000000) ∧
      o.after = [.press "s1" ["1", "+", "2", "="]] := by
    have split := o.split
    simpa [unshownSum, List.cons_eq_append_iff] using split
  obtain ⟨hbefore, ⟨hname, hplaces⟩, hafter⟩ := horigin
  refine ⟨setUp_tipsOnly, t, hmem, o, ho, ?_, ht, ?_⟩
  · rw [Origin.enrolled, hbefore, hname, hplaces, hafter, List.nil_append, acceptedBatches,
      acceptedKeys?, hrefused]
    simp [acceptedBatches]
  · have field := o.field
    have opened := o.opened
    rw [hbefore, hname] at field
    rw [← Except.ok.inj field] at opened
    rw [← Except.ok.inj opened]
    rfl

end Registry

end FieldCalc
