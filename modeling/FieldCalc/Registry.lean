import FieldCalc.Field

/-!
The fields of a host and the sessions open on them. Fields and sessions are kept in the order in
which they were registered and opened. A session that nobody has used for the idle time is
cancelled when another is opened or when the idle ones are asked for, and the one unused for
longest makes room where the registry is full. A finished, cancelled or dropped session leaves
the registry for good, and its number is never used again. The clock reads whole seconds.
-/

namespace FieldCalc

/-- A registered field. The serial number tells it from a field registered under the same name
at another time. -/
structure Entry where
  label : String
  serial : Nat
  field : Field
  deriving DecidableEq

/-- A session that was opened on a field, its tape, and when it was last used. -/
structure Ticket where
  number : Nat
  fieldName : String
  serial : Nat
  session : Session
  tape : Tape
  lastUsed : Int
  deriving DecidableEq

namespace Ticket

def id (t : Ticket) : String := s!"s{t.number}"

def abandoned (t : Ticket) : Ticket := { t with session := t.session.abandoned }

def oldest (first : Ticket) : List Ticket → Ticket
  | [] => first
  | t :: rest => if t.lastUsed < first.lastUsed then oldest t rest else oldest first rest

end Ticket

structure Registry where
  entries : List Entry
  registered : Nat
  tickets : List Ticket
  departed : List Ticket
  opened : Nat
  idleSeconds : Int
  capacity : Int
  now : Int

namespace Registry

def empty (idleSeconds capacity : Int) : Registry := ⟨[], 0, [], [], 0, idleSeconds, capacity, 0⟩

def setClock (r : Registry) (now : Int) : Registry := { r with now }

/-! ## Fields -/

def entry? (r : Registry) (name : String) : Except Fault Entry :=
  match r.entries.find? (·.field.name == name) with
  | some entry => .ok entry
  | none => .error (.unknownField (.str name))

/-- The entries with one added; an entry of the same name is replaced where it stands. -/
def putEntry (entry : Entry) : List Entry → List Entry
  | [] => [entry]
  | other :: rest =>
      if other.field.name = entry.field.name then entry :: rest
      else other :: putEntry entry rest

/-- Registers a field. One without a label, or with an empty one, is labelled with its name. -/
def addField (r : Registry) (name : String) (label : Option String) (places : Int)
    (value : Json) : Except Fault (Registry × Entry) := do
  let field ← Field.make name value places false
  let label := match label with
    | some text => if text.isEmpty then name else text
    | none => name
  let entry : Entry := ⟨label, r.registered, field⟩
  return ({ r with entries := putEntry entry r.entries, registered := r.registered + 1 }, entry)

/-- Replaces the field that has the serial number; one that is no longer registered is left. -/
def writeField (r : Registry) (serial : Nat) (field : Field) : Registry :=
  { r with
    entries := r.entries.map fun entry =>
      if entry.serial = serial then { entry with field } else entry }

/-- Sets a field directly. The value must be finite and not negative. -/
def setField (r : Registry) (name : String) (value : Json) : Except Fault (Registry × Entry) := do
  let x ← value.toNumber
  if x.isFinite && x.isNonneg then
    let entry ← r.entry? name
    let field ← entry.field.set x
    return (r.writeField entry.serial field, { entry with field })
  else throw (.invalidFieldValue x)

def submitText (r : Registry) (name : String) (text : Text) :
    Except Fault (Registry × Entry × Bool) := do
  let entry ← r.entry? name
  let (field, accepted) ← entry.field.submit text
  return (r.writeField entry.serial field, { entry with field }, accepted)

/-! ## Leaving the registry -/

def ticket? (r : Registry) (id : String) : Except Fault Ticket :=
  match r.tickets.find? (·.id == id) with
  | some t => .ok t
  | none => .error (.unknownSession id)

def depart (r : Registry) (leaving : Ticket) : Registry :=
  { r with
    tickets := r.tickets.filter (·.number != leaving.number)
    departed := r.departed ++ [leaving] }

/-- Readings of the clock and the idle time are whole seconds, so that the difference is exact. -/
def isIdle (r : Registry) (t : Ticket) : Bool := t.lastUsed ≤ r.now - r.idleSeconds

def idleTickets (r : Registry) : List Ticket := r.tickets.filter r.isIdle

def expire (r : Registry) : Registry :=
  r.idleTickets.foldl (fun r t => r.depart t.abandoned) r

/-- Drops the sessions unused for longest, up to `count` of them, until one more may be open. -/
def makeRoom : Nat → Registry → Registry
  | 0, r => r
  | count + 1, r =>
      match r.tickets with
      | [] => r
      | first :: rest =>
          if r.capacity ≤ r.tickets.length then
            makeRoom count (r.depart (Ticket.oldest first rest).abandoned)
          else r

/-! ## Sessions -/

def sessionOn (field : Field) : Option Int → Except Fault Session
  | none => field.openSession
  | some places => do Session.opened field.value (← Display.checkPlaces places)

def enrol (r : Registry) (entry : Entry) (session : Session) : Registry × Ticket :=
  let t : Ticket := ⟨r.opened + 1, entry.field.name, entry.serial, session, .empty, r.now⟩
  ({ r with tickets := r.tickets ++ [t], opened := r.opened + 1 }, t)

/-- Opens a session on a field. Idle sessions go first, then room is made; both have happened
when the precision turns out to be one that no session has. -/
def openSession (r : Registry) (name : String) (places : Option Int) :
    Registry × Except Fault Ticket :=
  match r.entry? name with
  | .error fault => (r, .error fault)
  | .ok entry =>
      let cleared := r.expire
      let roomy := makeRoom cleared.tickets.length cleared
      match sessionOn entry.field places with
      | .error fault => (roomy, .error fault)
      | .ok session =>
          let (next, t) := roomy.enrol entry session
          (next, .ok t)

def update (r : Registry) (t : Ticket) : Registry :=
  { r with tickets := r.tickets.map fun old => if old.number = t.number then t else old }

/-- Presses keys on a session in order; an unknown key refuses them all. -/
def press (r : Registry) (id : String) (keys : List LooseText) :
    Registry × Except Fault Ticket :=
  match Action.ofKeys keys with
  | .error fault => (r, .error fault)
  | .ok actions =>
      match r.ticket? id with
      | .error fault => (r, .error fault)
      | .ok t =>
          let o := t.session.performAll actions
          let pressed : Ticket :=
            { t with session := o.state, tape := t.tape.record o.steps, lastUsed := r.now }
          (r.update pressed, match o.fault with
            | some fault => .error fault
            | none => .ok pressed)

def finish (r : Registry) (id : String) : Except Fault (Registry × Ticket) := do
  let t ← r.ticket? id
  let (session, value) ← t.session.commit
  let done : Ticket := { t with session }
  match r.entries.find? (·.serial == t.serial) with
  | none => return (r.depart done, done)
  | some entry =>
      let field ← entry.field.set value
      return ((r.writeField t.serial field).depart done, done)

/-- Cancels a session and takes it out of the registry; its field keeps the value it has. -/
def cancel (r : Registry) (id : String) : Except Fault (Registry × Ticket) := do
  let t ← r.ticket? id
  let session ← t.session.cancel
  let gone : Ticket := { t with session }
  return (r.depart gone, gone)

def held (r : Registry) : List Ticket :=
  (r.tickets ++ r.departed).mergeSort fun a b => a.number ≤ b.number

end Registry

end FieldCalc
