import FieldCalc.Session

/-!
Sessions side by side, some of which may share a tape. Each seat holds a session and the number
of the tape it records on; what a session does depends on nothing else in the group.
-/

namespace FieldCalc

structure Seat where
  session : Session
  tape : Nat
  received : List Binary64

structure Group where
  tapes : List Tape
  seats : List Seat

namespace Group

def empty : Group := ⟨[], []⟩

def tape (g : Group) (n : Nat) : Tape := g.tapes.getD n .empty

def sit (g : Group) (session : Session) : Group :=
  ⟨g.tapes ++ [.empty], g.seats ++ [⟨session, g.tapes.length, []⟩]⟩

def sitAt (g : Group) (session : Session) (tape : Nat) : Group :=
  { g with seats := g.seats ++ [⟨session, tape, []⟩] }

def settle (g : Group) (n : Nat) (seat : Seat) (o : Outcome Session) : Group :=
  { tapes := g.tapes.modify seat.tape (·.record o.steps)
    seats := g.seats.set n { seat with session := o.state } }

def press (g : Group) (n : Nat) (keys : List LooseText) : Outcome Group :=
  match g.seats[n]? with
  | none => .quiet g
  | some seat =>
      let o := seat.session.pressAll keys
      o.map fun _ => g.settle n seat o

def commit (g : Group) (n : Nat) : Except Fault (Group × Option Binary64) :=
  match g.seats[n]? with
  | none => .ok (g, none)
  | some seat => do
      let (session, value) ← seat.session.commit
      let done : Seat := { seat with session, received := seat.received ++ [value] }
      return ({ g with seats := g.seats.set n done }, some value)

def cancel (g : Group) (n : Nat) : Except Fault Group :=
  match g.seats[n]? with
  | none => .ok g
  | some seat => do
      let session ← seat.session.cancel
      return { g with seats := g.seats.set n { seat with session } }

end Group

end FieldCalc
