import FieldCalc.Calculator

/-!
A session: one calculator opened on one value. It is open until it is committed or cancelled, and
closed for good after that. Cancelling takes the expression back to what it was at the start and
empties the memory; the tape is the holder's and is kept.
-/

namespace FieldCalc

inductive SessionState where
  | open
  | committed (value : Binary64)
  | cancelled
  deriving DecidableEq

namespace SessionState

def name : SessionState → String
  | .open => "open"
  | committed _ => "committed"
  | cancelled => "cancelled"

def committed? : SessionState → Option Binary64
  | committed value => some value
  | _ => none

end SessionState

structure Session where
  calculator : Calculator
  state : SessionState
  start : Buffer
  deriving DecidableEq

namespace Session

/-- Opens a session. A finite value above zero is shown at the start. -/
def opened (initial : Binary64) (places : Nat) : Except Fault Session :=
  let fresh := Calculator.fresh places
  if initial.isFinite && initial.isPositive then
    match Display.format places initial with
    | .error fault => .error fault
    | .ok text =>
        let seeded := fresh.edit (·.loadNumber text)
        .ok ⟨seeded, .open, seeded.buffer⟩
  else .ok ⟨fresh, .open, fresh.buffer⟩

def isOpen (s : Session) : Bool := s.state == .open

def display (s : Session) : Text := s.calculator.display

def places (s : Session) : Nat := s.calculator.places

def closedFault (s : Session) : Fault := .sessionClosed s.state.name

/-! ## Keys -/

def withCalculator (s : Session) (c : Calculator) : Session := { s with calculator := c }

def perform (s : Session) (action : Action) : Outcome Session :=
  if s.isOpen then (s.calculator.press action).map s.withCalculator
  else .refused s s.closedFault

def press (s : Session) (key : LooseText) : Outcome Session :=
  match Action.ofKey key with
  | .error fault => .refused s fault
  | .ok action => s.perform action

def pressAll (s : Session) (keys : List LooseText) : Outcome Session :=
  Outcome.forEach press s keys

def performAll (s : Session) (actions : List Action) : Outcome Session :=
  Outcome.forEach perform s actions

/-! ## Closing -/

/-- What would be committed now: the display if it reads as a plain number, else zero. -/
def resultValue (s : Session) : Binary64 :=
  match Display.plainNumber? s.display with
  | some value => Display.commit s.places value
  | none => .zero

def commit (s : Session) : Except Fault (Session × Binary64) :=
  if s.isOpen then .ok ({ s with state := .committed s.resultValue }, s.resultValue)
  else .error s.closedFault

def abandoned (s : Session) : Session :=
  { s with
    calculator := { s.calculator with buffer := s.start, memory := .empty }
    state := .cancelled }

def cancel (s : Session) : Except Fault Session :=
  if s.isOpen then .ok s.abandoned else .error s.closedFault

end Session

end FieldCalc
