import FieldCalc.Desk.Palette
import FieldCalc.Desk.Settings
import FieldCalc.Product
import FieldCalc.Session
import FieldCalc.Text.Printable

/-!
The calculator popup: a session on a field, and what its window shows of it. The window is
brought up to date after every key that was carried out, and not before: a session that someone
else closes is still shown as it was.
-/

namespace FieldCalc

structure Popup where
  fieldName : String
  title : String
  palette : Palette
  session : Session
  tape : Tape
  display : Text
  lines : List Text
  lit : Bool
  restores : List Nat

namespace Popup

/-- Shows the display and the tape of the session. If the tape cannot be shown, its list stays
empty. -/
def refresh (p : Popup) : Popup × Option Trouble :=
  match p.tape.lines p.session.places with
  | .ok lines => ({ p with display := p.session.display, lines }, none)
  | .error f => ({ p with display := p.session.display, lines := [] }, some (.fault f))

def opened (fieldName title : String) (palette : Palette) (session : Session) : Popup where
  fieldName := fieldName
  title := title
  palette := palette
  session := session
  tape := .empty
  display := session.display
  lines := []
  lit := false
  restores := []

def displayBackground (p : Popup) : String :=
  if p.lit then p.palette.backgroundDark else p.palette.displayBackground

/-- The popup after its session has moved on at a time; a press that is to be felt lights the
display up. -/
def settle (p : Popup) (now : Nat) (o : Outcome Session) : Popup × Option Trouble :=
  let felt := !o.feedback.isEmpty
  let moved : Popup :=
    { p with
      session := o.state
      tape := p.tape.record o.steps
      lit := p.lit || felt
      restores := if felt then p.restores ++ [now + Product.flashTime] else p.restores }
  match o.fault with
  | some f => (moved, some (.fault f))
  | none => moved.refresh

def press (p : Popup) (now : Nat) (key : String) : Popup × Option Trouble :=
  p.settle now (p.session.press key)

/-- The key name of a keyboard event: the character it types if that is printable, else the name
of the keyboard key. -/
def eventKey (typed : LooseText) (keysym : String) : String :=
  match typed.text? with
  | some t => if !t.isEmpty && t.all isPrintable then String.ofList t else keysym
  | none => keysym

/-- A keyboard event; one that names no key is ignored. -/
def keyEvent (p : Popup) (now : Nat) (typed : LooseText) (keysym : String) :
    Popup × Option Trouble :=
  match Action.ofKey? (eventKey typed keysym) with
  | none => (p, none)
  | some action => p.settle now (p.session.perform action)

def advance (p : Popup) (now : Nat) : Popup :=
  { p with
    lit := p.lit && !p.restores.any (· ≤ now)
    restores := p.restores.filter (now < ·) }

end Popup

end FieldCalc
