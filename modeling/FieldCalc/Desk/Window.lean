import FieldCalc.Desk.Keypad
import FieldCalc.Desk.Popup
import FieldCalc.Registry

/-!
The desktop window: an entry for each field of a registry, calculator popups, and notices that
go away by themselves. Time stands still except where it is advanced. Once in every period the
entries take up values that changed elsewhere, except the entry being typed in; since nothing
else happens while time passes, taking them up once is taking them up each time. A field whose
value has no text, because its precision is too big, stops whatever is about to show it.
-/

namespace FieldCalc

structure Toast where
  text : String
  background : String
  deadline : Nat
  deriving DecidableEq, Repr

inductive Overlay where
  | popup (p : Popup)
  | toast (t : Toast)

namespace Overlay

def popup? : Overlay → Option Popup
  | popup p => some p
  | toast _ => none

def toast? : Overlay → Option Toast
  | popup _ => none
  | toast t => some t

def advance (now : Nat) : Overlay → Overlay
  | popup p => popup (p.advance now)
  | toast t => toast t

def lasts (now : Nat) : Overlay → Bool
  | popup _ => true
  | toast t => now < t.deadline

end Overlay

structure Desk where
  registry : Registry
  settings : Option String
  dark : Json
  palette : Palette
  entries : List (String × Text)
  /-- How many fields have their rows; building the window may stop at one that has no text. -/
  rows : Nat
  following : Bool
  overlays : List Overlay
  typing : Option String
  grabbed : Bool
  now : Nat

namespace Desk

/-- The window after an operation, and what has stopped it, if anything. -/
abbrev After := Desk × Option Trouble

/-! ## Entries -/

def fieldText (d : Desk) (name : String) : Except Fault Text := do
  (← d.registry.entry? name).field.text

def entryText (d : Desk) (name : String) : Text := (d.entries.lookup name).getD []

def putText (d : Desk) (name : String) (text : Text) : Desk :=
  { d with
    entries := d.entries.map fun entry => if entry.1 = name then (entry.1, text) else entry }

def showField (d : Desk) (name : String) : After :=
  match d.fieldText name with
  | .ok text => (d.putText name text, none)
  | .error f => (d, some (.fault f))

def showFields (d : Desk) : List String → After
  | [] => (d, none)
  | name :: rest =>
      match d.showField name with
      | (shown, none) => shown.showFields rest
      | stopped => stopped

/-! ## Building -/

def buildRows (d : Desk) : List Entry → After
  | [] => (d, none)
  | entry :: rest =>
      match d.showField entry.field.name with
      | (shown, none) => { shown with rows := shown.rows + 1 }.buildRows rest
      | stopped => stopped

def builtEntries (d : Desk) : List Entry := d.registry.entries.take d.rows

def hasRow (d : Desk) (name : String) : Bool :=
  d.builtEntries.any fun entry => entry.field.name == name

def build (d : Desk) (palette : Palette) : After :=
  { d with palette, overlays := [], typing := none, grabbed := false, rows := 0 }.buildRows
    d.registry.entries

def opened (registry : Registry) (settings : Option String) : Except Trouble Desk := do
  let settings := settings.map Settings.asRead
  let dark ← Settings.darkMode settings
  let palette := Palette.choose dark.isTrue
  let bare : Desk := {
    registry
    settings
    dark
    palette
    entries := registry.entries.map fun entry => (entry.field.name, [])
    rows := 0
    following := true
    overlays := []
    typing := none
    grabbed := false
    now := 0 }
  match bare.build palette with
  | (built, none) => return built
  | (_, some t) => throw t

def putSettings (d : Desk) (text : String) : Desk :=
  { d with settings := some (Settings.asRead text) }

/-! ## Notices -/

def toast (d : Desk) (text : String) (background : String) : Desk :=
  { d with overlays := d.overlays ++ [.toast ⟨text, background, d.now + Product.toastTime⟩] }

def toastSuccess (d : Desk) (text : String) : Desk := d.toast ("  ✓  " ++ text) d.palette.success

def toastError (d : Desk) (text : String) : Desk := d.toast ("  ✗  " ++ text) d.palette.danger

def toasts (d : Desk) : List Toast := d.overlays.filterMap Overlay.toast?

/-! ## Typed text -/

def submitEntry (d : Desk) (name : String) : After :=
  let typed := d.entryText name
  match d.registry.submitText name typed with
  | .error f => (d, some (.fault f))
  | .ok (registry, _, accepted) =>
      let told :=
        if accepted then d else d.toastError ("Could not use '" ++ String.ofList typed ++ "'")
      showField { told with registry } name

/-! ## Popups -/

def popups (d : Desk) : List Popup := d.overlays.filterMap Overlay.popup?

def newest? (d : Desk) : Option Popup := d.popups.getLast?

/-- The overlays with the newest popup replaced, or removed for `none`. -/
def replaceNewest (next : Option Popup) (overlays : List Overlay) : List Overlay :=
  let rec go : List Overlay → List Overlay
    | [] => []
    | .popup _ :: older => (next.map Overlay.popup).toList ++ older
    | .toast t :: older => .toast t :: go older
  (go overlays.reverse).reverse

def withNewest (d : Desk) (p : Popup) : Desk :=
  { d with overlays := replaceNewest (some p) d.overlays }

/-- Opens a popup on a field; it takes the focus and the grab. -/
def openPopup (d : Desk) (entry : Entry) : After :=
  match entry.field.openSession with
  | .error f => (d, some (.fault f))
  | .ok session =>
      let p := Popup.opened entry.field.name entry.label d.palette session
      ({ d with
         overlays := d.overlays ++ [.popup p]
         typing := none
         grabbed := true }, none)

/-- A click on the button in a field's row. A field without its row has no button to click. -/
def clickField (d : Desk) (name : String) : After :=
  match d.registry.entry? name with
  | .error f => (d, some (.fault f))
  | .ok entry => if d.hasRow name then d.openPopup entry else (d, none)

/-- Takes the newest popup away. What its session committed is shown in the field's entry and
told of in a notice. -/
def closePopup (d : Desk) (p : Popup) : After :=
  let gone := { d with overlays := replaceNewest none d.overlays, grabbed := false }
  match p.session.state with
  | .committed _ =>
      match gone.fieldText p.fieldName with
      | .error f => (gone, some (.fault f))
      | .ok text =>
          let shown := if text.isEmpty then "0" else String.ofList text
          ((gone.putText p.fieldName text).toastSuccess ("Saved " ++ shown), none)
  | _ => (gone, none)

def commitPopup (d : Desk) (p : Popup) : Except Trouble (Desk × Popup) × Desk :=
  match p.session.commit with
  | .error f => (.error (.fault f), d)
  | .ok (session, value) =>
      let done := { p with session }
      let kept := d.withNewest done
      match kept.registry.setField p.fieldName (.float value) with
      | .error f => (.error (.fault f), kept)
      | .ok (registry, _) => (.ok ({ kept with registry }, done), { kept with registry })

def finishPopup (d : Desk) (p : Popup) : After :=
  match d.commitPopup p with
  | (.error t, after) => (after, some t)
  | (.ok (after, done), _) => after.closePopup done

def dismissPopup (d : Desk) (p : Popup) : After :=
  match p.session.cancel with
  | .ok session => d.closePopup { p with session }
  | .error _ => d.closePopup p

def click (d : Desk) (label : String) : After :=
  match d.newest? with
  | none => (d, none)
  | some p =>
      if label = "Done" then d.finishPopup p
      else if label = "Cancel" then d.dismissPopup p
      else match Keypad.keyOf? label with
        | none => (d, none)
        | some key =>
            let (next, trouble) := p.press d.now key
            (d.withNewest next, trouble)

def clickAll (d : Desk) (labels : List String) : After :=
  labels.foldl (fun after label =>
    match after.2 with
    | some _ => after
    | none => after.1.click label) (d, none)

def keyEvent (d : Desk) (typed : LooseText) (keysym : String) : After :=
  match d.newest? with
  | none => (d, none)
  | some p =>
      let (next, trouble) := p.keyEvent d.now typed keysym
      (d.withNewest next, trouble)

def closeBox (d : Desk) : After :=
  match d.newest? with
  | none => (d, none)
  | some p => d.dismissPopup p

def finishSession (d : Desk) : After :=
  match d.newest? with
  | none => (d, none)
  | some p =>
      match d.commitPopup p with
      | (.error t, after) => (after, some t)
      | (.ok _, after) => (after, none)

def cancelSession (d : Desk) : After :=
  match d.newest? with
  | none => (d, none)
  | some p =>
      match p.session.cancel with
      | .ok session => (d.withNewest { p with session }, none)
      | .error f => (d, some (.fault f))

/-! ## Palette -/

/-- Changes between light and dark, writes the choice to the settings file, and builds the window
anew. Where the file cannot take the choice nothing is built. -/
def toggle (d : Desk) : After :=
  let isDark := !d.dark.isTrue
  let chosen := { d with dark := .bool isDark }
  match Settings.withDarkMode d.settings isDark with
  | .error t => (chosen, some t)
  | .ok file => { chosen with settings := some file }.build (Palette.choose isDark)

/-! ## Time -/

/-- Shows every field's text in its entry, except in the one being typed in. An entry that cannot
take its text up stops this for good. -/
def sync (d : Desk) : After :=
  let others := d.entries.map (·.1) |>.filter (d.typing != some ·)
  match d.showFields others with
  | (shown, none) => (shown, none)
  | (shown, some t) => ({ shown with following := false }, some t)

def pass (d : Desk) (now : Nat) : Desk :=
  { d with now, overlays := (d.overlays.map (Overlay.advance now)).filter (Overlay.lasts now) }

def nextSync (d : Desk) : Nat := (d.now / Product.syncPeriod + 1) * Product.syncPeriod

/-- Lets milliseconds pass. Time goes no further than to where the entries meet trouble; notices
that end just then are gone by then, and what else is to happen just then is not yet done. -/
def advance (d : Desk) (milliseconds : Nat) : After :=
  let later := d.now + milliseconds
  if d.following && d.nextSync ≤ later then
    match d.sync with
    | (synced, none) => (synced.pass later, none)
    | (stopped, some t) =>
        let before := stopped.pass (d.nextSync - 1)
        ({ before with
           now := d.nextSync
           overlays := before.overlays.filter (Overlay.lasts d.nextSync) }, some t)
  else (d.pass later, none)

end Desk

end FieldCalc
