import FieldCalc.Desk.Window

/-!
The widgets of the window, as the window system is told of them: their kind, the options they are
given, and what they hold.
-/

namespace FieldCalc

inductive Look where
  | text (value : String)
  | background (colour : String)
  | foreground (colour : String)
  | active (colour : String)
  | font (value : Font)
  | width (value : Nat)
  | height (value : Nat)
  | cell (row column : Nat)
  | lines (value : List Text)
  | title (value : String)
  | geometry (value : String)

inductive Widget where
  | node (kind : String) (looks : List Look) (children : List Widget)

namespace Font

def report (f : Font) : Json :=
  .arr ([.str f.family, .int f.size] ++ if f.bold then [.str "bold"] else [])

end Font

namespace Look

def report : Look → LooseText × Json
  | text value => ("text", .str value)
  | background colour => ("bg", .str colour)
  | foreground colour => ("fg", .str colour)
  | active colour => ("activebackground", .str colour)
  | font value => ("font", value.report)
  | width value => ("width", .int value)
  | height value => ("height", .int value)
  | cell row column => ("grid", .arr [.int row, .int column])
  | lines value => ("lines", .arr (value.map .ofText))
  | title value => ("title", .str value)
  | geometry value => ("geometry", .str value)

end Look

namespace Widget

mutual

def report : Widget → Json
  | node kind looks children =>
      let own : Json.Members := ("class", .str kind) :: looks.map Look.report
      .obj (own.concat ("children", .arr (reportAll children)))

def reportAll : List Widget → List Json
  | [] => []
  | w :: rest => report w :: reportAll rest

end

def leaf (kind : String) (looks : List Look) : Widget := node kind looks []

def frame (colour : String) (children : List Widget) : Widget :=
  node "Frame" [.background colour] children

def button (p : Palette) (label : String) (kind : ButtonKind) (font : Font)
    (more : List Look) : Widget :=
  let (background, foreground, active) := kind.colours p
  leaf "Button"
    ([.text label, .background background, .foreground foreground, .active active, .font font]
      ++ more)

/-! ## Parts of the window -/

def largeButtonFont : Font := { Product.buttonFont with size := 16 }

def header (p : Palette) : Widget :=
  node "Frame" [.background p.headerBackground, .height 50] [
    leaf "Label" [
      .text Product.shortName, .font { largeButtonFont with bold := true },
      .background p.headerBackground, .foreground p.accent],
    button p (if p = .dark then "☀" else "☾") .normal Product.buttonFont []]

def fieldLabel (p : Palette) (row : Nat) (entry : Entry) : Widget :=
  leaf "Label" [
    .text entry.label, .font Product.labelFont, .background p.background, .foreground p.text,
    .cell row 0]

def fieldRow (p : Palette) (row : Nat) (entry : Entry) : List Widget := [
  fieldLabel p row entry,
  leaf "Entry" [
    .font Product.labelFont, .background p.entryBackground, .foreground p.entryForeground,
    .cell row 1],
  button p "Calc" .operator Product.buttonFont [.cell row 2]]

/-- The first rows of the fields. A field after them at which building has stopped has its label
only. -/
def fieldRows (p : Palette) (rows : Nat) (entries : List Entry) : Widget :=
  frame p.background
    (((entries.take rows).zipIdx.flatMap fun (entry, row) => fieldRow p row entry)
      ++ ((entries.drop rows).head?.map (fieldLabel p rows)).toList)

def keypad (p : Palette) : Widget :=
  frame p.background (Keypad.rows.zipIdx.flatMap fun (buttons, row) =>
    buttons.zipIdx.map fun (b, column) =>
      button p b.label b.kind largeButtonFont [.cell row column])

def popup (w : Popup) : Widget :=
  let p := w.palette
  node "CalculatorPopup" [
      .title w.title, .geometry (Product.geometry Product.popupWidth Product.popupHeight),
      .background p.background] [
    frame p.background [
      leaf "Listbox" [
        .height 4, .font Product.tapeFont, .background p.listBackground,
        .foreground p.listForeground, .lines w.lines],
      leaf "Scrollbar" []],
    leaf "Label" [
      .text (String.ofList w.display), .font Product.displayFont,
      .background w.displayBackground, .foreground p.displayForeground],
    frame p.background (Keypad.bar.map fun b =>
      button p b.label b.kind Product.buttonFont [.width 3]),
    keypad p,
    frame p.background [
      button p "Cancel" .normal Product.buttonFont [],
      button p "Done" .equals Product.buttonFont []]]

def toast (t : Toast) : Widget :=
  frame t.background [
    leaf "Label" [
      .text t.text, .font ⟨Product.buttonFont.family, 9, true⟩, .background t.background,
      .foreground "#FFFFFF"]]

def overlay : Overlay → Widget
  | .popup p => popup p
  | .toast t => toast t

def ofDesk (d : Desk) : Widget :=
  node "Tk" [
      .title Product.name,
      .geometry (Product.geometry Product.windowWidth Product.windowHeight),
      .background d.palette.background]
    ([header d.palette, fieldRows d.palette d.rows d.registry.entries]
      ++ d.overlays.map overlay)

end Widget

end FieldCalc
