import FieldCalc.Json.Basic

/-!
The light and the dark palette. Colours are written as a number sign and six hexadecimal digits.
-/

namespace FieldCalc

structure Palette where
  background : String
  backgroundDark : String
  shadowDark : String
  shadowLight : String
  displayBackground : String
  displayForeground : String
  buttonBackground : String
  buttonForeground : String
  operatorForeground : String
  equalsBackground : String
  equalsForeground : String
  specialForeground : String
  memoryForeground : String
  accent : String
  text : String
  subtext : String
  success : String
  danger : String
  headerBackground : String
  entryBackground : String
  entryForeground : String
  listBackground : String
  listForeground : String
  deriving DecidableEq, Repr

namespace Palette

def light : Palette where
  background := "#DDE6ED"
  backgroundDark := "#C8D4DF"
  shadowDark := "#B2BFC8"
  shadowLight := "#FFFFFF"
  displayBackground := "#C8D4DF"
  displayForeground := "#1A2332"
  buttonBackground := "#DDE6ED"
  buttonForeground := "#2B3A4A"
  operatorForeground := "#1E7A56"
  equalsBackground := "#2E8B57"
  equalsForeground := "#FFFFFF"
  specialForeground := "#6B3FA0"
  memoryForeground := "#2C5F8A"
  accent := "#2E8B57"
  text := "#2B3A4A"
  subtext := "#6E8090"
  success := "#2E8B57"
  danger := "#B03A2E"
  headerBackground := "#C8D4DF"
  entryBackground := "#E8EEF4"
  entryForeground := "#1A2332"
  listBackground := "#C8D4DF"
  listForeground := "#1A2332"

def dark : Palette where
  background := "#1E2530"
  backgroundDark := "#161C26"
  shadowDark := "#10161E"
  shadowLight := "#283040"
  displayBackground := "#161C26"
  displayForeground := "#9ADDB0"
  buttonBackground := "#1E2530"
  buttonForeground := "#BDD0E0"
  operatorForeground := "#4DB888"
  equalsBackground := "#2D8A58"
  equalsForeground := "#FFFFFF"
  specialForeground := "#B48EE0"
  memoryForeground := "#5E8FC8"
  accent := "#4DB888"
  text := "#BDD0E0"
  subtext := "#4E6070"
  success := "#4DB888"
  danger := "#E55A4E"
  headerBackground := "#161C26"
  entryBackground := "#283040"
  entryForeground := "#BDD0E0"
  listBackground := "#161C26"
  listForeground := "#9ADDB0"

def choose (isDark : Bool) : Palette := if isDark then dark else light

def report (p : Palette) : Json :=
  .obj ([
    ("bg", p.background),
    ("bg_dark", p.backgroundDark),
    ("shadow_dark", p.shadowDark),
    ("shadow_lite", p.shadowLight),
    ("display_bg", p.displayBackground),
    ("display_fg", p.displayForeground),
    ("btn_bg", p.buttonBackground),
    ("btn_fg", p.buttonForeground),
    ("operator_fg", p.operatorForeground),
    ("equals_bg", p.equalsBackground),
    ("equals_fg", p.equalsForeground),
    ("special_fg", p.specialForeground),
    ("memory_fg", p.memoryForeground),
    ("accent", p.accent),
    ("text", p.text),
    ("subtext", p.subtext),
    ("success", p.success),
    ("danger", p.danger),
    ("hdr_bg", p.headerBackground),
    ("entry_bg", p.entryBackground),
    ("entry_fg", p.entryForeground),
    ("listbox_bg", p.listBackground),
    ("listbox_fg", p.listForeground)].map fun entry => (entry.1, .str entry.2))

end Palette

end FieldCalc
