import FieldCalc.Proofs.Desk.Events
import FieldCalc.Proofs.Desk.Mirror
import FieldCalc.Proofs.Field.Resubmitted
import FieldCalc.Proofs.Registry.FieldValues
import FieldCalc.Proofs.Session.Calls

/-!
# Popups on the window

A popup that is opened on a field takes every click and every keyboard event until it is closed.
What it commits becomes the value of the field and the text of its entry; if it is cancelled, the
window is as it was before.
-/

namespace FieldCalc

/-- A button of the keypad or of the bar above it, or an event of the keyboard. -/
inductive PopupEvent where
  | button (b : KeyButton) (placed : b ∈ Keypad.bar ++ Keypad.rows.flatten)
  | key (typed : LooseText) (keysym : String)

namespace PopupEvent

/-- The action that an event names, if it names one. -/
def action? : PopupEvent → Option Action
  | button b _ => Action.ofKey? b.key
  | key typed keysym => Action.ofKey? (Popup.eventKey typed keysym)

def event : PopupEvent → Desk.Event
  | button b _ => .click b.label
  | key typed keysym => .key typed keysym

/-- A keyboard event that types no character. -/
def naming (action : Action) : PopupEvent := .key ⟨[]⟩ action.label

theorem action?_naming (action : Action) : (naming action).action? = some action :=
  Action.ofKey?_label action

theorem filterMap_naming (actions : List Action) :
    (actions.map naming).filterMap action? = actions := by
  rw [List.filterMap_map, show action? ∘ naming = some from funext action?_naming,
    List.filterMap_some]

end PopupEvent

namespace Desk

/-- The window with a popup that was opened last. -/
def showing (d : Desk) (p : Popup) : Desk :=
  { d with overlays := d.overlays ++ [.popup p], typing := none, grabbed := true }

/-- The window once that popup is gone. -/
def released (d : Desk) : Desk := { d with typing := none, grabbed := false }

variable {d : Desk} {p : Popup} {name : String} {places : Nat} {entry : Entry}

@[simp] theorem popups_showing (d : Desk) (p : Popup) : (d.showing p).popups = d.popups ++ [p] := by
  simp [popups, showing, Overlay.popup?]

@[simp] theorem newest?_showing (d : Desk) (p : Popup) : (d.showing p).newest? = some p := by
  simp [newest?]

@[simp] theorem replaceNewest_concat (next : Option Popup) (overlays : List Overlay) (p : Popup) :
    replaceNewest next (overlays ++ [.popup p]) =
      overlays ++ (next.map Overlay.popup).toList := by
  cases next <;> simp [replaceNewest, replaceNewest.go]

@[simp] theorem withNewest_showing (d : Desk) (p q : Popup) :
    (d.showing p).withNewest q = d.showing q := by
  simp [withNewest, showing]

/-! ## Events -/

def strike (d : Desk) (e : PopupEvent) : After := d.event e.event

theorem strike_showing (d : Desk) (p : Popup) (e : PopupEvent) :
    (d.showing p).strike e = match e.action? with
      | none => (d.showing p, none)
      | some action => (d.showing (p.act d.now action).1, (p.act d.now action).2) := by
  cases e with
  | button b placed =>
      obtain ⟨hkey, hnames, hdone, hcancel⟩ := Keypad.button_presses b placed
      obtain ⟨action, haction⟩ := Option.isSome_iff_exists.mp hnames
      simp only [strike, PopupEvent.event, event, PopupEvent.action?, click, newest?_showing, hdone,
        hcancel, if_false, hkey, haction, Popup.press_eq haction, withNewest_showing]
      rfl
  | key typed keysym =>
      simp only [strike, PopupEvent.event, event, PopupEvent.action?, keyEvent, newest?_showing,
        Popup.keyEvent_eq]
      cases Action.ofKey? (Popup.eventKey typed keysym) with
      | none => simp only [withNewest_showing]
      | some action =>
          simp only [withNewest_showing]
          rfl

def after (d : Desk) (events : List PopupEvent) : Desk :=
  events.foldl (fun d e => (d.strike e).1) d

theorem after_showing (d : Desk) (p : Popup) (events : List PopupEvent) :
    (d.showing p).after events =
      d.showing (p.acts d.now (events.filterMap PopupEvent.action?)) := by
  induction events generalizing p with
  | nil => rfl
  | cons e rest ih =>
      have hcons : (d.showing p).after (e :: rest) = ((d.showing p).strike e).1.after rest := rfl
      rw [hcons, strike_showing]
      cases haction : e.action? with
      | none => rw [ih, List.filterMap_cons_none haction]
      | some action =>
          rw [ih, List.filterMap_cons_some haction]
          rfl

/-! ## Opening -/

theorem clickField_eq_ok {opened : Desk} (row : d.hasRow name = true)
    (click : d.clickField name = (opened, none)) : ∃ entry p,
      d.registry.entry? name = .ok entry ∧ p.StartsOn name entry.field.places ∧
        opened = d.showing p := by
  unfold clickField at click
  split at click
  · cases click
  · next entry field =>
      rw [if_pos row, openPopup] at click
      split at click
      · cases click
      · next session hsession =>
          cases click
          obtain ⟨-, rfl⟩ := Registry.entry?_eq_ok field
          exact ⟨entry, _, field, Popup.startsOn_opened hsession, rfl⟩

/-! ## Closing -/

theorem closePopup_showing (d : Desk) (registry : Registry) (p q : Popup) :
    ({ d.showing p with registry } : Desk).closePopup q =
      match q.session.state with
      | .committed _ =>
          match ({ d.released with registry } : Desk).fieldText q.fieldName with
          | .error f => ({ d.released with registry }, some (.fault f))
          | .ok text =>
              ((({ d.released with registry } : Desk).putText q.fieldName text).toastSuccess
                ("Saved " ++ if text.isEmpty then "0" else String.ofList text), none)
      | _ => ({ d.released with registry }, none) := by
  have hgone : replaceNewest none ({ d.showing p with registry } : Desk).overlays = d.overlays := by
    simp [showing]
  rw [closePopup, hgone]
  rfl

theorem click_cancel (h : p.session.isOpen = true) (d : Desk) :
    (d.showing p).click "Cancel" = (d.released, none) := by
  have hclick : (d.showing p).click "Cancel" = (d.showing p).dismissPopup p := by simp [click]
  rw [hclick, dismissPopup, Session.cancel_of_open h]
  exact closePopup_showing d d.registry p _

def saved (d : Desk) (entry : Entry) (x : Binary64) : Desk :=
  { d.released with registry := d.registry.put entry x }

theorem commitPopup_showing (sound : d.Sound) (field : d.registry.entry? name = .ok entry)
    (hp : p.IsOn name places) :
    let done := { p with session := { p.session with state := .committed p.session.resultValue } }
    let after := { d.showing done with registry := d.registry.put entry p.session.resultValue }
    (d.showing p).commitPopup p = (.ok (after, done), after) := by
  obtain ⟨hfinite, hsign⟩ := Registry.resultValue_valid p.session
  have hset := Registry.setField_eq sound.fields.proper field hfinite hsign
  simp only [commitPopup, Session.commit_of_open hp.steady.isOpen, withNewest_showing, hp.name]
  rw [show (d.showing _).registry = d.registry from rfl, hset]

theorem fieldText_saved (sound : d.Sound) (field : d.registry.entry? name = .ok entry)
    (x : Binary64) :
    (d.saved entry x).fieldText name = ({ entry.field with value := x } : Field).text := by
  rw [fieldText, show (d.saved entry x).registry = d.registry.put entry x from rfl,
    Registry.entry?_put sound.fields.bound sound.fields.proper field]
  rfl

theorem click_done (sound : d.Sound) (field : d.registry.entry? name = .ok entry)
    (hp : p.IsOn name places) :
    let saved := d.saved entry p.session.resultValue
    (d.showing p).click "Done" = match saved.fieldText name with
      | .error f => (saved, some (.fault f))
      | .ok text =>
          ((saved.putText name text).toastSuccess
            ("Saved " ++ if text.isEmpty then "0" else String.ofList text), none) := by
  have hclick : (d.showing p).click "Done" = (d.showing p).finishPopup p := by simp [click]
  rw [hclick, finishPopup, commitPopup_showing sound field hp]
  simp only [closePopup_showing, hp.name]
  rfl

theorem entryText_putText (h : name ∈ d.entries.map (·.1)) (text : Text) :
    (d.putText name text).entryText name = text := by
  simp only [entryText, putText]
  generalize d.entries = entries at h
  induction entries with
  | nil => cases h
  | cons first rest ih =>
      by_cases hfirst : first.1 = name
      · simp [hfirst]
      · have hrest : name ∈ rest.map (·.1) :=
          (List.mem_cons.mp h).resolve_left fun heq => hfirst heq.symm
        have hne : (name == first.1) = false := beq_false_of_ne (Ne.symm hfirst)
        rw [List.map_cons, if_neg hfirst, List.lookup_cons, hne]
        exact ih hrest

/-- What is left where Done is clicked on a popup. -/
structure Saves (before : Desk) (p : Popup) (done : After) : Prop where
  commits : p.session.commit =
    .ok ({ p.session with state := .committed p.session.resultValue }, p.session.resultValue)
  value : done.1.registry.valueOf? p.fieldName = some p.session.resultValue
  others : ∀ name, name ≠ p.fieldName →
    done.1.registry.valueOf? name = before.registry.valueOf? name
  closed : before.popups = done.1.popups ++ [p]
  silent_iff : done.2 = none ↔
    (p.session.resultValue.isPositive = true → Display.Accepts p.session.places)
  entry : done.2 = none → done.1.fieldText p.fieldName = .ok (done.1.entryText p.fieldName)

theorem registry_done (sound : d.Sound) (field : d.registry.entry? name = .ok entry)
    (hp : p.IsOn name places) :
    ((d.showing p).click "Done").1.registry = d.registry.put entry p.session.resultValue := by
  rw [click_done sound field hp]
  split <;> rfl

theorem popups_done (sound : d.Sound) (field : d.registry.entry? name = .ok entry)
    (hp : p.IsOn name places) : ((d.showing p).click "Done").1.popups = d.popups := by
  rw [click_done sound field hp]
  split <;> simp [popups, toastSuccess, toast, putText, saved, released, Overlay.popup?]

theorem saves_done (sound : d.Sound) (field : d.registry.entry? name = .ok entry)
    (hp : p.IsOn name entry.field.places) :
    (d.showing p).Saves p ((d.showing p).click "Done") where
  commits := Session.commit_of_open hp.steady.isOpen
  value := by
    rw [registry_done sound field hp, hp.name,
      Registry.valueOf?_put sound.fields.bound sound.fields.proper field, if_pos rfl]
  others other hother := by
    rw [hp.name] at hother
    rw [registry_done sound field hp,
      Registry.valueOf?_put sound.fields.bound sound.fields.proper field, if_neg hother]
    rfl
  closed := by rw [popups_showing, popups_done sound field hp]
  silent_iff := by
    let f : Field := { entry.field with value := p.session.resultValue }
    have hshown := Field.text_eq_ok_iff (show f.value.isFinite = true from
      (Registry.resultValue_valid p.session).1)
    rw [hp.places_eq, Display.accepts_iff, ← Bool.not_eq_false, ← or_iff_not_imp_left, ← hshown,
      click_done sound field hp]
    simp only [fieldText_saved sound field]
    cases f.text <;> simp
  entry := by
    have hname : name ∈ d.entries.map (·.1) := by
      obtain ⟨hmem, hname⟩ := Registry.entry?_eq_ok field
      rw [sound.names]
      exact List.mem_map.mpr ⟨entry, hmem, hname⟩
    rw [click_done sound field hp, hp.name]
    split
    · exact nofun
    · next text htext =>
        intro _
        refine htext.trans (congrArg Except.ok ?_)
        exact (entryText_putText hname text).symm

/-- What a popup that was opened on a field owes to its user, whatever is clicked and typed. -/
structure Serves (d : Desk) (entry : Entry) (opened : Desk) : Prop where
  shown : ∀ events, ∃ p, (opened.after events).newest? = some p ∧
    p.fieldName = entry.field.name ∧ p.session.isOpen = true
  unnamed : ∀ events (e : PopupEvent), e.action? = none →
    (opened.after events).strike e = (opened.after events, none)
  alike : ∀ events (e e' : PopupEvent), e.action? = e'.action? →
    (opened.after events).strike e = (opened.after events).strike e'
  named : ∀ events (e : PopupEvent) action p next, e.action? = some action →
    (opened.after events).newest? = some p →
      ((opened.after events).strike e).1.newest? = some next →
        next.session = (p.session.perform action).state ∧
          next.tape = p.tape.record (p.session.perform action).steps
  /-- An action that raises nothing leaves the popup up to date, whatever went before. -/
  mirrors : ∀ events (e : PopupEvent) p, e.action? ≠ none →
    ((opened.after events).strike e).2 = none →
      ((opened.after events).strike e).1.newest? = some p → p.Mirrors
  mirrors_iff : (∀ events p, (opened.after events).newest? = some p → p.Mirrors) ↔
    Display.Accepts entry.field.places
  silent_iff : (∀ events e, ((opened.after events).strike e).2 = none) ↔
    Display.Accepts entry.field.places
  done : ∀ events p, (opened.after events).newest? = some p →
    (opened.after events).Saves p ((opened.after events).click "Done")
  cancel : ∀ events, (opened.after events).click "Cancel" = (d.released, none)

theorem newest?_after (d : Desk) (p : Popup) (events : List PopupEvent) :
    ((d.showing p).after events).newest? =
      some (p.acts d.now (events.filterMap PopupEvent.action?)) := by
  rw [after_showing, newest?_showing]

theorem serves_showing (sound : d.Sound) (field : d.registry.entry? name = .ok entry)
    (start : p.StartsOn name entry.field.places) : d.Serves entry (d.showing p) where
  shown events := by
    have hon := start.acts d.now (events.filterMap PopupEvent.action?)
    obtain ⟨-, hname⟩ := Registry.entry?_eq_ok field
    exact ⟨_, newest?_after d p events, hon.name.trans hname.symm, hon.steady.isOpen⟩
  unnamed events e hnone := by
    rw [after_showing, strike_showing, hnone]
  alike events e e' hsame := by
    rw [after_showing, strike_showing, strike_showing, hsame]
  named events e action q next haction hq hnext := by
    rw [after_showing] at hq hnext
    rw [strike_showing, haction, newest?_showing] at hnext
    rw [newest?_showing] at hq
    cases hq
    cases hnext
    obtain ⟨display, lines, lit, restores, heq⟩ := Popup.act_eq _ d.now action
    rw [heq]
    exact ⟨rfl, rfl⟩
  mirrors events e q hsome hsilent hnewest := by
    rw [after_showing, strike_showing] at hsilent hnewest
    split at hsilent
    · next hnone => exact absurd hnone hsome
    · next action haction =>
        rw [haction, newest?_showing] at hnewest
        cases hnewest
        exact Popup.mirrors_act hsilent
  mirrors_iff := by
    constructor
    · intro hall
      by_contra hmany
      rw [Display.accepts_iff, Nat.not_le] at hmany
      have hnewest := newest?_after d p ((Popup.sum ++ [Action.equals]).map .naming)
      have hshown := hall _ _ hnewest
      rw [PopupEvent.filterMap_naming, Popup.acts, List.foldl_append] at hshown
      exact (start.unshown_sum hmany d.now).2 hshown
    · intro accepted events q hnewest
      rw [newest?_after] at hnewest
      cases hnewest
      exact start.mirrors_acts start.mirrors accepted _ _
  silent_iff := by
    constructor
    · intro hall
      by_contra hmany
      rw [Display.accepts_iff, Nat.not_le] at hmany
      have hsilent := hall (Popup.sum.map .naming) (.naming Action.equals)
      rw [after_showing, strike_showing, PopupEvent.filterMap_naming, PopupEvent.action?_naming]
        at hsilent
      exact (start.unshown_sum hmany d.now).1 hsilent
    · intro accepted events e
      rw [after_showing, strike_showing]
      split
      · rfl
      · exact (start.acts _ _).act_silent accepted _ _
  done events q hnewest := by
    rw [after_showing] at hnewest ⊢
    rw [newest?_showing] at hnewest
    cases hnewest
    exact saves_done sound field (start.acts _ _)
  cancel events := by
    rw [after_showing]
    exact click_cancel (start.acts _ _).steady.isOpen d

/-- A popup that is opened in any state of the window shows its session after every click and
every keyboard event, and what it commits lands. With a precision that no text has the places for
a session can be ahead of its popup, and a value that lands is not shown. -/
theorem Reached.serves {opened : Desk} (h : d.Reached) (row : d.hasRow name = true)
    (click : d.clickField name = (opened, none)) :
    ∃ entry, d.registry.entry? name = .ok entry ∧ d.Serves entry opened := by
  obtain ⟨entry, p, field, start, rfl⟩ := clickField_eq_ok row click
  exact ⟨entry, field, serves_showing h.sound field start⟩

/-- A five that no text has the places for is kept, but it is not shown. -/
theorem serves_unshownFive : ∃ d opened entry, Reached d ∧
    d.clickField "tips" = (opened, none) ∧ d.Serves entry opened ∧
    let done := (opened.after [.naming (.digit 5)]).click "Done"
    done.2.isSome = true ∧ done.1.registry.valueOf? "tips" = some (Binary64.ofNat 5) ∧
      done.1.entryText "tips" = [] := by
  let r : Registry :=
    ⟨[⟨"tips", 0, ⟨"tips", 2147483648, false, .zero⟩⟩], 1, [], [], 0, 1800, 100, 0⟩
  have setUp : Registry.SetUp r :=
    .added (.empty 1800 100) (show (Registry.empty 1800 100).addField "tips" none 2147483648
      (.float .zero) = .ok (_, _) from rfl)
  have start : Desk.opened r none = .ok _ := rfl
  have reached := Reached.opened ⟨r, [], setUp, rfl⟩ start
  obtain ⟨entry, -, serves⟩ := reached.serves (show hasRow _ "tips" = true from rfl)
    (show clickField _ "tips" = (_, none) from rfl)
  refine ⟨_, _, entry, reached, rfl, serves, ?_⟩
  decide +kernel

end Desk

end FieldCalc
