import FieldCalc.Desk.Window
import FieldCalc.Proofs.Registry.Binding

/-!
# The states of the window

A host sets its fields up, carries out operations, and opens the window. From then on the user and
the rest of the host act in any order; what stops one of them leaves a state from which the next
goes on. Whatever happens, the registry is one that operations lead to, and the entries are those
of its fields.
-/

namespace FieldCalc

namespace Registry

/-- A registry that operations have led to since it was set up. -/
def HasRun (r : Registry) : Prop := ∃ start ops, SetUp start ∧ start.run ops = r

variable {r : Registry}

theorem HasRun.run (h : r.HasRun) (ops : List Operation) : (r.run ops).HasRun := by
  obtain ⟨start, before, setUp, rfl⟩ := h
  exact ⟨start, before ++ ops, setUp, run_append start before ops⟩

theorem HasRun.proper (h : r.HasRun) : r.Proper := by
  obtain ⟨start, ops, setUp, rfl⟩ := h
  exact proper_run setUp.proper ops

theorem HasRun.bound (h : r.HasRun) : r.Bound := by
  obtain ⟨start, ops, setUp, rfl⟩ := h
  exact setUp.bound_run ops

end Registry

namespace Desk

/-- What can happen to the window: what its user does, what others do to its registry, to its
settings file and to the session of its newest popup, and that time passes. -/
inductive Event where
  | putText (name : String) (text : Text)
  | submitEntry (name : String)
  | focus (name : Option String)
  | clickField (name : String)
  | click (label : String)
  | key (typed : LooseText) (keysym : String)
  | closeBox
  | finishSession
  | cancelSession
  | toggle
  | operate (op : Registry.Operation)
  | putSettings (text : String)
  | advance (milliseconds : Nat)

def event (d : Desk) : Event → After
  | .putText name text => (d.putText name text, none)
  | .submitEntry name => d.submitEntry name
  | .focus name => ({ d with typing := name }, none)
  | .clickField name => d.clickField name
  | .click label => d.click label
  | .key typed keysym => d.keyEvent typed keysym
  | .closeBox => d.closeBox
  | .finishSession => d.finishSession
  | .cancelSession => d.cancelSession
  | .toggle => d.toggle
  | .operate op => ({ d with registry := d.registry.apply op }, none)
  | .putSettings text => (d.putSettings text, none)
  | .advance milliseconds => d.advance milliseconds

/-- A window that events have led to since it was opened. -/
inductive Reached : Desk → Prop where
  | opened {r : Registry} {settings : Option String} {d : Desk} (fields : r.HasRun)
      (start : Desk.opened r settings = .ok d) : Reached d
  | after {d : Desk} (before : Reached d) (e : Event) : Reached (d.event e).1

/-! ## What every event keeps -/

/-- The window after something has happened to it: entries have been given texts at most, and the
registry has been changed by operations at most. -/
structure Keeps (d next : Desk) : Prop where
  names : next.entries.map (·.1) = d.entries.map (·.1)
  registry : ∃ ops, next.registry = d.registry.run ops

variable {d next : Desk}

theorem keeps_of_eq (hentries : next.entries = d.entries) (hregistry : next.registry = d.registry) :
    d.Keeps next :=
  ⟨congrArg (List.map (·.1)) hentries, [], hregistry⟩

theorem Keeps.refl (d : Desk) : d.Keeps d := keeps_of_eq rfl rfl

theorem Keeps.trans {last : Desk} (h : d.Keeps next) (h' : next.Keeps last) : d.Keeps last := by
  obtain ⟨ops, hops⟩ := h.registry
  obtain ⟨more, hmore⟩ := h'.registry
  exact ⟨h'.names.trans h.names, ops ++ more, by rw [hmore, hops, Registry.run_append]⟩

theorem keeps_operate (d : Desk) (op : Registry.Operation) :
    d.Keeps { d with registry := d.registry.apply op } :=
  ⟨rfl, [op], rfl⟩

theorem keeps_withNewest (d : Desk) (p : Popup) : d.Keeps (d.withNewest p) := keeps_of_eq rfl rfl

theorem keeps_putText (d : Desk) (name : String) (text : Text) : d.Keeps (d.putText name text) := by
  refine ⟨?_, [], rfl⟩
  simp only [putText, List.map_map]
  refine List.map_congr_left fun entry _ => ?_
  simp only [Function.comp_apply]
  split <;> rfl

theorem keeps_showField (d : Desk) (name : String) : d.Keeps (d.showField name).1 := by
  unfold showField
  split
  · exact keeps_putText d name _
  · exact .refl d

theorem keeps_showFields (d : Desk) (names : List String) : d.Keeps (d.showFields names).1 := by
  induction names generalizing d with
  | nil => exact .refl d
  | cons name rest ih =>
      have hfirst := d.keeps_showField name
      unfold showFields
      split
      · next shown heq =>
          rw [heq] at hfirst
          exact hfirst.trans (ih shown)
      · exact hfirst

theorem keeps_buildRows (d : Desk) (entries : List Entry) : d.Keeps (d.buildRows entries).1 := by
  induction entries generalizing d with
  | nil => exact .refl d
  | cons entry rest ih =>
      have hfirst := d.keeps_showField entry.field.name
      unfold buildRows
      split
      · next shown heq =>
          rw [heq] at hfirst
          refine Keeps.trans ?_ (ih _)
          exact hfirst.trans (keeps_of_eq rfl rfl)
      · exact hfirst

theorem keeps_build (d : Desk) (palette : Palette) : d.Keeps (d.build palette).1 := by
  refine Keeps.trans ?_ (keeps_buildRows _ _)
  exact keeps_of_eq rfl rfl

theorem keeps_toggle (d : Desk) : d.Keeps d.toggle.1 := by
  unfold toggle
  simp only
  split
  · exact keeps_of_eq rfl rfl
  · refine Keeps.trans ?_ (keeps_build _ _)
    exact keeps_of_eq rfl rfl

theorem keeps_submitEntry (d : Desk) (name : String) : d.Keeps (d.submitEntry name).1 := by
  unfold submitEntry
  simp only
  split
  · exact .refl d
  · next registry entry accepted hsubmit =>
      have hoperate := d.keeps_operate (.submitText name (d.entryText name))
      rw [Registry.apply, hsubmit] at hoperate
      refine Keeps.trans ?_ (keeps_showField _ name)
      cases accepted <;> exact hoperate.trans (keeps_of_eq rfl rfl)

theorem keeps_clickField (d : Desk) (name : String) : d.Keeps (d.clickField name).1 := by
  unfold clickField openPopup
  split
  · exact .refl d
  · split
    · split
      · exact .refl d
      · exact keeps_of_eq rfl rfl
    · exact .refl d

theorem keeps_closePopup (d : Desk) (p : Popup) : d.Keeps (d.closePopup p).1 := by
  have hgone : d.Keeps { d with overlays := replaceNewest none d.overlays, grabbed := false } :=
    keeps_of_eq rfl rfl
  unfold closePopup
  simp only
  split
  · split
    · exact hgone
    · exact (hgone.trans (keeps_putText _ _ _)).trans (keeps_of_eq rfl rfl)
  · exact hgone

/-- A commit leaves the same window whether it is asked what it came to or what it has left. -/
theorem keeps_commitPopup (d : Desk) (p : Popup) :
    d.Keeps (d.commitPopup p).2 ∧
      ∀ after done, (d.commitPopup p).1 = .ok (after, done) → d.Keeps after := by
  unfold commitPopup
  split
  · exact ⟨.refl d, fun _ _ h => by cases h⟩
  · next session value _ =>
      have hkept := d.keeps_withNewest { p with session }
      simp only
      split
      · exact ⟨hkept, fun _ _ h => by cases h⟩
      · next registry entry hset =>
          have hoperate := keeps_operate (d.withNewest { p with session })
            (.setField p.fieldName (.float value))
          rw [Registry.apply, hset] at hoperate
          refine ⟨hkept.trans hoperate, fun after done h => ?_⟩
          cases h
          exact hkept.trans hoperate

theorem keeps_finishPopup (d : Desk) (p : Popup) : d.Keeps (d.finishPopup p).1 := by
  obtain ⟨hstopped, hdone⟩ := d.keeps_commitPopup p
  unfold finishPopup
  split
  · next heq =>
      rw [heq] at hstopped
      exact hstopped
  · next after done _ heq =>
      have hafter := hdone after done (by rw [heq])
      exact hafter.trans (keeps_closePopup after done)

theorem keeps_dismissPopup (d : Desk) (p : Popup) : d.Keeps (d.dismissPopup p).1 := by
  unfold dismissPopup
  split <;> exact keeps_closePopup d _

theorem keeps_click (d : Desk) (label : String) : d.Keeps (d.click label).1 := by
  unfold click
  split
  · exact .refl d
  · next p _ =>
      split
      · exact keeps_finishPopup d p
      · split
        · exact keeps_dismissPopup d p
        · split
          · exact .refl d
          · exact keeps_withNewest d _

theorem keeps_keyEvent (d : Desk) (typed : LooseText) (keysym : String) :
    d.Keeps (d.keyEvent typed keysym).1 := by
  unfold keyEvent
  split
  · exact .refl d
  · exact keeps_withNewest d _

theorem keeps_closeBox (d : Desk) : d.Keeps d.closeBox.1 := by
  unfold closeBox
  split
  · exact .refl d
  · exact keeps_dismissPopup d _

theorem keeps_finishSession (d : Desk) : d.Keeps d.finishSession.1 := by
  unfold finishSession
  split
  · exact .refl d
  · next p _ =>
      have hcommit := (d.keeps_commitPopup p).1
      split <;> next heq =>
        rw [heq] at hcommit
        exact hcommit

theorem keeps_cancelSession (d : Desk) : d.Keeps d.cancelSession.1 := by
  unfold cancelSession
  split
  · exact .refl d
  · split
    · exact keeps_withNewest d _
    · exact .refl d

theorem keeps_sync (d : Desk) : d.Keeps d.sync.1 := by
  have hshown := d.keeps_showFields (d.entries.map (·.1) |>.filter (d.typing != some ·))
  unfold sync
  simp only
  split
  · next heq =>
      rw [heq] at hshown
      exact hshown
  · next heq =>
      rw [heq] at hshown
      exact hshown.trans (keeps_of_eq rfl rfl)

theorem keeps_advance (d : Desk) (milliseconds : Nat) : d.Keeps (d.advance milliseconds).1 := by
  have hsync := d.keeps_sync
  unfold advance
  simp only
  split
  · split <;> next heq =>
      rw [heq] at hsync
      exact hsync.trans (keeps_of_eq rfl rfl)
  · exact keeps_of_eq rfl rfl

theorem keeps_event (d : Desk) (e : Event) : d.Keeps (d.event e).1 := by
  cases e with
  | putText name text => exact keeps_putText d name text
  | submitEntry name => exact keeps_submitEntry d name
  | clickField name => exact keeps_clickField d name
  | click label => exact keeps_click d label
  | key typed keysym => exact keeps_keyEvent d typed keysym
  | closeBox => exact keeps_closeBox d
  | finishSession => exact keeps_finishSession d
  | cancelSession => exact keeps_cancelSession d
  | toggle => exact keeps_toggle d
  | operate op => exact keeps_operate d op
  | focus | putSettings => exact keeps_of_eq rfl rfl
  | advance milliseconds => exact keeps_advance d milliseconds

/-! ## Every state -/

structure Sound (d : Desk) : Prop where
  fields : d.registry.HasRun
  names : d.entries.map (·.1) = d.registry.entries.map (·.field.name)

theorem Sound.keeps (hd : d.Sound) (h : d.Keeps next) : next.Sound := by
  obtain ⟨ops, hops⟩ := h.registry
  refine ⟨?_, ?_⟩
  · rw [hops]
    exact hd.fields.run ops
  · rw [h.names, hd.names, hops, Registry.names_run hd.fields.proper]

theorem sound_opened {r : Registry} {settings : Option String} (fields : r.HasRun)
    (start : Desk.opened r settings = .ok d) : d.Sound := by
  simp only [opened, bind, Except.bind] at start
  split at start
  · cases start
  · split at start
    · next built heq =>
        cases start
        have hbuilt : _ = d := congrArg Prod.fst heq
        rw [← hbuilt]
        refine Sound.keeps ⟨fields, ?_⟩ (keeps_build _ _)
        simp
    · cases start

theorem Reached.sound (h : d.Reached) : d.Sound := by
  induction h with
  | opened fields start => exact sound_opened fields start
  | after _ e ih => exact ih.keeps (keeps_event _ e)

end Desk

end FieldCalc
