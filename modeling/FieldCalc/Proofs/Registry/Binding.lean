import FieldCalc.Proofs.Registry.Calls
import Mathlib.Data.List.Induction

/-!
# Sessions and their fields

Where fields are registered only when a host is set up, every registered session belongs to the
field of its name for as long as it is registered. What it commits is therefore found under that
name, and under no other.
-/

namespace FieldCalc.Registry

variable {r : Registry}

/-- The value of the field of a name. -/
def valueOf? (r : Registry) (name : String) : Option Binary64 :=
  (r.entry? name).toOption.map (·.field.value)

theorem valueOf?_eq (r : Registry) (name : String) :
    r.valueOf? name = (r.entries.find? (·.field.name == name)).map (·.field.value) := by
  unfold valueOf? entry?
  cases r.entries.find? (·.field.name == name) <;> rfl

/-- Each name is that of one field, and registered sessions know theirs. -/
structure Bound (r : Registry) : Prop where
  names : (r.entries.map (·.field.name)).Nodup
  fields : ∀ t ∈ r.tickets, ∃ entry ∈ r.entries,
    entry.serial = t.serial ∧ entry.field.name = t.fieldName

/-! ## Setting up -/

theorem nodup_names_putEntry {entry : Entry} {entries : List Entry}
    (h : (entries.map (·.field.name)).Nodup) :
    ((putEntry entry entries).map (·.field.name)).Nodup := by
  induction entries with
  | nil => exact List.nodup_singleton entry.field.name
  | cons first rest ih =>
      obtain ⟨hfirst, hrest⟩ := List.nodup_cons.mp h
      unfold putEntry
      split
      · next hsame =>
          rw [List.map_cons, ← hsame]
          exact h
      · next hother =>
          refine List.nodup_cons.mpr ⟨fun hmem => ?_, ih hrest⟩
          obtain ⟨other, hput, heq⟩ := List.mem_map.mp hmem
          rcases mem_putEntry hput with rfl | hold
          · exact hother heq.symm
          · exact hfirst (List.mem_map.mpr ⟨other, hold, heq⟩)

theorem SetUp.bound (h : SetUp r) : r.Bound := by
  have hnames : (r.entries.map (·.field.name)).Nodup ∧ r.tickets = [] := by
    induction h with
    | empty => exact ⟨List.nodup_nil, rfl⟩
    | added _ hadd ih =>
        obtain ⟨-, -, hnext⟩ := addField_eq_ok hadd
        rw [hnext]
        exact ⟨nodup_names_putEntry ih.1, ih.2⟩
  refine ⟨hnames.1, fun t ht => ?_⟩
  rw [hnames.2] at ht
  cases ht

/-! ## One operation -/

theorem Bound.afterWrite {entry : Entry} (hentry : entry ∈ r.entries)
    (written : Option (Entry × Binary64)) :
    ∃ other ∈ r.afterWrite written,
      other.serial = entry.serial ∧ other.field.name = entry.field.name := by
  cases written with
  | some written =>
      obtain ⟨target, x⟩ := written
      exact ⟨_, List.mem_map_of_mem hentry, Entry.serial_assigned _ _ _,
        Entry.name_assigned _ _ _⟩
  | none => exact ⟨entry, hentry, rfl, rfl⟩

theorem Bound.apply (h : r.Bound) (hproper : r.Proper) (horderly : r.Orderly) (op : Operation) :
    (r.apply op).Bound := by
  have hentries := entries_apply hproper op
  refine ⟨?_, fun t ht => ?_⟩
  · rw [names_apply hproper op]
    exact h.names
  · have hfield : ∃ entry ∈ r.entries, entry.serial = t.serial ∧
        entry.field.name = t.fieldName := by
      rw [apply_eq_take horderly] at ht
      cases (turn_take hproper horderly _).present horderly ht with
      | kept registered => exact h.fields t registered
      | @pressed _ _ old _ _ registered => exact h.fields old registered
      | opened field => exact ⟨_, (entry?_eq_ok field).1, rfl, rfl⟩
    obtain ⟨entry, hentry, hserial, hname⟩ := hfield
    obtain ⟨other, hother, hsame⟩ := Bound.afterWrite hentry (r.write? op)
    rw [hentries]
    exact ⟨other, hother, hsame.1.trans hserial, hsame.2.trans hname⟩

theorem SetUp.bound_run (h : SetUp r) (ops : List Operation) : (r.run ops).Bound := by
  induction ops using List.reverseRecOn with
  | nil => exact h.bound
  | append_singleton front op ih =>
      rw [run_concat]
      exact ih.apply (proper_run h.proper front) (h.inUse.run front).orderly op

/-! ## Values after a write -/

theorem Bound.eq_of_name (h : r.Bound) {entry other : Entry} (hentry : entry ∈ r.entries)
    (hother : other ∈ r.entries) (heq : other.field.name = entry.field.name) : other = entry :=
  List.inj_on_of_nodup_map h.names hother hentry heq

theorem find?_name (h : r.Bound) {entry : Entry} (hentry : entry ∈ r.entries) :
    r.entries.find? (·.field.name == entry.field.name) = some entry := by
  cases hfind : r.entries.find? (·.field.name == entry.field.name) with
  | some found =>
      have hname : found.field.name = entry.field.name := by simpa using List.find?_some hfind
      rw [h.eq_of_name hentry (List.mem_of_find?_eq_some hfind) hname]
  | none =>
      have hno := List.find?_eq_none.mp hfind entry hentry
      simp at hno

/-- A write is seen under the name of the field that was written. -/
theorem valueOf?_written (h : r.Bound) (hproper : r.Proper) {entry : Entry}
    (hentry : entry ∈ r.entries) (x : Binary64) (name : String) :
    valueOf? { r with entries := r.afterWrite (some (entry, x)) } name =
      if name = entry.field.name then some x else r.valueOf? name := by
  have hname : ((fun e : Entry => e.field.name == name) ∘
      fun e : Entry => e.assigned entry.serial x) = fun e : Entry => e.field.name == name := by
    funext e
    simp only [Function.comp_apply, Entry.name_assigned]
  rw [valueOf?_eq, valueOf?_eq]
  simp only [afterWrite, List.find?_map, hname, Option.map_map, Function.comp_def,
    Entry.value_assigned]
  split
  · next heq =>
      rw [heq, find?_name h hentry, Option.map_some, if_pos rfl]
  · next hne =>
      cases hfind : r.entries.find? (·.field.name == name) with
      | none => rfl
      | some found =>
          have hfound : found.field.name = name := by simpa using List.find?_some hfind
          have hserial : found.serial ≠ entry.serial := by
            intro heq
            have hsame := eq_of_serial_eq hproper.serials hentry
              (List.mem_of_find?_eq_some hfind) heq
            exact hne (hfound ▸ hsame ▸ rfl)
          rw [Option.map_some, Option.map_some, if_neg hserial]

/-! ## Setting a field -/

/-- The registry with the field of an entry set. -/
def put (r : Registry) (entry : Entry) (x : Binary64) : Registry :=
  r.writeField entry.serial { entry.field with value := x }

theorem put_eq (hproper : r.Proper) {entry : Entry} (hentry : entry ∈ r.entries) (x : Binary64) :
    r.put entry x = { r with entries := r.afterWrite (some (entry, x)) } := by
  have hput : r.put entry x = { r with entries := (r.put entry x).entries } := rfl
  rw [hput, put, writeField_entries hproper hentry]
  rfl

theorem setField_eq (hproper : r.Proper) {name : String} {entry : Entry}
    (field : r.entry? name = .ok entry) {x : Binary64} (hfinite : x.isFinite = true)
    (hsign : x.isNonneg = true) :
    r.setField name (.float x) =
      .ok (r.put entry x, { entry with field := { entry.field with value := x } }) := by
  have hset := set_eq (hproper.decimal entry (entry?_eq_ok field).1) x
  simp only [setField, Json.toNumber, bind, Except.bind, hfinite, hsign, Bool.and_self, if_true,
    field, hset]
  rfl

theorem valueOf?_put (h : r.Bound) (hproper : r.Proper) {name : String} {entry : Entry}
    (field : r.entry? name = .ok entry) (x : Binary64) (other : String) :
    (r.put entry x).valueOf? other = if other = name then some x else r.valueOf? other := by
  obtain ⟨hmem, rfl⟩ := entry?_eq_ok field
  rw [put_eq hproper hmem, valueOf?_written h hproper hmem]

theorem entry?_put (h : r.Bound) (hproper : r.Proper) {name : String} {entry : Entry}
    (field : r.entry? name = .ok entry) (x : Binary64) :
    Registry.entry? (r.put entry x) name =
      .ok { entry with field := { entry.field with value := x } } := by
  obtain ⟨hmem, rfl⟩ := entry?_eq_ok field
  rw [put_eq hproper hmem, entry?]
  simp only [afterWrite, List.find?_map, Function.comp_def, Entry.name_assigned, find?_name h hmem,
    Option.map_some]
  simp only [Entry.assigned, if_true]

/-- An operation that changes the value under a name is one that writes the field of that name. -/
theorem write?_of_valueOf?_ne (h : r.Bound) (hproper : r.Proper) {op : Operation} {name : String}
    (hchange : (r.apply op).valueOf? name ≠ r.valueOf? name) :
    ∃ entry x, r.write? op = some (entry, x) ∧ entry.field.name = name := by
  have hentries := entries_apply hproper op
  rw [valueOf?_eq, hentries] at hchange
  cases hwrite : r.write? op with
  | some written =>
      obtain ⟨entry, x⟩ := written
      have hvalue := valueOf?_written h hproper (writing_of_write? hwrite).mem x name
      rw [valueOf?_eq] at hvalue
      rw [hwrite] at hchange
      by_cases hname : name = entry.field.name
      · exact ⟨entry, x, rfl, hname.symm⟩
      · rw [if_neg hname] at hvalue
        exact absurd hvalue hchange
  | none =>
      rw [hwrite] at hchange
      exact absurd (valueOf?_eq r name).symm hchange

/-- The field of a registered session is found by its serial number. -/
theorem Bound.exists_field (h : r.Bound) (hproper : r.Proper) {t : Ticket} (ht : t ∈ r.tickets) :
    ∃ entry ∈ r.entries, r.entries.find? (·.serial == t.serial) = some entry ∧
      entry.field.name = t.fieldName := by
  obtain ⟨entry, hentry, hserial, hname⟩ := h.fields t ht
  refine ⟨entry, hentry, ?_, hname⟩
  cases hfind : r.entries.find? (·.serial == t.serial) with
  | some found =>
      have hsame : found.serial = t.serial := by simpa using List.find?_some hfind
      rw [eq_of_serial_eq hproper.serials hentry (List.mem_of_find?_eq_some hfind)
        (hsame.trans hserial.symm)]
  | none =>
      have hno := List.find?_eq_none.mp hfind entry hentry
      simp [hserial] at hno

/-- What a registered session commits is the value of its field then. -/
theorem finish_lands (h : r.Bound) (hproper : r.Proper) (horderly : r.Orderly) {t : Ticket}
    (ht : t ∈ r.tickets) :
    ∃ next, r.finish t.id = .ok (next, t.finished) ∧
      next.valueOf? t.fieldName = some t.session.resultValue := by
  refine ⟨_, finish_registered hproper horderly ht, ?_⟩
  obtain ⟨entry, hentry, hfind, hname⟩ := h.exists_field hproper ht
  have hwrite : r.write? (.finish t.id) = some (entry, t.session.resultValue) := by
    rw [write?_finish horderly ht, hfind]
    rfl
  have hvalue := valueOf?_written h hproper hentry t.session.resultValue t.fieldName
  rw [if_pos hname.symm] at hvalue
  rw [hwrite]
  exact hvalue

end FieldCalc.Registry
