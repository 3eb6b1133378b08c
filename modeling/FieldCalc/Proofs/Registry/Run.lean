import FieldCalc.Registry
import Mathlib.Data.List.Nodup

/-!
# Runs of a host

A host sets its fields up and then carries out operations, one after the other. An operation that
fails leaves the state in which it failed, and the next one goes on from there. Fields are written
by three operations only, and what each writes is found here without carrying it out.
-/

namespace FieldCalc

namespace Entry

/-- The entry after the field with a serial number was given a value. -/
def assigned (entry : Entry) (serial : Nat) (x : Binary64) : Entry :=
  if entry.serial = serial then { entry with field := { entry.field with value := x } } else entry

variable (entry : Entry) (serial : Nat) (x : Binary64)

@[simp] theorem serial_assigned : (entry.assigned serial x).serial = entry.serial := by
  unfold assigned
  split <;> rfl

@[simp] theorem name_assigned : (entry.assigned serial x).field.name = entry.field.name := by
  unfold assigned
  split <;> rfl

@[simp] theorem whole_assigned : (entry.assigned serial x).field.whole = entry.field.whole := by
  unfold assigned
  split <;> rfl

theorem value_assigned : (entry.assigned serial x).field.value =
    if entry.serial = serial then x else entry.field.value := by
  unfold assigned
  split <;> rfl

end Entry

namespace Registry

inductive Operation where
  | setField (name : String) (value : Json)
  | submitText (name : String) (text : Text)
  | openSession (name : String) (places : Option Int)
  | press (id : String) (keys : List LooseText)
  | finish (id : String)
  | cancel (id : String)
  | expire
  | setClock (now : Int)

/-- The registry that an operation leaves if it may fail; on failure it is the one before. -/
def settled {α : Type} (r : Registry) : Except Fault (Registry × α) → Registry
  | .ok (next, _) => next
  | .error _ => r

def apply (r : Registry) : Operation → Registry
  | .setField name value => r.settled (r.setField name value)
  | .submitText name text => r.settled (r.submitText name text)
  | .openSession name places => (r.openSession name places).1
  | .press id keys => (r.press id keys).1
  | .finish id => r.settled (r.finish id)
  | .cancel id => r.settled (r.cancel id)
  | .expire => r.expire
  | .setClock now => r.setClock now

def run (r : Registry) (ops : List Operation) : Registry := ops.foldl apply r

@[simp] theorem run_nil (r : Registry) : r.run [] = r := rfl

@[simp] theorem run_cons (r : Registry) (op : Operation) (ops : List Operation) :
    r.run (op :: ops) = (r.apply op).run ops := rfl

theorem run_append (r : Registry) (front back : List Operation) :
    r.run (front ++ back) = (r.run front).run back :=
  List.foldl_append

theorem run_concat (r : Registry) (ops : List Operation) (op : Operation) :
    r.run (ops ++ [op]) = (r.run ops).apply op :=
  run_append r ops [op]

/-- A registry as a host sets it up. -/
inductive SetUp : Registry → Prop where
  | empty (idleSeconds capacity : Int) : SetUp (.empty idleSeconds capacity)
  | added {r : Registry} {name : String} {label : Option String} {places : Int} {value : Json}
      {next : Registry × Entry} (before : SetUp r)
      (added : r.addField name label places value = .ok next) : SetUp next.1

/-! ## What is written -/

/-- The field that an operation writes, if it writes one, and the value. -/
def write? (r : Registry) : Operation → Option (Entry × Binary64)
  | .setField name value =>
      match value.toNumber, r.entry? name with
      | .ok x, .ok entry => if x.isFinite && x.isNonneg then some (entry, x) else none
      | _, _ => none
  | .submitText name text =>
      match r.entry? name with
      | .ok entry => (Field.typedValue? text).map (entry, ·)
      | .error _ => none
  | .finish id =>
      match r.ticket? id with
      | .ok t =>
          if t.session.isOpen then
            (r.entries.find? (·.serial == t.serial)).map (·, t.session.resultValue)
          else none
      | .error _ => none
  | _ => none

/-- The three ways to write a field, each with what it met. -/
inductive Writing (r : Registry) : Operation → Entry → Binary64 → Prop where
  | set {name : String} {value : Json} {entry : Entry} {x : Binary64}
      (number : value.toNumber = .ok x) (field : r.entry? name = .ok entry)
      (valid : (x.isFinite && x.isNonneg) = true) : Writing r (.setField name value) entry x
  | typed {name : String} {text : Text} {entry : Entry} {x : Binary64}
      (field : r.entry? name = .ok entry) (typed : Field.typedValue? text = some x) :
      Writing r (.submitText name text) entry x
  | finished {id : String} {t : Ticket} {entry : Entry} (registered : r.ticket? id = .ok t)
      (isOpen : t.session.isOpen = true)
      (field : r.entries.find? (·.serial == t.serial) = some entry) :
      Writing r (.finish id) entry t.session.resultValue

theorem writing_of_write? {r : Registry} {op : Operation} {entry : Entry} {x : Binary64}
    (h : r.write? op = some (entry, x)) : Writing r op entry x := by
  cases op with
  | setField name value =>
      simp only [write?] at h
      split at h
      · next number field =>
          split at h
          · next valid =>
              cases h
              exact .set number field valid
          · cases h
      · cases h
  | submitText name text =>
      simp only [write?] at h
      split at h
      · next field =>
          obtain ⟨y, typed, heq⟩ := Option.map_eq_some_iff.mp h
          cases heq
          exact .typed field typed
      · cases h
  | finish id =>
      simp only [write?] at h
      split at h
      · next registered =>
          split at h
          · next isOpen =>
              obtain ⟨other, field, heq⟩ := Option.map_eq_some_iff.mp h
              cases heq
              exact .finished registered isOpen field
          · cases h
      · cases h
  | openSession | press | cancel | expire | setClock => cases h

/-- The fields after what may have been a write. -/
def afterWrite (r : Registry) : Option (Entry × Binary64) → List Entry
  | some (entry, x) => r.entries.map (·.assigned entry.serial x)
  | none => r.entries

theorem names_afterWrite (r : Registry) (written : Option (Entry × Binary64)) :
    (r.afterWrite written).map (·.field.name) = r.entries.map (·.field.name) := by
  cases written with
  | some written =>
      rw [afterWrite, List.map_map]
      simp only [Function.comp_def, Entry.name_assigned]
  | none => rfl

theorem serials_afterWrite (r : Registry) (written : Option (Entry × Binary64)) :
    (r.afterWrite written).map (·.serial) = r.entries.map (·.serial) := by
  cases written with
  | some written =>
      rw [afterWrite, List.map_map]
      simp only [Function.comp_def, Entry.serial_assigned]
  | none => rfl

theorem decimal_afterWrite {r : Registry} (h : ∀ entry ∈ r.entries, entry.field.whole = false)
    (written : Option (Entry × Binary64)) :
    ∀ entry ∈ r.afterWrite written, entry.field.whole = false := by
  cases written with
  | some written =>
      intro entry hentry
      obtain ⟨old, hold, rfl⟩ := List.mem_map.mp hentry
      rw [Entry.whole_assigned]
      exact h old hold
  | none => exact h

/-! ## Well-formed registries -/

/-- What setting up ensures of the fields and no operation changes. -/
structure Proper (r : Registry) : Prop where
  serials : (r.entries.map (·.serial)).Nodup
  /-- No field of a host is for whole numbers only. -/
  decimal : ∀ entry ∈ r.entries, entry.field.whole = false

theorem Proper.setClock {r : Registry} (h : r.Proper) (now : Int) : (r.setClock now).Proper :=
  ⟨h.serials, h.decimal⟩

theorem eq_of_serial_eq {entries : List Entry} (h : (entries.map (·.serial)).Nodup)
    {entry other : Entry} (hentry : entry ∈ entries) (hother : other ∈ entries)
    (heq : other.serial = entry.serial) : other = entry :=
  List.inj_on_of_nodup_map h hother hentry heq

theorem entry?_eq_ok {r : Registry} {name : String} {entry : Entry}
    (h : r.entry? name = .ok entry) : entry ∈ r.entries ∧ entry.field.name = name := by
  unfold entry? at h
  split at h
  · next found hfound =>
      cases h
      exact ⟨List.mem_of_find?_eq_some hfound, by simpa using List.find?_some hfound⟩
  · cases h

theorem Writing.mem {r : Registry} {op : Operation} {entry : Entry} {x : Binary64}
    (h : Writing r op entry x) : entry ∈ r.entries := by
  cases h with
  | set _ field => exact (entry?_eq_ok field).1
  | typed field => exact (entry?_eq_ok field).1
  | finished _ _ field => exact List.mem_of_find?_eq_some field

theorem writeField_entries {r : Registry} (h : r.Proper) {entry : Entry}
    (hentry : entry ∈ r.entries) (x : Binary64) :
    (r.writeField entry.serial { entry.field with value := x }).entries =
      r.entries.map (·.assigned entry.serial x) := by
  refine List.map_congr_left fun other hother => ?_
  unfold Entry.assigned
  split
  · next heq => rw [eq_of_serial_eq h.serials hentry hother heq]
  · rfl

theorem writeField_own {r : Registry} (h : r.Proper) {entry : Entry}
    (hentry : entry ∈ r.entries) :
    (r.writeField entry.serial entry.field).entries = r.entries := by
  refine (List.map_congr_left fun other hother => ?_).trans r.entries.map_id
  split
  · next heq => rw [eq_of_serial_eq h.serials hentry hother heq]; rfl
  · rfl

theorem set_eq {f : Field} (h : f.whole = false) (x : Binary64) :
    f.set x = .ok { f with value := x } := by
  simp [Field.set, h]

/-! ## Sessions leave the fields alone -/

theorem entries_expire (r : Registry) : r.expire.entries = r.entries := by
  unfold expire
  generalize r.idleTickets = idle
  induction idle generalizing r with
  | nil => rfl
  | cons t rest ih => exact ih (r.depart t.abandoned)

theorem entries_makeRoom (count : Nat) (r : Registry) :
    (makeRoom count r).entries = r.entries := by
  induction count generalizing r with
  | zero => rfl
  | succ count ih =>
      unfold makeRoom
      split
      · rfl
      · split
        · exact ih _
        · rfl

theorem entries_openSession (r : Registry) (name : String) (places : Option Int) :
    (r.openSession name places).1.entries = r.entries := by
  have hroomy := (entries_makeRoom r.expire.tickets.length r.expire).trans (entries_expire r)
  unfold openSession
  split
  · rfl
  · simp only
    split
    · exact hroomy
    · exact hroomy

theorem entries_press (r : Registry) (id : String) (keys : List LooseText) :
    (r.press id keys).1.entries = r.entries := by
  unfold press
  split
  · rfl
  · split <;> rfl

theorem entries_cancel (r : Registry) (id : String) :
    (r.settled (r.cancel id)).entries = r.entries := by
  unfold cancel
  cases r.ticket? id with
  | error fault => rfl
  | ok t =>
      simp only [bind, Except.bind]
      cases t.session.cancel <;> rfl

/-! ## One operation -/

theorem entries_setField {r : Registry} (h : r.Proper) (name : String) (value : Json) :
    (r.settled (r.setField name value)).entries =
      r.afterWrite (r.write? (.setField name value)) := by
  simp only [setField, write?, bind, Except.bind]
  cases value.toNumber with
  | error fault => rfl
  | ok x =>
      cases hentry : r.entry? name with
      | error fault =>
          simp only
          split <;> rfl
      | ok entry =>
          have hmem := (entry?_eq_ok hentry).1
          simp only [set_eq (h.decimal entry hmem)]
          split
          · exact writeField_entries h hmem x
          · rfl

theorem entries_submitText {r : Registry} (h : r.Proper) (name : String) (text : Text) :
    (r.settled (r.submitText name text)).entries =
      r.afterWrite (r.write? (.submitText name text)) := by
  simp only [submitText, write?, bind, Except.bind, Field.submit]
  cases hentry : r.entry? name with
  | error fault => rfl
  | ok entry =>
      have hmem := (entry?_eq_ok hentry).1
      cases Field.typedValue? text with
      | none => exact writeField_own h hmem
      | some x =>
          simp only [set_eq (h.decimal entry hmem)]
          exact writeField_entries h hmem x

theorem entries_finish {r : Registry} (h : r.Proper) (id : String) :
    (r.settled (r.finish id)).entries = r.afterWrite (r.write? (.finish id)) := by
  simp only [finish, write?, bind, Except.bind, Session.commit]
  cases r.ticket? id with
  | error fault => rfl
  | ok t =>
      by_cases hopen : t.session.isOpen = true
      · simp only [hopen, if_true]
        cases hentry : r.entries.find? (·.serial == t.serial) with
        | none => rfl
        | some entry =>
            have hmem := List.mem_of_find?_eq_some hentry
            have hserial : entry.serial = t.serial := by simpa using List.find?_some hentry
            simp only [set_eq (h.decimal entry hmem), ← hserial]
            exact writeField_entries h hmem t.session.resultValue
      · simp only [hopen]
        rfl

theorem entries_apply {r : Registry} (h : r.Proper) (op : Operation) :
    (r.apply op).entries = r.afterWrite (r.write? op) := by
  cases op with
  | setField name value => exact entries_setField h name value
  | submitText name text => exact entries_submitText h name text
  | openSession name places => exact entries_openSession r name places
  | press id keys => exact entries_press r id keys
  | finish id => exact entries_finish h id
  | cancel id => exact entries_cancel r id
  | expire => exact entries_expire r
  | setClock now => rfl

theorem proper_apply {r : Registry} (h : r.Proper) (op : Operation) : (r.apply op).Proper := by
  have hentries := entries_apply h op
  constructor
  · rw [hentries, serials_afterWrite]
    exact h.serials
  · rw [hentries]
    exact decimal_afterWrite h.decimal _

theorem names_apply {r : Registry} (h : r.Proper) (op : Operation) :
    (r.apply op).entries.map (·.field.name) = r.entries.map (·.field.name) := by
  rw [entries_apply h op, names_afterWrite]

theorem proper_run {r : Registry} (h : r.Proper) (ops : List Operation) : (r.run ops).Proper := by
  induction ops generalizing r with
  | nil => exact h
  | cons op rest ih => exact ih (proper_apply h op)

theorem names_run {r : Registry} (h : r.Proper) (ops : List Operation) :
    (r.run ops).entries.map (·.field.name) = r.entries.map (·.field.name) := by
  induction ops generalizing r with
  | nil => rfl
  | cons op rest ih => exact (ih (proper_apply h op)).trans (names_apply h op)

/-! ## Setting up -/

theorem mem_putEntry {entry other : Entry} {entries : List Entry}
    (h : other ∈ putEntry entry entries) : other = entry ∨ other ∈ entries := by
  induction entries with
  | nil => exact .inl (List.mem_singleton.mp h)
  | cons first rest ih =>
      unfold putEntry at h
      split at h
      · rcases List.mem_cons.mp h with rfl | h
        · exact .inl rfl
        · exact .inr (List.mem_cons_of_mem first h)
      · rcases List.mem_cons.mp h with rfl | h
        · exact .inr List.mem_cons_self
        · exact (ih h).imp_right (List.mem_cons_of_mem first)

theorem nodup_putEntry {entry : Entry} {entries : List Entry}
    (h : (entries.map (·.serial)).Nodup) (hnew : ∀ other ∈ entries, other.serial ≠ entry.serial) :
    ((putEntry entry entries).map (·.serial)).Nodup := by
  induction entries with
  | nil => exact List.nodup_singleton entry.serial
  | cons first rest ih =>
      obtain ⟨hfirst, hrest⟩ := List.nodup_cons.mp h
      have hnewRest : ∀ other ∈ rest, other.serial ≠ entry.serial :=
        fun other hother => hnew other (List.mem_cons_of_mem first hother)
      unfold putEntry
      split
      · refine List.nodup_cons.mpr ⟨fun hmem => ?_, hrest⟩
        obtain ⟨other, hother, heq⟩ := List.mem_map.mp hmem
        exact hnewRest other hother heq
      · refine List.nodup_cons.mpr ⟨fun hmem => ?_, ih hrest hnewRest⟩
        obtain ⟨other, hother, heq⟩ := List.mem_map.mp hmem
        rcases mem_putEntry hother with rfl | hother
        · exact hnew first List.mem_cons_self heq.symm
        · exact hfirst (List.mem_map.mpr ⟨other, hother, heq⟩)

theorem make_decimal {name : String} {value : Json} {places : Int} {f : Field}
    (h : Field.make name value places false = .ok f) : f.whole = false := by
  simp only [Field.make, bind, Except.bind] at h
  split at h
  · cases h
  · split at h
    · cases h
    · cases h
      rfl

theorem addField_eq_ok {r : Registry} {name : String} {label : Option String} {places : Int}
    {value : Json} {next : Registry × Entry} (h : r.addField name label places value = .ok next) :
    next.2.serial = r.registered ∧ next.2.field.whole = false ∧
      next.1 = { r with entries := putEntry next.2 r.entries, registered := r.registered + 1 } := by
  simp only [addField, bind, Except.bind] at h
  split at h
  · cases h
  · next f hfield =>
      cases h
      exact ⟨rfl, make_decimal hfield, rfl⟩

/-- A proper registry that gave out the serial numbers of all its fields. -/
structure Issued (r : Registry) : Prop extends r.Proper where
  serial_lt : ∀ entry ∈ r.entries, entry.serial < r.registered

theorem Issued.added {r : Registry} (h : r.Issued) {name : String} {label : Option String}
    {places : Int} {value : Json} {next : Registry × Entry}
    (hadd : r.addField name label places value = .ok next) : next.1.Issued := by
  obtain ⟨hserial, hdecimal, hnext⟩ := addField_eq_ok hadd
  rw [hnext]
  refine ⟨⟨?_, ?_⟩, ?_⟩
  · refine nodup_putEntry h.serials fun other hother => ?_
    rw [hserial]
    exact Nat.ne_of_lt (h.serial_lt other hother)
  · intro other hother
    rcases mem_putEntry hother with rfl | hother
    · exact hdecimal
    · exact h.decimal other hother
  · intro other hother
    rcases mem_putEntry hother with rfl | hother
    · rw [hserial]
      exact Nat.lt_succ_self _
    · exact Nat.lt_succ_of_lt (h.serial_lt other hother)

theorem issued_empty (idleSeconds capacity : Int) : (empty idleSeconds capacity).Issued := by
  refine ⟨⟨List.nodup_nil, ?_⟩, ?_⟩
  · rintro entry ⟨⟩
  · rintro entry ⟨⟩

/-- Serial numbers are given out in order, so no two fields share one. -/
theorem SetUp.issued {r : Registry} (h : SetUp r) : r.Issued := by
  induction h with
  | empty => exact issued_empty _ _
  | added _ hadd ih => exact ih.added hadd

theorem SetUp.proper {r : Registry} (h : SetUp r) : r.Proper := h.issued.toProper

/-- A host with one field, for amounts in cents. -/
def tipsOnly : Registry := ⟨[⟨"tips", 0, ⟨"tips", 2, false, .zero⟩⟩], 1, [], [], 0, 1800, 100, 0⟩

theorem setUp_tipsOnly : SetUp tipsOnly :=
  .added (.empty 1800 100)
    (show (empty 1800 100).addField "tips" none 2 (.float .zero) = .ok (tipsOnly, _) from rfl)

end Registry

end FieldCalc
