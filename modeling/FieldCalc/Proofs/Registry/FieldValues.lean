import FieldCalc.Proofs.Display.Commit
import FieldCalc.Proofs.Field.TypedValue
import FieldCalc.Proofs.Registry.Run

/-!
# The values of fields

A value that is set directly is checked, and one that a session commits is finite and not
negative. Typed text is checked for its sign only, so a plain number with too many digits takes a
field to infinity. That is the only way in which a field of a host ever stops being finite.
-/

namespace FieldCalc

namespace Registry

def FieldsValid (r : Registry) : Prop :=
  ∀ entry ∈ r.entries, entry.field.value.isFinite = true ∧ entry.field.value.isNonneg = true

/-- An operation that gives a field a plain number beyond all finite ones. -/
def Overflows (r : Registry) (op : Operation) : Prop :=
  ∃ name text, op = .submitText name text ∧ name ∈ r.entries.map (·.field.name) ∧
    Display.plainNumber? (Field.cleaned text) = some (.infinite false)

theorem resultValue_valid (s : Session) :
    s.resultValue.isFinite = true ∧ s.resultValue.isNonneg = true := by
  unfold Session.resultValue
  split
  · exact Display.commit_valid _ _
  · exact ⟨rfl, rfl⟩

/-- What is written is never negative, and finite unless typed text overflows. -/
theorem write?_cases {r : Registry} {op : Operation} {entry : Entry} {x : Binary64}
    (h : r.write? op = some (entry, x)) :
    x.isNonneg = true ∧ (x.isFinite = true ∨ r.Overflows op) := by
  cases writing_of_write? h with
  | set _ _ valid =>
      rw [Bool.and_eq_true] at valid
      exact ⟨valid.2, .inl valid.1⟩
  | typed field typed =>
      obtain ⟨hmem, hname⟩ := entry?_eq_ok field
      obtain ⟨hnonneg, hfinite | hplain⟩ := Field.typedValue?_cases typed
      · exact ⟨hnonneg, .inl hfinite⟩
      · exact ⟨hnonneg, .inr ⟨_, _, rfl, List.mem_map.mpr ⟨entry, hmem, hname⟩, hplain⟩⟩
  | @finished _ t =>
      obtain ⟨hfinite, hnonneg⟩ := resultValue_valid t.session
      exact ⟨hnonneg, .inl hfinite⟩

theorem value_apply {r : Registry} (h : r.Proper) (op : Operation) {entry : Entry}
    (hentry : entry ∈ (r.apply op).entries) :
    (∃ old ∈ r.entries, entry.field.value = old.field.value) ∨
      ∃ written, r.write? op = some (written, entry.field.value) := by
  rw [entries_apply h op] at hentry
  cases hwrite : r.write? op with
  | some write =>
      obtain ⟨written, x⟩ := write
      rw [hwrite] at hentry
      obtain ⟨old, hold, rfl⟩ := List.mem_map.mp hentry
      rw [Entry.value_assigned]
      split
      · exact .inr ⟨written, rfl⟩
      · exact .inl ⟨old, hold, rfl⟩
  | none =>
      rw [hwrite] at hentry
      exact .inl ⟨entry, hentry, rfl⟩

theorem nonneg_apply {r : Registry} (h : r.Proper)
    (hr : ∀ entry ∈ r.entries, entry.field.value.isNonneg = true) (op : Operation) :
    ∀ entry ∈ (r.apply op).entries, entry.field.value.isNonneg = true := by
  intro entry hentry
  rcases value_apply h op hentry with ⟨old, hold, heq⟩ | ⟨written, hwrite⟩
  · rw [heq]
    exact hr old hold
  · exact (write?_cases hwrite).1

theorem fieldsValid_apply {r : Registry} (h : r.Proper) (hr : r.FieldsValid) {op : Operation}
    (hop : ¬ r.Overflows op) : (r.apply op).FieldsValid := by
  intro entry hentry
  rcases value_apply h op hentry with ⟨old, hold, heq⟩ | ⟨written, hwrite⟩
  · rw [heq]
    exact hr old hold
  · obtain ⟨hnonneg, hfinite | hoverflows⟩ := write?_cases hwrite
    · exact ⟨hfinite, hnonneg⟩
    · exact absurd hoverflows hop

theorem entry?_of_name {r : Registry} {name : String}
    (h : name ∈ r.entries.map (·.field.name)) : ∃ entry, r.entry? name = .ok entry := by
  obtain ⟨entry, hentry, hname⟩ := List.mem_map.mp h
  unfold entry?
  split
  · next found _ => exact ⟨found, rfl⟩
  · next hnone =>
      have hno := List.find?_eq_none.mp hnone entry hentry
      simp [hname] at hno

theorem not_fieldsValid_apply {r : Registry} (h : r.Proper) {op : Operation}
    (hop : r.Overflows op) : ¬ (r.apply op).FieldsValid := by
  obtain ⟨name, text, rfl, hname, hplain⟩ := hop
  obtain ⟨entry, hentry⟩ := entry?_of_name hname
  have hwrite : r.write? (.submitText name text) = some (entry, .infinite false) := by
    simp only [write?, hentry, Field.typedValue?_of_infinite hplain]
    rfl
  have hmem : entry.assigned entry.serial (.infinite false) ∈
      (r.apply (.submitText name text)).entries := by
    rw [entries_apply h, hwrite]
    exact List.mem_map_of_mem (entry?_eq_ok hentry).1
  intro hvalid
  have hfinite := (hvalid _ hmem).1
  rw [Entry.value_assigned, if_pos rfl] at hfinite
  cases hfinite

/-! ## Runs -/

theorem nonneg_run {r : Registry} (h : r.Proper)
    (hr : ∀ entry ∈ r.entries, entry.field.value.isNonneg = true) (ops : List Operation) :
    ∀ entry ∈ (r.run ops).entries, entry.field.value.isNonneg = true := by
  induction ops generalizing r with
  | nil => exact hr
  | cons op rest ih => exact ih (proper_apply h op) (nonneg_apply h hr op)

theorem overflows_run {r : Registry} (h : r.Proper) (ops : List Operation) (op : Operation) :
    (r.run ops).Overflows op ↔ r.Overflows op := by
  simp only [Overflows, names_run h ops]

theorem fieldsValid_run {r : Registry} (h : r.Proper) (hr : r.FieldsValid) {ops : List Operation}
    (hops : ∀ op ∈ ops, ¬ r.Overflows op) : (r.run ops).FieldsValid := by
  induction ops using List.reverseRecOn with
  | nil => exact hr
  | append_singleton front op ih =>
      rw [run_concat]
      refine fieldsValid_apply (proper_run h front) (ih fun o ho => hops o ?_) ?_
      · exact List.mem_append_left _ ho
      · rw [overflows_run h]
        exact hops op List.mem_concat_self

/-- Whatever a host does, no field is ever negative, and all of them stay finite just if no field
is given a plain number beyond all finite ones. -/
theorem fieldsValid_run_iff {r : Registry} (hsetup : SetUp r) (hstart : r.FieldsValid)
    (ops : List Operation) :
    (∀ entry ∈ (r.run ops).entries, entry.field.value.isNonneg = true) ∧
      ((∀ front, front <+: ops → (r.run front).FieldsValid) ↔ ∀ op ∈ ops, ¬ r.Overflows op) := by
  have hproper := hsetup.proper
  refine ⟨nonneg_run hproper (fun entry hentry => (hstart entry hentry).2) ops, ?_, ?_⟩
  · -- The prefix that ends with an operation that overflows is broken.
    intro hvalid op hop hoverflows
    obtain ⟨front, back, rfl⟩ := List.append_of_mem hop
    have hbroken := not_fieldsValid_apply (proper_run hproper front)
      ((overflows_run hproper front op).mpr hoverflows)
    rw [← run_concat] at hbroken
    exact hbroken (hvalid _ ⟨back, by simp⟩)
  · intro hops front hfront
    exact fieldsValid_run hproper hstart fun op hop => hops op (hfront.subset hop)

/-- Four hundred nines are typed into the only field. -/
theorem fieldsValid_run_four_hundred_nines :
    ∃ r, SetUp r ∧ r.FieldsValid ∧
      ¬ ∀ front, front <+: [.submitText "tips" (List.replicate 400 '9')] →
        (r.run front).FieldsValid := by
  let r : Registry := ⟨[⟨"tips", 0, ⟨"tips", 2, false, .zero⟩⟩], 1, [], [], 0, 1800, 100, 0⟩
  have setup : SetUp r :=
    .added (.empty 1800 100)
      (show (empty 1800 100).addField "tips" none 2 (.float .zero) = .ok (_, _) from rfl)
  have start : r.FieldsValid := by
    intro entry hentry
    rw [List.mem_singleton.mp hentry]
    exact ⟨rfl, rfl⟩
  refine ⟨r, setup, start, fun hvalid => ?_⟩
  have harmless := (fieldsValid_run_iff setup start _).2.mp hvalid _ (List.mem_singleton_self _)
  refine harmless ⟨"tips", List.replicate 400 '9', rfl, List.mem_singleton_self _, ?_⟩
  decide +kernel

end Registry

end FieldCalc
