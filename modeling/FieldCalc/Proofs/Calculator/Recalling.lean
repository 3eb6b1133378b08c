import FieldCalc.Proofs.Buffer.Recalling
import FieldCalc.Proofs.Calculator.Typing
import FieldCalc.Proofs.Display.Nearest

/-!
# Recalling the memory

The memory is recalled as the keys of its display text would type it. Only a sign makes a
difference: where a number may start, it stays with the number, which no key but the sign key can
do.
-/

namespace FieldCalc

/-! ## Keys of a text -/

def Text.keys (t : Text) : List LooseText := t.map fun c => .ofString (String.ofList [c])

theorem Action.ofKeys_of_labels {t : Text} {actions : List Action}
    (h : actions.map Action.label = t.map fun c => String.ofList [c]) :
    Action.ofKeys t.keys = .ok actions := by
  have hkeys : t.keys = actions.map fun action => .ofString action.label := by
    have hstrings := congrArg (List.map LooseText.ofString) h
    rw [List.map_map, List.map_map] at hstrings
    exact hstrings.symm
  rw [hkeys]
  exact Action.ofKeys_labels actions

theorem Action.label_ofNumberChar {c : Char} (h : isAsciiDigit c = true ∨ c = '.') :
    (Action.ofNumberChar c).label = String.ofList [c] := by
  rcases h with hdigit | rfl
  · obtain ⟨d, hkey, htext⟩ := Action.ofNumberChar_digit hdigit
    rw [hkey, Action.label, htext]
  · rfl

theorem Action.labels_unsigned {t : Text} (h : IsUnsigned t) :
    (t.map Action.ofNumberChar).map Action.label = t.map fun c => String.ofList [c] := by
  rw [List.map_map]
  exact List.map_congr_left fun c hc => Action.label_ofNumberChar (h.digit_or_point c hc)

namespace Calculator

variable {c : Calculator}

/-- The text that the memory is recalled as. -/
def Recalls (c : Calculator) (t : Text) : Prop :=
  c.memory.value.isFinite = true ∧ Display.format c.places c.memory.value = .ok t

/-- How the memory is recalled: without a sign, as its keys would type it; with one, as a number
of its own where a number may start, and elsewhere as its keys would subtract it. -/
structure RecallsTyping (c : Calculator) : Prop where
  unsigned : ∀ t, c.Recalls t → t.head? ≠ some '-' → ∃ actions next,
    Action.ofKeys t.keys = .ok actions ∧ (c.press .memoryRecall).Silent next ∧
      (c.pressAll actions).Silent next
  onZero : ∀ t, c.Recalls t → t.head? = some '-' → c.buffer.tokens = [Token.zero] → ∃ next,
    (c.press .memoryRecall).Silent next ∧ next.buffer.tokens = [.number t]
  starting : ∀ t, c.Recalls t → t.head? = some '-' → c.buffer.last.dangles = true → ∃ next,
    (c.press .memoryRecall).Silent next ∧ next.buffer.tokens = c.buffer.tokens ++ [.number t]
  following : ∀ t, c.Recalls t → t.head? = some '-' → c.buffer.tokens ≠ [Token.zero] →
    c.buffer.last.dangles = false → ∃ actions next typed,
      Action.ofKeys t.keys = .ok actions ∧ (c.press .memoryRecall).Silent next ∧
        (c.pressAll actions).Silent typed ∧ next.buffer.tokens = typed.buffer.tokens ∧
          next.buffer.waiting = typed.buffer.waiting
  notFinite : c.memory.value.isFinite = false → (c.press .memoryRecall).Silent c
  shown : c.memory.value.isFinite = true → c.places ≤ Display.maxShownPlaces → ∃ t, c.Recalls t

theorem silent_memoryRecall (ready : c.buffer.error = false) {t : Text} (h : c.Recalls t) :
    (c.press .memoryRecall).Silent (c.edit (·.typeRecalled t)) :=
  silent_press (.inl ready) (by rw [perform, memoryRecall, if_pos h.1, h.2])

theorem Recalls.exists_decimal {t : Text} (h : c.Recalls t) :
    ∃ d : CanonicalDecimal, t = d.text := by
  obtain ⟨hfinite, hformat⟩ := h
  obtain ⟨negative, units, hunits, hvalue⟩ := Binary64.exists_eq_finite hfinite
  rw [hvalue] at hformat
  have hplaces := (Display.format_finite_eq_ok_iff.mp hformat).1
  rw [Display.format_finite hplaces] at hformat
  exact ⟨_, (Except.ok.inj hformat).symm⟩

theorem Recalls.unsigned {t : Text} (h : c.Recalls t) (hhead : t.head? ≠ some '-') :
    ∃ d : CanonicalDecimal, t = d.unsignedText := by
  obtain ⟨d, rfl⟩ := h.exists_decimal
  refine ⟨d, ?_⟩
  unfold CanonicalDecimal.text at hhead ⊢
  split at hhead
  · exact absurd rfl hhead
  · next hsign => rw [if_neg hsign]

theorem Recalls.negative {t : Text} (h : c.Recalls t) (hhead : t.head? = some '-') :
    ∃ u, t = '-' :: u ∧ IsUnsigned u := by
  obtain ⟨d, rfl⟩ := h.exists_decimal
  unfold CanonicalDecimal.text at hhead ⊢
  split at hhead
  · next hsign => exact ⟨_, if_pos hsign, d.isUnsigned_unsignedText⟩
  · obtain ⟨rest, htext⟩ := List.head?_eq_some_iff.mp hhead
    exact absurd htext (d.isUnsigned_unsignedText.ne_minus_cons rest)

/-- On any display but an error, the memory is recalled as it would be typed, signs aside. -/
theorem recallsTyping (ready : c.buffer.error = false) : c.RecallsTyping where
  unsigned t h hhead := by
    have hrecalled := silent_memoryRecall ready h
    obtain ⟨d, rfl⟩ := h.unsigned hhead
    have hunsigned := d.isUnsigned_unsignedText
    have htyped := pressAll_edits ready (Action.isEdit_numberChars d.unsignedText)
    rw [funext (Buffer.editedBy_numberChars hunsigned.digit_or_point)] at htyped
    rw [edit, Buffer.typeRecalled_unsigned] at hrecalled
    exact ⟨_, _, Action.ofKeys_of_labels (Action.labels_unsigned hunsigned), hrecalled, htyped⟩
  onZero t h hhead hzero := by
    refine ⟨_, silent_memoryRecall ready h, ?_⟩
    rw [edit, Buffer.typeRecalled_zero (Buffer.isZero_iff.mpr ⟨ready, hzero⟩)]
    rfl
  starting t h hhead hlast := by
    refine ⟨_, silent_memoryRecall ready h, ?_⟩
    rw [edit, Buffer.typeRecalled_dangling hlast]
    rfl
  following t h hhead hzero hlast := by
    have hrecalled := silent_memoryRecall ready h
    obtain ⟨u, rfl, hunsigned⟩ := h.negative hhead
    have hlone : c.buffer.isZero = false := by
      rw [← Bool.not_eq_true, Buffer.isZero_iff]
      exact fun hlone => hzero hlone.2
    have hedits : ∀ action ∈ Action.operator .minus :: u.map Action.ofNumberChar,
        action.isEdit = true :=
      List.forall_mem_cons.mpr ⟨rfl, Action.isEdit_numberChars u⟩
    have htyped := pressAll_edits ready hedits
    rw [edit, Buffer.typeRecalled_negative hunsigned hlone hlast] at hrecalled
    rw [edit, Buffer.editedBy_cons, Buffer.editedBy_numberChars hunsigned.digit_or_point] at htyped
    refine ⟨_, _, _, Action.ofKeys_of_labels ?_, hrecalled, htyped, rfl, rfl⟩
    rw [List.map_cons, List.map_cons, Action.labels_unsigned hunsigned]
    rfl
  notFinite h :=
    silent_press (.inl ready) (by rw [perform, memoryRecall, h, if_neg Bool.false_ne_true])
  shown hfinite hplaces := by
    obtain ⟨t, ht⟩ := Display.format_of_showable hplaces c.memory.value
    exact ⟨t, hfinite, ht⟩

/-- Minus five after twelve. -/
theorem recallsTyping_minusFive :
    let c := ((fresh 2).pressAll
      [.digit 5, .toggleSign, .memoryAdd, .allClear, .digit 1, .digit 2]).state
    c.buffer.error = false ∧ c.buffer.tokens = [.number "12".toList] ∧ c.Recalls "-5".toList ∧
      c.RecallsTyping := by
  intro c
  have ready : c.buffer.error = false := by decide +kernel
  have typing := recallsTyping ready
  obtain ⟨t, hfinite, ht⟩ := typing.shown (by decide +kernel) (by decide +kernel)
  have hshown : (Display.format c.places c.memory.value).toOption = some "-5".toList := by
    decide +kernel
  rw [ht] at hshown
  cases hshown
  exact ⟨ready, by decide +kernel, ⟨hfinite, ht⟩, typing⟩

end Calculator

end FieldCalc
