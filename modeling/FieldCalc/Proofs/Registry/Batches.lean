import FieldCalc.Proofs.Calculator.Unfailing
import FieldCalc.Proofs.Registry.Faults

/-!
# Batches of keys

A batch of keys is pressed as a whole or not at all. All keys are looked up before the first is
pressed, and once they are known nothing stops them: a registered session is open, and a key raises
no fault on an expression that can be typed where its precision is one that texts may have. So it
does not matter how the keys are divided into batches, nor what the display shows in between.
-/

namespace FieldCalc

namespace Action

def Known (keys : List LooseText) : Prop := ∀ key ∈ keys, ∃ action, ofKey key = .ok action

theorem known_iff {keys : List LooseText} : Known keys ↔ ∃ actions, ofKeys keys = .ok actions :=
  exists_mapM_eq_ok.symm

theorem known_append {front back : List LooseText} :
    Known (front ++ back) ↔ Known front ∧ Known back :=
  List.forall_mem_append

theorem ofKeys_append {front back : List LooseText} {first second : List Action}
    (hfront : ofKeys front = .ok first) (hback : ofKeys back = .ok second) :
    ofKeys (front ++ back) = .ok (first ++ second) := by
  unfold ofKeys at *
  rw [List.mapM_append, hfront, hback]
  rfl

end Action

theorem Ticket.pressed_append {t : Ticket} {first : List Action}
    (h : (t.session.performAll first).fault = none) (second : List Action) (now : Int) :
    t.pressed (first ++ second) now = (t.pressed first now).pressed second now := by
  have happend : t.session.performAll (first ++ second) =
      (t.session.performAll first).andThen fun s => s.performAll second :=
    Outcome.forEach_append _ _ _ _
  simp only [pressed, happend, Outcome.andThen, h, Tape.record_append]

namespace Registry

variable {r : Registry} {id : String}

theorem update_update (r : Registry) {first second : Ticket}
    (h : first.number = second.number) : (r.update first).update second = r.update second := by
  simp only [update, List.map_map]
  congr 1
  refine List.map_congr_left fun old _ => ?_
  simp only [Function.comp_apply]
  split
  · next hnumber => rw [if_pos (hnumber.trans h)]
  · rfl

/-- Sessions whose results can always be shown. -/
def Shows (r : Registry) (id : String) : Prop :=
  ∀ t ∈ r.tickets, t.id = id → Display.Accepts t.session.places

theorem InUse.fault_performAll (h : InUse r) {t : Ticket} (ht : t ∈ r.tickets)
    (accepted : Display.Accepts t.session.places) (actions : List Action) :
    (t.session.performAll actions).fault = none :=
  (h.steady t ht).fault_performAll (Display.accepts_iff.mp accepted) actions

theorem press_accepted (h : InUse r) {t : Ticket} (ht : t ∈ r.tickets)
    (accepted : Display.Accepts t.session.places) {keys : List LooseText} {actions : List Action}
    (known : Action.ofKeys keys = .ok actions) :
    r.press t.id keys = (r.update (t.pressed actions r.now), .ok (t.pressed actions r.now)) := by
  rw [press_registered h.orderly known ht, h.fault_performAll ht accepted]

/-- A batch of keys is pressed to its end, or nothing is. -/
theorem press_cases (h : InUse r) (accepted : r.Shows id) (keys : List LooseText) :
    (∃ actions, Action.ofKeys keys = .ok actions ∧ ∃ t ∈ r.tickets, t.id = id ∧
      r.press id keys = (r.update (t.pressed actions r.now), .ok (t.pressed actions r.now))) ∨
    (¬Action.Known keys ∨ ∀ t ∈ r.tickets, t.id ≠ id) ∧
      ∃ fault, r.press id keys = (r, .error fault) := by
  cases hkeys : Action.ofKeys keys with
  | error fault =>
      refine .inr ⟨.inl fun known => ?_, fault, press_unknownKey hkeys id⟩
      obtain ⟨actions, hactions⟩ := Action.known_iff.mp known
      rw [hkeys] at hactions
      cases hactions
  | ok actions =>
      rcases registered_or_gone r id with ⟨t, ht, rfl⟩ | hid
      · exact .inl ⟨actions, rfl, t, ht, rfl, press_accepted h ht (accepted t ht rfl) hkeys⟩
      · exact .inr ⟨.inr hid, _, press_gone hkeys hid⟩

/-- How a registry takes keys under an id. -/
structure PressesWhole (r : Registry) (id : String) : Prop where
  refused : ∀ keys fault, (r.press id keys).2 = .error fault → (r.press id keys).1 = r
  refused_iff : ∀ keys, (∃ fault, (r.press id keys).2 = .error fault) ↔
    ¬Action.Known keys ∨ ∀ t ∈ r.tickets, t.id ≠ id
  pressed : ∀ keys next, (r.press id keys).2 = .ok next → ∃ t ∈ r.tickets, t.id = id ∧
    (r.press id keys).1 = r.update next ∧ (t.session.pressAll keys).fault = none ∧
    next = { t with
      session := (t.session.pressAll keys).state
      tape := t.tape.record (t.session.pressAll keys).steps
      lastUsed := r.now }
  oneByOne : ∀ keys, keys ≠ [] → Action.Known keys →
    (r.press id keys).1 = keys.foldl (fun r key => (r.press id [key]).1) r
  /-- The answer is the same too, and with it all that is reported of the session. -/
  appended : ∀ front back, Action.Known (front ++ back) →
    r.press id (front ++ back) = (r.press id front).1.press id back

theorem press_append (h : InUse r) (accepted : r.Shows id) {front back : List LooseText}
    (known : Action.Known (front ++ back)) :
    r.press id (front ++ back) = (r.press id front).1.press id back := by
  obtain ⟨hfront, hback⟩ := Action.known_append.mp known
  obtain ⟨first, hfirst⟩ := Action.known_iff.mp hfront
  obtain ⟨second, hsecond⟩ := Action.known_iff.mp hback
  have hall := Action.ofKeys_append hfirst hsecond
  rcases registered_or_gone r id with ⟨t, ht, rfl⟩ | hid
  · have hshown := accepted t ht rfl
    have hnext : InUse (r.press t.id front).1 := h.apply (.press t.id front)
    rw [press_accepted h ht hshown hfirst] at hnext
    have hregistered : t.pressed first r.now ∈ (r.update (t.pressed first r.now)).tickets :=
      mem_tickets_update.mpr (.inl ⟨rfl, t, ht, rfl⟩)
    have hplaces : (t.pressed first r.now).session.places = t.session.places :=
      ((h.steady t ht).performAll first).places_eq
    -- The second batch finds the ticket that the first has left, which has the same number.
    have hlater := press_accepted hnext hregistered (hplaces ▸ hshown) hsecond
    rw [press_accepted h ht hshown hfirst, press_accepted h ht hshown hall,
      Ticket.pressed_append (h.fault_performAll ht hshown first)]
    have hupdate : (r.update (t.pressed first r.now)).update
        ((t.pressed first r.now).pressed second r.now) =
          r.update ((t.pressed first r.now).pressed second r.now) :=
      update_update r rfl
    rw [← hupdate]
    exact hlater.symm
  · rw [press_gone hfirst hid, press_gone hall hid, press_gone hsecond hid]

/-- Keys pressed one at a time after a batch. -/
theorem foldl_press (h : InUse r) (accepted : r.Shows id) {front : List LooseText}
    (keys : List LooseText) (known : Action.Known (front ++ keys)) :
    keys.foldl (fun r key => (r.press id [key]).1) (r.press id front).1 =
      (r.press id (front ++ keys)).1 := by
  -- Each key goes from the keys to come to the batch that has been pressed.
  induction keys generalizing front with
  | nil => rw [List.foldl_nil, List.append_nil]
  | cons key rest ih =>
      have hsplit : front ++ key :: rest = (front ++ [key]) ++ rest := by simp
      rw [hsplit] at known ⊢
      have hfront := (Action.known_append.mp known).1
      rw [List.foldl_cons, ← press_append h accepted hfront, ih known]

/-- Keys on a registered session are all pressed, in whatever batches they come, and a batch that
is refused has changed nothing. -/
theorem pressesWhole (h : InUse r) (accepted : r.Shows id) : r.PressesWhole id where
  refused keys fault hfault := by
    rcases press_cases h accepted keys with ⟨_, -, t, -, -, hpress⟩ | ⟨-, _, hpress⟩
    · rw [hpress] at hfault
      cases hfault
    · rw [hpress]
  refused_iff keys := by
    rcases press_cases h accepted keys with ⟨_, hkeys, t, ht, hid, hpress⟩ | ⟨hwhy, fault, hpress⟩
    · rw [hpress]
      refine iff_of_false (by rintro ⟨_, ⟨⟩⟩) ?_
      rintro (hunknown | hgone)
      · exact hunknown (Action.known_iff.mpr ⟨_, hkeys⟩)
      · exact hgone t ht hid
    · rw [hpress]
      exact iff_of_true ⟨fault, rfl⟩ hwhy
  pressed keys next hnext := by
    rcases press_cases h accepted keys with ⟨actions, hkeys, t, ht, hid, hpress⟩ | ⟨-, _, hpress⟩
    · rw [hpress] at hnext ⊢
      cases hnext
      have hall := Session.pressAll_eq hkeys t.session
      refine ⟨t, ht, hid, rfl, ?_, ?_⟩
      · rw [hall]
        exact h.fault_performAll ht (accepted t ht hid) actions
      · rw [hall]
        rfl
    · rw [hpress] at hnext
      cases hnext
  oneByOne keys hne known := by
    obtain ⟨key, rest, rfl⟩ := List.exists_cons_of_ne_nil hne
    have hrest := foldl_press h accepted rest (show Action.Known ([key] ++ rest) from known)
    exact hrest.symm
  appended _ _ := press_append h accepted

/-- A division by zero at the end of the first batch, and keys that go on from its error. -/
theorem pressesWhole_after_error :
    let r := tipsOnly.run [.openSession "tips" none]
    let failing : List LooseText := ["5", "/", "0", "="]
    let recovering : List LooseText := ["8", "AC", "7"]
    (∃ t ∈ (r.press "s1" failing).1.tickets, t.id = "s1" ∧
      t.session.display = Display.errorText) ∧
    r.press "s1" (failing ++ recovering) = (r.press "s1" failing).1.press "s1" recovering ∧
    ∃ t ∈ (r.press "s1" (failing ++ recovering)).1.tickets, t.id = "s1" ∧
      t.session.display = "7".toList := by
  intro r failing recovering
  have inUse : InUse r := setUp_tipsOnly.inUse.run _
  have accepted : r.Shows "s1" := by
    intro t ht _
    have hplaces : ∀ t ∈ r.tickets, t.session.places ≤ Display.maxShownPlaces := by
      decide +kernel
    exact Display.accepts_iff.mpr (hplaces t ht)
  have known : Action.Known (failing ++ recovering) := Action.known_iff.mpr ⟨_, rfl⟩
  refine ⟨by decide +kernel, (pressesWhole inUse accepted).appended _ _ known, by decide +kernel⟩

end Registry

end FieldCalc
