import FieldCalc.Buffer
import Mathlib.Data.List.Basic

/-!
# A buffer with lists of its own

The tokens of a buffer may be kept in a list that its keys change in place or give up for a new
one, and a copy may be kept aside to go back to. Whether the copy stays as it was then depends on
which list is changed. Every change is made to the list that the buffer holds, and that is never
the copy.
-/

namespace FieldCalc

/-- What is seen of a buffer. -/
structure Contents where
  tokens : List Token
  waiting : Bool
  pending : Option Operator
  error : Bool
  deriving DecidableEq

/-- A change to a buffer. The first three are made to its list, and the fourth gives it a new
one. -/
inductive Change where
  | extend (tokens : List Token)
  | replaceLast (token : Token)
  | pop
  | assign (tokens : List Token)
  | setWaiting (waiting : Bool)
  | setPending (pending : Option Operator)
  | setError (error : Bool)

namespace Contents

def apply (s : Contents) : Change → Contents
  | .extend tokens => { s with tokens := s.tokens ++ tokens }
  | .replaceLast token => { s with tokens := s.tokens.dropLast ++ [token] }
  | .pop =>
      { s with tokens := if s.tokens.dropLast = [] then [Token.zero] else s.tokens.dropLast }
  | .assign tokens => { s with tokens }
  | .setWaiting waiting => { s with waiting }
  | .setPending pending => { s with pending }
  | .setError error => { s with error }

def applyAll (s : Contents) (changes : List Change) : Contents := changes.foldl apply s

theorem applyAll_append (s : Contents) (first second : List Change) :
    s.applyAll (first ++ second) = (s.applyAll first).applyAll second := List.foldl_append

end Contents

/-! ## List objects -/

/-- The lists that there are, the one that the buffer holds, and the rest of the buffer. -/
structure Objects where
  lists : List (List Token)
  live : Nat
  waiting : Bool
  pending : Option Operator
  error : Bool
  held : live < lists.length

/-- A copy kept aside. -/
structure Snapshot where
  list : Nat
  waiting : Bool
  pending : Option Operator
  error : Bool

namespace Objects

variable (m : Objects)

def list (n : Nat) : List Token := m.lists[n]?.getD []

def contents : Contents := ⟨m.list m.live, m.waiting, m.pending, m.error⟩

def inPlace (f : List Token → List Token) : Objects :=
  { m with
    lists := m.lists.modify m.live f
    held := by rw [List.length_modify]; exact m.held }

def renewed (tokens : List Token) : Objects :=
  { m with
    lists := m.lists ++ [tokens]
    live := m.lists.length
    held := by rw [List.length_append]; exact Nat.lt_succ_self _ }

/-- Removes the last token; an empty list is given up for a new one. -/
def popped : Objects :=
  let rest := m.inPlace List.dropLast
  if rest.list rest.live = [] then rest.renewed [Token.zero] else rest

def apply : Change → Objects
  | .extend tokens => m.inPlace (· ++ tokens)
  | .replaceLast token => m.inPlace (·.dropLast ++ [token])
  | .pop => m.popped
  | .assign tokens => m.renewed tokens
  | .setWaiting waiting => { m with waiting }
  | .setPending pending => { m with pending }
  | .setError error => { m with error }

def applyAll (changes : List Change) : Objects := changes.foldl apply m

/-! ## Snapshots -/

def snapshot : Snapshot := ⟨m.lists.length, m.waiting, m.pending, m.error⟩

/-- The objects once a copy of the list has been made for the snapshot. -/
def copied : Objects :=
  { m with
    lists := m.lists ++ [m.list m.live]
    held := by rw [List.length_append]; exact Nat.lt_succ_of_lt m.held }

def recorded (s : Snapshot) : Contents := ⟨m.list s.list, s.waiting, s.pending, s.error⟩

/-- Goes back to a snapshot, with a new copy of its list. -/
def restored (s : Snapshot) : Objects :=
  { m.renewed (m.list s.list) with waiting := s.waiting, pending := s.pending, error := s.error }

variable {m} {n : Nat}

/-! ## One list and the others -/

theorem list_inPlace (f : List Token → List Token) :
    (m.inPlace f).list m.live = f (m.list m.live) := by
  simp only [list, inPlace, List.getElem?_modify_eq, List.getElem?_eq_getElem m.held]
  rfl

theorem list_inPlace_ne (f : List Token → List Token) (h : n ≠ m.live) :
    (m.inPlace f).list n = m.list n := by
  simp only [list, inPlace, List.getElem?_modify_ne _ _ (Ne.symm h)]

theorem list_renewed (tokens : List Token) :
    (m.renewed tokens).list m.lists.length = tokens := by
  simp only [list, renewed, List.getElem?_concat_length, Option.getD_some]

theorem list_renewed_of_lt (tokens : List Token) (h : n < m.lists.length) :
    (m.renewed tokens).list n = m.list n := by
  simp only [list, renewed, List.getElem?_append_left h]

/-- What a change does to the objects is what it does to what is seen. -/
theorem contents_apply (m : Objects) (change : Change) :
    (m.apply change).contents = m.contents.apply change := by
  have hplace : ∀ f, (m.inPlace f).contents = { m.contents with tokens := f (m.list m.live) } :=
    fun f => congrArg (Contents.mk · _ _ _) (list_inPlace f)
  have hnew : ∀ (m : Objects) tokens, (m.renewed tokens).contents = { m.contents with tokens } :=
    fun m tokens => congrArg (Contents.mk · _ _ _) (list_renewed tokens)
  cases change with
  | extend | replaceLast => exact hplace _
  | pop =>
      have hrest : (m.inPlace List.dropLast).list (m.inPlace List.dropLast).live =
          (m.list m.live).dropLast := list_inPlace _
      simp only [apply, popped, hrest]
      split
      · next hnil =>
          rw [hnew, hplace]
          exact congrArg (Contents.mk · _ _ _) (if_pos hnil).symm
      · next hne =>
          rw [hplace]
          exact congrArg (Contents.mk · _ _ _) (if_neg hne).symm
  | assign tokens => exact hnew m tokens
  | setWaiting | setPending | setError => rfl

theorem contents_applyAll (m : Objects) (changes : List Change) :
    (m.applyAll changes).contents = m.contents.applyAll changes := by
  induction changes generalizing m with
  | nil => rfl
  | cons change rest ih =>
      have hrest := ih (m.apply change)
      rw [contents_apply] at hrest
      exact hrest

/-! ## Lists kept aside -/

/-- A list that is not the buffer's, and that is still as it was. -/
structure Spares (m m' : Objects) (n : Nat) : Prop where
  lt : n < m'.lists.length
  apart : n ≠ m'.live
  same : m'.list n = m.list n

theorem Spares.trans {m' m'' : Objects} (h : m.Spares m' n) (h' : m'.Spares m'' n) :
    m.Spares m'' n :=
  ⟨h'.lt, h'.apart, h'.same.trans h.same⟩

theorem spares_inPlace (f : List Token → List Token) (hlt : n < m.lists.length)
    (hapart : n ≠ m.live) : m.Spares (m.inPlace f) n where
  lt := by
    rw [inPlace, List.length_modify]
    exact hlt
  apart := hapart
  same := list_inPlace_ne f hapart

theorem spares_renewed (tokens : List Token) (hlt : n < m.lists.length) :
    m.Spares (m.renewed tokens) n where
  lt := by
    rw [renewed, List.length_append]
    exact Nat.lt_succ_of_lt hlt
  apart := Nat.ne_of_lt hlt
  same := list_renewed_of_lt tokens hlt

/-- No change is made to a list that the buffer does not hold. -/
theorem spares_apply (change : Change) (hlt : n < m.lists.length) (hapart : n ≠ m.live) :
    m.Spares (m.apply change) n := by
  cases change with
  | extend | replaceLast => exact spares_inPlace _ hlt hapart
  | pop =>
      have hrest := spares_inPlace List.dropLast hlt hapart
      simp only [apply, popped]
      split
      · exact hrest.trans (spares_renewed _ hrest.lt)
      · exact hrest
  | assign tokens => exact spares_renewed tokens hlt
  | setWaiting | setPending | setError => exact ⟨hlt, hapart, rfl⟩

theorem spares_applyAll (changes : List Change) (hlt : n < m.lists.length) (hapart : n ≠ m.live) :
    m.Spares (m.applyAll changes) n := by
  induction changes generalizing m with
  | nil => exact ⟨hlt, hapart, rfl⟩
  | cons change rest ih =>
      have hfirst := spares_apply change hlt hapart
      exact hfirst.trans (ih hfirst.lt hfirst.apart)

/-! ## There and back -/

theorem contents_copied (m : Objects) : m.copied.contents = m.contents := by
  simp only [contents, list, copied, List.getElem?_append_left m.held]

theorem recorded_copied (m : Objects) : m.copied.recorded m.snapshot = m.contents :=
  congrArg (Contents.mk · _ _ _) (list_renewed (m := m) _)

theorem contents_restored (m : Objects) (s : Snapshot) :
    (m.restored s).contents = m.recorded s :=
  congrArg (Contents.mk · _ _ _) (list_renewed _)

/-- The snapshot is still there to go back to. -/
theorem spares_restored (s : Snapshot) (hlt : n < m.lists.length) :
    m.Spares (m.restored s) n :=
  have hcopy := spares_renewed (m.list s.list) hlt
  ⟨hcopy.lt, hcopy.apart, hcopy.same⟩

end Objects

end FieldCalc
