import FieldCalc.Proofs.Registry.CallRuns

/-!
# A registry in three dictionaries

A registry may be kept in three dictionaries under the ids of its sessions: the sessions, the names
of their fields, and when they were last used. An operation updates one after the other and may
fail between two updates. What it has done by then stays.
-/

namespace FieldCalc

/-! ## Dictionaries -/

/-- A dictionary, in the order in which its keys were put in. -/
structure Dict (α : Type) where
  items : List (String × α)

namespace Dict

variable {α : Type}

def empty : Dict α := ⟨[]⟩

def keys (d : Dict α) : List String := d.items.map (·.1)

def get? (d : Dict α) (key : String) : Option α := (d.items.find? (·.1 == key)).map (·.2)

/-- Puts a value under a key. A key that is there already keeps its place. -/
def put (d : Dict α) (key : String) (value : α) : Dict α :=
  if key ∈ d.keys then ⟨d.items.map fun item => if item.1 = key then (key, value) else item⟩
  else ⟨d.items ++ [(key, value)]⟩

def erase (d : Dict α) (key : String) : Dict α := ⟨d.items.filter (·.1 != key)⟩

/-- The first key of the least value. -/
def least (first : String × Int) : List (String × Int) → String
  | [] => first.1
  | item :: rest => if item.2 < first.2 then least item rest else least first rest

theorem erase_put (d : Dict α) (key : String) (value : α) :
    (d.put key value).erase key = d.erase key := by
  unfold put
  split
  · simp only [erase, List.filter_map, Dict.mk.injEq]
    have hsame : (fun item : String × α => item.1 != key) ∘
        (fun item => if item.1 = key then (key, value) else item) =
        fun item => item.1 != key := by
      funext item
      simp only [Function.comp_apply]
      split
      · next heq => rw [heq]
      · rfl
    rw [hsame]
    refine (List.map_congr_left fun item hitem => ?_).trans (List.map_id _)
    have hkey : item.1 ≠ key := by simpa using (List.mem_filter.mp hitem).2
    exact if_neg hkey
  · simp [erase]

theorem get?_put (d : Dict α) (key : String) (value : α) :
    (d.put key value).get? key = some value := by
  unfold put
  split
  · next hmem =>
      obtain ⟨item, hitem, hkey⟩ := List.mem_map.mp hmem
      simp only [get?, List.find?_map]
      cases hfind : d.items.find? ((fun item : String × α => item.1 == key) ∘
          fun item => if item.1 = key then (key, value) else item) with
      | some found =>
          have hfound := List.find?_some hfind
          simp only [Function.comp_apply] at hfound
          simp only [Option.map_some]
          split
          · rfl
          · next hne =>
              rw [if_neg hne] at hfound
              exact absurd (by simpa using hfound) hne
      | none =>
          have hno := List.find?_eq_none.mp hfind item hitem
          simp [hkey] at hno
  · next hnew =>
      have hnone : d.items.find? (·.1 == key) = none := by
        refine List.find?_eq_none.mpr fun item hitem hkey => hnew ?_
        exact List.mem_map.mpr ⟨item, hitem, by simpa using hkey⟩
      simp [get?, List.find?_append, hnone]

end Dict

/-! ## Records -/

/-- A session with its tape and the serial number of the field that it writes to. -/
structure Sitting where
  session : Session
  tape : Tape
  serial : Nat

structure Roster where
  entries : List Entry
  registered : Nat
  sessions : Dict Sitting
  sessionFields : Dict String
  lastUsed : Dict Int
  /-- The sessions that were taken out, each as it was then. -/
  closed : List (String × Sitting)
  opened : Nat
  idleSeconds : Int
  capacity : Int

/-- What stops an operation. -/
inductive Stop where
  | fault (fault : Fault)
  /-- The session unused for longest was asked for where none has been used. -/
  | neverUsed

abbrev Keeping := EStateM Stop Roster

namespace Roster

def empty (idleSeconds capacity : Int) : Roster :=
  ⟨[], 0, .empty, .empty, .empty, [], 0, idleSeconds, capacity⟩

def fields (d : Roster) : Registry :=
  { Registry.empty d.idleSeconds d.capacity with entries := d.entries, registered := d.registered }

end Roster

namespace Keeping

def lift {α : Type} : Except Fault α → Keeping α
  | .ok a => pure a
  | .error fault => throw (.fault fault)

/-! ## Fields -/

def onFields {α : Type} (f : Registry → Except Fault (Registry × α)) : Keeping α := do
  let d ← get
  let (r, a) ← lift (f d.fields)
  set { d with entries := r.entries, registered := r.registered }
  return a

def receive (serial : Nat) (value : Binary64) : Keeping Unit := do
  let d ← get
  match d.entries.find? (·.serial == serial) with
  | none => return
  | some entry =>
      let field ← lift (entry.field.set value)
      set { d with entries := (d.fields.writeField serial field).entries }

/-! ## Sessions -/

def session (id : String) : Keeping Sitting := do
  let d ← get
  match d.sessions.get? id with
  | some s => return s
  | none => throw (.fault (.unknownSession id))

/-- Looks a session up and marks it as used. -/
def use (now : Int) (id : String) : Keeping Sitting := do
  let s ← session id
  modify fun d => { d with lastUsed := d.lastUsed.put id now }
  return s

def store (id : String) (s : Sitting) : Keeping Unit :=
  modify fun d => { d with sessions := d.sessions.put id s }

def discard (id : String) : Keeping Unit :=
  modify fun d => { d with
    sessions := d.sessions.erase id
    sessionFields := d.sessionFields.erase id
    lastUsed := d.lastUsed.erase id
    closed := d.closed ++ (d.sessions.get? id).toList.map fun s => (id, s) }

def drop (id : String) : Keeping Unit := do
  let s ← session id
  let cancelled ← lift s.session.cancel
  store id { s with session := cancelled }
  discard id

def expireIdle (now : Int) : Keeping (List String) := do
  let d ← get
  let idle := (d.lastUsed.items.filter (·.2 ≤ now - d.idleSeconds)).map (·.1)
  idle.forM drop
  return idle

def leastRecent : Keeping String := do
  let d ← get
  match d.lastUsed.items with
  | [] => throw .neverUsed
  | first :: rest => return Dict.least first rest

/-- Drops sessions until one more may be open. Each round drops one, so that there need be no more
rounds than there are sessions. -/
def makeRoom : Nat → Keeping Unit
  | 0 => return
  | count + 1 => do
      let d ← get
      if d.sessions.items ≠ [] ∧ d.capacity ≤ d.sessions.items.length then
        let id ← leastRecent
        drop id
        makeRoom count

/-- Opens a session. The clock is read once for idle sessions and once for the new one. -/
def openSession (first second : Int) (name : String) (places : Option Int) : Keeping String := do
  let d ← get
  let entry ← lift (d.fields.entry? name)
  let _ ← expireIdle first
  let d ← get
  makeRoom d.sessions.items.length
  let session ← lift (Registry.sessionOn entry.field places)
  let d ← get
  let id := s!"s{d.opened + 1}"
  set { d with
    opened := d.opened + 1
    sessions := d.sessions.put id ⟨session, .empty, entry.serial⟩
    sessionFields := d.sessionFields.put id name
    lastUsed := d.lastUsed.put id second }
  return id

/-- What is told of a session: the session, and the name of its field if there is one. -/
def told (id : String) (s : Sitting) : Keeping (Sitting × Option String) := do
  let d ← get
  return (s, d.sessionFields.get? id)

def press (now : Int) (id : String) (keys : List LooseText) :
    Keeping (Sitting × Option String) := do
  let actions ← lift (Action.ofKeys keys)
  let s ← use now id
  let o := s.session.performAll actions
  let pressed : Sitting := { s with session := o.state, tape := s.tape.record o.steps }
  store id pressed
  match o.fault with
  | some fault => throw (.fault fault)
  | none => told id pressed

def finish (now : Int) (id : String) : Keeping (Sitting × Option String) := do
  let s ← use now id
  let (session, value) ← lift s.session.commit
  let finished : Sitting := { s with session }
  store id finished
  receive s.serial value
  let data ← told id finished
  discard id
  return data

def cancel (now : Int) (id : String) : Keeping (Sitting × Option String) := do
  let s ← use now id
  let session ← lift s.session.cancel
  let cancelled : Sitting := { s with session }
  store id cancelled
  let data ← told id cancelled
  discard id
  return data

end Keeping

/-! ## Calls -/

namespace Roster

/-- The records that an operation leaves, whether it succeeds or not. -/
def after {α : Type} (d : Roster) (x : Keeping α) : Roster :=
  match x.run d with
  | .ok _ next => next
  | .error _ next => next

def take (d : Roster) : Registry.Call → Roster
  | .addField name label places value => d.after (.onFields (·.addField name label places value))
  | .timed first second op =>
      match op with
      | .setField name value => d.after (.onFields (·.setField name value))
      | .submitText name text => d.after (.onFields (·.submitText name text))
      | .openSession name places => d.after (.openSession first second name places)
      | .press id keys => d.after (.press first id keys)
      | .finish id => d.after (.finish first id)
      | .cancel id => d.after (.cancel first id)
      | .expire => d.after (.expireIdle first)
      | .setClock _ => d

def takeAll (d : Roster) (calls : List Registry.Call) : Roster := calls.foldl take d

end Roster

end FieldCalc
