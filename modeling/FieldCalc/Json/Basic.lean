import FieldCalc.Binary64.Basic
import FieldCalc.Text.CodePoint

/-!
JSON values. A number with neither point nor exponent is an integer of any size, any other is a
binary64 number. The members of an object keep the order in which their names first appeared.
Strings and names are loose texts, since the escapes in them may spell surrogates.
-/

namespace FieldCalc

inductive Json where
  | null
  | bool (value : Bool)
  | int (value : Int)
  | float (value : Binary64)
  | str (value : LooseText)
  | arr (items : List Json)
  | obj (members : List (LooseText × Json))

namespace Json

instance : Inhabited Json := ⟨null⟩

abbrev Members := List (LooseText × Json)

/-- The members with `name` set to `value`: in place where the name occurs, else at the end. -/
def putMember (name : LooseText) (value : Json) : Members → Members
  | [] => [(name, value)]
  | (other, old) :: rest =>
      if other = name then (other, value) :: rest else (other, old) :: putMember name value rest

def member? (name : LooseText) (members : Members) : Option Json :=
  (members.find? fun entry => entry.1 == name).map (·.2)

@[simp] theorem member?_putMember_self (name : LooseText) (value : Json)
    (members : Members) :
    member? name (putMember name value members) = some value := by
  induction members with
  | nil => simp [putMember, member?]
  | cons entry rest ih =>
    obtain ⟨other, old⟩ := entry
    by_cases h : other = name
    · simp [putMember, member?, h]
    · simpa [putMember, member?, h] using ih

/-- Whether a value counts as true: null, false, zero and what is empty do not. -/
def isTrue : Json → Bool
  | null => false
  | bool value => value
  | int value => value != 0
  | float value => !value.isZero
  | str value => !value.isEmpty
  | arr items => !items.isEmpty
  | obj members => !members.isEmpty

def ofText (t : Text) : Json := str (.ofText t)

end Json

end FieldCalc
