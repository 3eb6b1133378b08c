import FieldCalc.Binary64.Arithmetic

/-!
The memory of a calculator: one running total.
-/

namespace FieldCalc

structure Memory where
  value : Binary64
  deriving DecidableEq

namespace Memory

def empty : Memory := ⟨.zero⟩

def add (m : Memory) (amount : Binary64) : Memory := ⟨m.value.add amount⟩

def subtract (m : Memory) (amount : Binary64) : Memory := ⟨m.value.sub amount⟩

end Memory

end FieldCalc
