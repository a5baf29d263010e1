import Calculator.Double.Arithmetic

/-!
# Memory

The memory of a calculator holds one number, to which numbers are added and from which they are
subtracted.
-/

namespace Calculator

/-- The memory. -/
structure Memory where
  value : Double
deriving DecidableEq

namespace Memory

/-- The memory that holds zero. -/
def empty : Memory := ⟨.zero false⟩

/-- The memory with a number added. -/
def add (m : Memory) (x : Double) : Memory := ⟨m.value + x⟩

/-- The memory with a number subtracted. -/
def subtract (m : Memory) (x : Double) : Memory := ⟨m.value - x⟩

end Memory

end Calculator
