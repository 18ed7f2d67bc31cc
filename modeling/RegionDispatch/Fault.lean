/-!
# Arithmetic faults

Lane numbers, team sizes and counters are natural numbers held in machine words. A step whose
result does not fit its word, or that divides by zero, *faults*: the run stops there, and no
caller can catch it.

* `Fault` — the ways a step can fault, with `Fault.message`.
* `checkedAdd`, `checkedSub`, `checkedMul`, `checkedDiv`, `checkedMod` — word arithmetic that faults
  instead of wrapping; the first argument of the sum and the product is the number of values of
  the word.
* `clearBits` — the bits of one number that another does not have.
-/

namespace RegionDispatch

/-- A step that has no result and ends the run. -/
inductive Fault where
  /-- A sum that does not fit its word. -/
  | addOverflow
  /-- A difference below zero. -/
  | subOverflow
  /-- A product that does not fit its word. -/
  | mulOverflow
  /-- A division by zero. -/
  | divByZero
  /-- A remainder by zero. -/
  | remByZero
  /-- A gauge asked to show more than the whole. -/
  | percentRange
  deriving DecidableEq, Repr

/-- The text a fault is reported with. -/
def Fault.message : Fault → String
  | .addOverflow => "attempt to add with overflow"
  | .subOverflow => "attempt to subtract with overflow"
  | .mulOverflow => "attempt to multiply with overflow"
  | .divByZero => "attempt to divide by zero"
  | .remByZero => "attempt to calculate the remainder with a divisor of zero"
  | .percentRange => "Percentage should be between 0 and 100 inclusively."

/-- The sum of two words with `size` values. -/
def checkedAdd (size a b : Nat) : Except Fault Nat :=
  if a + b < size then .ok (a + b) else .error .addOverflow

/-- The difference of two words. -/
def checkedSub (a b : Nat) : Except Fault Nat :=
  if b ≤ a then .ok (a - b) else .error .subOverflow

/-- The product of two words with `size` values. -/
def checkedMul (size a b : Nat) : Except Fault Nat :=
  if a * b < size then .ok (a * b) else .error .mulOverflow

/-- The quotient of two words. -/
def checkedDiv (a b : Nat) : Except Fault Nat :=
  if b = 0 then .error .divByZero else .ok (a / b)

/-- The remainder of two words. -/
def checkedMod (a b : Nat) : Except Fault Nat :=
  if b = 0 then .error .remByZero else .ok (a % b)

/-- The bits of `n` that `m` does not have. -/
def clearBits (n m : Nat) : Nat := n ^^^ (n &&& m)

theorem checkedAdd_of_lt {size a b : Nat} (h : a + b < size) :
    checkedAdd size a b = .ok (a + b) := if_pos h

theorem checkedSub_of_le {a b : Nat} (h : b ≤ a) : checkedSub a b = .ok (a - b) := if_pos h

theorem checkedMul_of_lt {size a b : Nat} (h : a * b < size) :
    checkedMul size a b = .ok (a * b) := if_pos h

theorem checkedDiv_of_pos {a b : Nat} (h : 0 < b) : checkedDiv a b = .ok (a / b) :=
  if_neg (Nat.ne_of_gt h)

theorem checkedMod_of_pos {a b : Nat} (h : 0 < b) : checkedMod a b = .ok (a % b) :=
  if_neg (Nat.ne_of_gt h)

/-- Clearing keeps exactly the bits of `n` outside `m`. -/
theorem testBit_clearBits (n m i : Nat) :
    (clearBits n m).testBit i = (n.testBit i && !m.testBit i) := by
  simp only [clearBits, Nat.testBit_xor, Nat.testBit_and]
  cases n.testBit i <;> cases m.testBit i <;> rfl

end RegionDispatch
