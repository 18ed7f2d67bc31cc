import Mathlib.Algebra.Group.Nat.Defs
import RegionDispatch.Fault

/-! # Word arithmetic

Bounds on the word operations that team sizes and lane maps are computed with. -/

namespace RegionDispatch

/-- Clearing bits never makes a number greater. -/
theorem clearBits_le (n m : Nat) : clearBits n m ≤ n := by
  have sub : n &&& clearBits n m = clearBits n m := by
    refine Nat.eq_of_testBit_eq fun i => ?_
    rw [Nat.testBit_and, testBit_clearBits]
    cases n.testBit i <;> rfl
  rw [← sub]
  exact Nat.and_le_left

/-- Clearing leaves nothing only of a number whose bits are all cleared. -/
theorem le_of_clearBits_eq_zero {n m : Nat} (h : clearBits n m = 0) : n ≤ m := by
  have sub : n &&& m = n := by
    refine Nat.eq_of_testBit_eq fun i => ?_
    have gone := testBit_clearBits n m i
    rw [h, Nat.zero_testBit] at gone
    rw [Nat.testBit_and]
    cases hn : n.testBit i with
    | false => rfl
    | true => rw [hn] at gone; simpa using gone
  rw [← sub]
  exact Nat.and_le_right

/-- Clearing the low bits rounds down to the power of two they lie below. -/
theorem clearBits_two_pow_sub_one (n k : Nat) : clearBits n (2 ^ k - 1) = 2 ^ k * (n / 2 ^ k) := by
  refine Nat.eq_of_testBit_eq fun i => ?_
  rw [testBit_clearBits, Nat.testBit_two_pow_sub_one, Nat.testBit_two_pow_mul,
    Nat.testBit_div_two_pow]
  by_cases low : i < k
  · simp [low, Nat.not_le.mpr low]
  · have high : k ≤ i := Nat.le_of_not_lt low
    simp [low, high, Nat.sub_add_cancel high]

/-- Clearing the low bits leaves a multiple of the power of two they lie below. -/
theorem two_pow_dvd_clearBits (n k : Nat) : 2 ^ k ∣ clearBits n (2 ^ k - 1) :=
  clearBits_two_pow_sub_one n k ▸ Nat.dvd_mul_right _ _

theorem checkedMul_eq_ok {size a b n : Nat} :
    checkedMul size a b = .ok n ↔ a * b < size ∧ n = a * b := by
  unfold checkedMul
  split <;> simp [*, eq_comm]

theorem checkedAdd_eq_error {size a b : Nat} {fault : Fault} :
    checkedAdd size a b = .error fault ↔ size ≤ a + b ∧ fault = .addOverflow := by
  unfold checkedAdd
  split
  · next fits => simp [Nat.not_le.2 fits]
  · next full => simp [Nat.le_of_not_lt full, eq_comm]

/-- A count of something overflows where the sum does. -/
theorem map_checkedAdd_eq_error {β : Type} {f : Nat → β} {size a b : Nat} {fault : Fault} :
    (checkedAdd size a b).map f = .error fault ↔ size ≤ a + b ∧ fault = .addOverflow := by
  rw [← checkedAdd_eq_error]
  cases checkedAdd size a b <;> simp [Except.map]

/-- Where the sum fits, what is made of it is made of the exact sum. -/
theorem eq_of_map_checkedAdd {β : Type} {f : Nat → β} {size a b : Nat} {result : β}
    (h : (checkedAdd size a b).map f = .ok result) : result = f (a + b) := by
  unfold checkedAdd at h
  split at h
  · exact (Except.ok.inj h).symm
  · cases h

end RegionDispatch
