import Mathlib.Algebra.Order.Field.Basic
import Mathlib.Algebra.Order.Floor.Semifield
import Mathlib.Data.Rat.Floor
import Mathlib.Tactic.Linarith
import Mathlib.Tactic.NormNum
import Mathlib.Tactic.Positivity
import RegionDispatch.Screen.Gauge

/-! # The error of binary rounding

A number rounded to `digits` binary digits is off by at most one part in `2 ^ digits`. A percentage
in single precision is rounded four times, so it is off by at most one part in two million.

* `Quotient.value` — the rational number a quotient stands for.
* `Quotient.abs_value_round_sub_le` — one rounding.
* **`Screen.percentOf_le`**, **`Screen.le_percentOf`** — what is known of a percentage for sure. -/

namespace RegionDispatch

/-- Rounding to a natural is off by a half at most. -/
theorem roundHalfEven_near (num : Nat) {den : Nat} (pos : 0 < den) :
    2 * num ≤ 2 * (den * roundHalfEven num den) + den ∧
      2 * (den * roundHalfEven num den) ≤ 2 * num + den := by
  have parts := Nat.div_add_mod num den
  have rest := Nat.mod_lt num pos
  unfold roundHalfEven
  dsimp only
  split
  · next near => omega
  · next far => rw [Nat.mul_succ]; omega

namespace Quotient

/-- The rational number that a quotient stands for. -/
def value (a : Quotient) : ℚ := a.num / a.den

@[simp] theorem value_ofNat (n : Nat) : (ofNat n).value = n := by simp [value, ofNat]

theorem value_mul (a b : Quotient) : (a.mul b).value = a.value * b.value := by
  simp [value, mul, div_mul_div_comm]

theorem value_div (a b : Quotient) : (a.div b).value = a.value / b.value := by
  simp [value, div, div_div_div_eq]

theorem value_nonneg (a : Quotient) : 0 ≤ a.value := div_nonneg (by positivity) (by positivity)

theorem floor_eq (a : Quotient) : a.floor = ⌊a.value⌋₊ := (Nat.floor_div_eq_div _ _).symm

/-- Rounding is scaled so far that the whole part has more than the digits asked for. -/
theorem two_pow_mul_den_le (digits : Nat) {a : Quotient} (nonzero : a.num ≠ 0) :
    2 ^ digits * a.den ≤ a.num * 2 ^ (digits + a.den.log2 + 1 - a.num.log2) := by
  have num : 2 ^ a.num.log2 ≤ a.num := Nat.log2_self_le nonzero
  have den : a.den < 2 ^ (a.den.log2 + 1) := Nat.lt_log2_self
  calc 2 ^ digits * a.den
      ≤ 2 ^ digits * 2 ^ (a.den.log2 + 1) := Nat.mul_le_mul_left _ den.le
    _ = 2 ^ (digits + a.den.log2 + 1) := by rw [← Nat.pow_add, Nat.add_assoc]
    _ ≤ 2 ^ (a.num.log2 + (digits + a.den.log2 + 1 - a.num.log2)) :=
        Nat.pow_le_pow_right (by decide) (by omega)
    _ ≤ a.num * 2 ^ (digits + a.den.log2 + 1 - a.num.log2) := by
        rw [Nat.pow_add]
        exact Nat.mul_le_mul_right _ num

/-- The unit of the last digit that is kept is at most two parts in `2 ^ digits`. -/
theorem unit_le {digits num den : Nat} (pos : 0 < den) (large : 2 ^ digits * den ≤ num) :
    2 ^ digits * (den * 2 ^ ((num / den).log2 + 1 - digits)) ≤ 2 * num := by
  have whole : 2 ^ digits ≤ num / den := (Nat.le_div_iff_mul_le pos).2 large
  have nonzero : num / den ≠ 0 := Nat.ne_of_gt (Nat.lt_of_lt_of_le (by positivity) whole)
  have enough : digits ≤ (num / den).log2 := (Nat.le_log2 nonzero).2 whole
  calc 2 ^ digits * (den * 2 ^ ((num / den).log2 + 1 - digits))
      = den * 2 ^ (digits + ((num / den).log2 + 1 - digits)) := by rw [Nat.pow_add]; ring
    _ = 2 * (den * 2 ^ (num / den).log2) := by
        rw [show digits + ((num / den).log2 + 1 - digits) = (num / den).log2 + 1 by omega,
          Nat.pow_succ]
        ring
    _ ≤ 2 * (den * (num / den)) := by gcongr; exact Nat.log2_self_le nonzero
    _ ≤ 2 * num := by gcongr; exact Nat.mul_div_le num den

/-- **Rounding is off by one part in `2 ^ digits` at most.** -/
theorem abs_value_round_sub_le (digits : Nat) {a : Quotient} (pos : 0 < a.den) :
    |(a.round digits).value - a.value| ≤ a.value / 2 ^ digits := by
  by_cases zero : a.num = 0
  · simp [round, zero, value]
  set scale := digits + a.den.log2 + 1 - a.num.log2 with scaleDef
  set num := a.num * 2 ^ scale with numDef
  set surplus := (num / a.den).log2 + 1 - digits with surplusDef
  set rounded := roundHalfEven num (a.den * 2 ^ surplus) with roundedDef
  have result : (a.round digits).value = rounded * 2 ^ surplus / 2 ^ scale := by
    simp only [round, zero, if_false, Nat.shiftLeft_eq, value, one_mul]
    push_cast
    rfl
  have unit := unit_le pos (two_pow_mul_den_le digits zero)
  have nonzero : 0 < a.den * 2 ^ surplus := by positivity
  have near := roundHalfEven_near num nonzero
  -- all in units of the scaled quotient
  have exact_ : a.value = num / (a.den * 2 ^ scale) := by
    rw [value, numDef]
    push_cast
    field_simp
  have off : |(rounded * (a.den * 2 ^ surplus) - num : ℚ)| ≤ a.den * 2 ^ surplus / 2 := by
    have above : (2 * num : ℚ) ≤ 2 * (a.den * 2 ^ surplus * rounded) + a.den * 2 ^ surplus := by
      exact_mod_cast near.1
    have below : (2 * (a.den * 2 ^ surplus * rounded) : ℚ) ≤ 2 * num + a.den * 2 ^ surplus := by
      exact_mod_cast near.2
    rw [abs_le]
    constructor <;> linarith
  have unit' : (2 ^ digits * (a.den * 2 ^ surplus) : ℚ) ≤ 2 * num := by exact_mod_cast unit
  have den : (0 : ℚ) < a.den := by exact_mod_cast pos
  calc |(a.round digits).value - a.value|
      = |(rounded * (a.den * 2 ^ surplus) - num : ℚ)| / (a.den * 2 ^ scale) := by
        rw [result, exact_, ← abs_of_pos (show (0 : ℚ) < a.den * 2 ^ scale by positivity),
          ← abs_div, abs_of_pos (show (0 : ℚ) < a.den * 2 ^ scale by positivity)]
        congr 1
        field_simp
    _ ≤ (num / 2 ^ digits) / (a.den * 2 ^ scale) := by
        gcongr
        refine off.trans ?_
        rw [le_div_iff₀ (by positivity)]
        linarith
    _ = a.value / 2 ^ digits := by
        rw [exact_]
        ring

/-- Bounds on a rounded number. -/
theorem value_round_bounds (digits : Nat) {a : Quotient} (pos : 0 < a.den) :
    a.value * (1 - 1 / 2 ^ digits) ≤ (a.round digits).value ∧
      (a.round digits).value ≤ a.value * (1 + 1 / 2 ^ digits) := by
  have near := abs_le.1 (abs_value_round_sub_le digits pos)
  constructor <;> rw [div_eq_mul_one_div] at near <;> linarith [near.1, near.2]

theorem den_round_pos (digits : Nat) {a : Quotient} (pos : 0 < a.den) :
    0 < (a.round digits).den := by
  unfold round
  split
  · exact pos
  · simp [Nat.shiftLeft_eq]

end Quotient

namespace Screen

open RegionDispatch.Quotient

variable {part total n : Nat}

/-- **A percentage is off by one part in two million at most**, before it is rounded down. -/
theorem exists_percent (part : Nat) (some : 0 < total) :
    ∃ percent : ℚ, percentOf part total = ⌊percent⌋₊ ∧
      100 * (part / total : ℚ) * (1 - 1 / 2 ^ 21) ≤ percent ∧
      percent ≤ 100 * (part / total : ℚ) * (1 + 1 / 2 ^ 21) := by
  set num := (ofNat part).round singleDigits
  set den := (ofNat total).round singleDigits
  set share := (num.div den).round singleDigits
  have whole : (0 : ℚ) < total := by exact_mod_cast some
  have numNear := value_round_bounds singleDigits (a := ofNat part) Nat.one_pos
  have denNear := value_round_bounds singleDigits (a := ofNat total) Nat.one_pos
  simp only [value_ofNat, singleDigits] at numNear denNear
  have numPos : 0 < num.den := den_round_pos _ Nat.one_pos
  have denPos : 0 < den.value := lt_of_lt_of_le (by positivity) denNear.1
  have denNum : 0 < den.num := Nat.pos_of_ne_zero fun zero => by simp [value, zero] at denPos
  have shareNear := value_round_bounds singleDigits (a := num.div den) (Nat.mul_pos numPos denNum)
  have sharePos : 0 < share.den := den_round_pos _ (Nat.mul_pos numPos denNum)
  have last := value_round_bounds singleDigits (a := share.mul (ofNat 100))
    (Nat.mul_pos sharePos Nat.one_pos)
  simp only [value_div, value_mul, value_ofNat, singleDigits, Nat.cast_ofNat] at shareNear last
  -- the quotient of the two rounded numbers
  have ratio : part / total * ((1 - 1 / 2 ^ 24) / (1 + 1 / 2 ^ 24)) ≤ num.value / den.value ∧
      num.value / den.value ≤ part / total * ((1 + 1 / 2 ^ 24) / (1 - 1 / 2 ^ 24)) := by
    rw [div_mul_div_comm, div_mul_div_comm]
    refine ⟨div_le_div₀ num.value_nonneg numNear.1 denPos denNear.2,
      div_le_div₀ (by positivity) numNear.2 (by positivity) denNear.1⟩
  have below : (0 : ℚ) ≤ 1 - 1 / 2 ^ 24 := by norm_num
  have known : (0 : ℚ) ≤ part / total := by positivity
  refine ⟨((share.mul (ofNat 100)).round singleDigits).value, ?_, ?_, ?_⟩
  · rw [← floor_eq]
    simp only [percentOf, Nat.ne_of_gt some, if_false]
    rfl
  · calc 100 * (part / total : ℚ) * (1 - 1 / 2 ^ 21)
        ≤ part / total * ((1 - 1 / 2 ^ 24) / (1 + 1 / 2 ^ 24)) * (1 - 1 / 2 ^ 24) * 100 *
          (1 - 1 / 2 ^ 24) := by linarith
      _ ≤ num.value / den.value * (1 - 1 / 2 ^ 24) * 100 * (1 - 1 / 2 ^ 24) := by
          gcongr
          exact ratio.1
      _ ≤ share.value * 100 * (1 - 1 / 2 ^ 24) := by
          gcongr
          exact shareNear.1
      _ ≤ _ := last.1
  · calc ((share.mul (ofNat 100)).round singleDigits).value
        ≤ share.value * 100 * (1 + 1 / 2 ^ 24) := last.2
      _ ≤ num.value / den.value * (1 + 1 / 2 ^ 24) * 100 * (1 + 1 / 2 ^ 24) := by
          gcongr
          exact shareNear.2
      _ ≤ part / total * ((1 + 1 / 2 ^ 24) / (1 - 1 / 2 ^ 24)) * (1 + 1 / 2 ^ 24) * 100 *
          (1 + 1 / 2 ^ 24) := by
          gcongr
          exact ratio.2
      _ ≤ 100 * (part / total : ℚ) * (1 + 1 / 2 ^ 21) := by linarith

/-- **At most `n` percents**, if the exact share is below the next one by a two-millionth part. -/
theorem percentOf_le (less : 100 * part * (2 ^ 21 + 1) < (n + 1) * total * 2 ^ 21) :
    percentOf part total ≤ n := by
  have some : 0 < total := Nat.pos_of_ne_zero fun none => by simp [none] at less
  obtain ⟨percent, eq, -, most⟩ := exists_percent part some
  have whole : (0 : ℚ) < total := by exact_mod_cast some
  have less' : (100 * part * (2 ^ 21 + 1) : ℚ) < (n + 1) * total * 2 ^ 21 := by exact_mod_cast less
  have share : 100 * (part / total : ℚ) * (1 + 1 / 2 ^ 21) < n + 1 := by
    rw [show 100 * (part / total : ℚ) * (1 + 1 / 2 ^ 21) =
      100 * part * (2 ^ 21 + 1) / (total * 2 ^ 21) by field_simp, div_lt_iff₀ (by positivity)]
    linarith
  rw [eq, ← Nat.lt_succ_iff, Nat.floor_lt' (Nat.succ_ne_zero n), Nat.cast_succ]
  exact most.trans_lt share

/-- **At least `n` percents**, if the exact share is above `n` by one part in two million. -/
theorem le_percentOf (some : 0 < total) (more : n * total * 2 ^ 21 ≤ 100 * part * (2 ^ 21 - 1)) :
    n ≤ percentOf part total := by
  obtain ⟨percent, eq, least, -⟩ := exists_percent part some
  have whole : (0 : ℚ) < total := by exact_mod_cast some
  have more' : (n * total * 2 ^ 21 : ℚ) ≤ 100 * part * (2 ^ 21 - 1) := by
    have less : ((2 ^ 21 - 1 : Nat) : ℚ) = 2 ^ 21 - 1 := by norm_num
    rw [← less]
    exact_mod_cast more
  have share : (n : ℚ) ≤ 100 * (part / total : ℚ) * (1 - 1 / 2 ^ 21) := by
    rw [show 100 * (part / total : ℚ) * (1 - 1 / 2 ^ 21) =
      100 * part * (2 ^ 21 - 1) / (total * 2 ^ 21) by field_simp, le_div_iff₀ (by positivity)]
    linarith
  rw [eq]
  exact Nat.le_floor (share.trans least)

end Screen

end RegionDispatch
