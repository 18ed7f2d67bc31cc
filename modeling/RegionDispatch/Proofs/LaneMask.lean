import Mathlib.Data.List.Sort
import RegionDispatch.LaneMask

/-! # Lane masks as sorted lists

Every mask operation is a statement about `lanes`, the ascending list of a mask's lanes: counting is
its length, the partition masks are its filters, `lowestFrom` is its head, and the rank of a lane is
its position. -/

namespace RegionDispatch

namespace LaneMask

variable {m : LaneMask} {lane k n : Nat} {done rest : List Nat}

/-! ## Membership -/

theorem contains_eq_false (h : 64 ≤ lane) : m.contains lane = false := BitVec.getLsbD_of_ge _ _ h

theorem lt_of_contains (h : m.contains lane = true) : lane < maxGroupWidth := BitVec.lt_of_getLsbD h

/-- Masks with the same lanes are equal. -/
theorem eq_of_contains {other : LaneMask}
    (same : ∀ lane, m.contains lane = other.contains lane) : m = other :=
  congrArg mk (BitVec.eq_of_getLsbD_eq fun lane _ => same lane)

/-- The word of the `k` lowest lanes. -/
theorem getLsbD_ones (h : k < 64) : ((1#64 <<< k) - 1).getLsbD lane = decide (lane < k) := by
  have small : 2 ^ k < 2 ^ 64 := Nat.pow_lt_pow_right (by decide) h
  have positive : 0 < 2 ^ k := Nat.two_pow_pos k
  have word : ((1#64 <<< k) - 1).toNat = 2 ^ k - 1 := by
    have shifted : (1#64 <<< k).toNat = 2 ^ k := by
      rw [BitVec.toNat_shiftLeft, Nat.shiftLeft_eq, BitVec.toNat_one (by decide), Nat.one_mul]
      exact Nat.mod_eq_of_lt small
    rw [BitVec.toNat_sub, shifted]
    show (2 ^ 64 - 1 + 2 ^ k) % 2 ^ 64 = 2 ^ k - 1
    omega
  rw [BitVec.getLsbD, word, Nat.testBit_two_pow_sub_one]

@[simp] theorem contains_full :
    (full k).contains lane = (decide (lane < k) && decide (lane < maxGroupWidth)) := by
  unfold full
  split
  · next small =>
    refine (getLsbD_ones small).trans ?_
    by_cases below : lane < k
    · simp [below, Nat.lt_trans below small]
    · simp [below]
  · next large =>
    refine (BitVec.getLsbD_allOnes).trans ?_
    by_cases inside : lane < maxGroupWidth
    · have within : lane < k := Nat.lt_of_lt_of_le inside (Nat.le_of_not_lt large)
      simp [inside, within, show lane < 64 from inside]
    · simp [inside, show ¬lane < 64 from inside]

@[simp] theorem contains_below :
    (below k).contains lane = (decide (lane < k) && decide (lane < maxGroupWidth)) := by
  rw [← contains_full]
  unfold below full bit
  split <;> rfl

@[simp] theorem contains_remainingFrom :
    (m.remainingFrom k).contains lane = (m.contains lane && decide (k ≤ lane)) := by
  by_cases inside : lane < maxGroupWidth
  · have flipped : (~~~(below k).bits).getLsbD lane = decide (k ≤ lane) := by
      have shown : (below k).bits.getLsbD lane = decide (lane < k) := by
        refine (contains_below (k := k)).trans ?_
        rw [decide_eq_true inside, Bool.and_true]
      rw [BitVec.getLsbD_not, shown]
      by_cases above : k ≤ lane
      · simp [above, Nat.not_lt.2 above, show lane < 64 from inside]
      · simp [above, Nat.lt_of_not_le above]
    rw [contains, remainingFrom, BitVec.getLsbD_and, flipped]
    rfl
  · have outside : maxGroupWidth ≤ lane := Nat.le_of_not_lt inside
    rw [contains_eq_false outside, contains_eq_false outside]
    rfl

/-! ## The list of lanes -/

theorem pairwise_lanes (m : LaneMask) : m.lanes.Pairwise (· < ·) :=
  List.pairwise_lt_range.filter _

theorem nodup_lanes (m : LaneMask) : m.lanes.Nodup := (pairwise_lanes m).imp Nat.ne_of_lt

/-- Masks whose lanes are those of another that satisfy `p` have the filtered list. -/
theorem lanes_eq_filter {other : LaneMask} {p : Nat → Bool}
    (h : ∀ lane, other.contains lane = (m.contains lane && p lane)) :
    other.lanes = m.lanes.filter p := by
  rw [lanes, lanes, List.filter_filter]
  refine List.filter_congr fun lane _ => ?_
  rw [h, Bool.and_comm]

theorem lanes_remainingFrom (m : LaneMask) (k : Nat) :
    (m.remainingFrom k).lanes = m.lanes.filter (decide <| k ≤ ·) :=
  lanes_eq_filter fun _ => contains_remainingFrom

theorem lanes_inter_below (m : LaneMask) (k : Nat) :
    (m.inter (below k)).lanes = m.lanes.filter (decide <| · < k) := by
  refine lanes_eq_filter fun other => ?_
  rw [contains_inter, contains_below]
  by_cases inside : other < maxGroupWidth
  · simp [inside]
  · rw [contains_eq_false (Nat.le_of_not_lt inside)]
    rfl

/-- Counting bits from the top adds up the lanes of a range. -/
theorem cpopNatRec_eq_length (bits : BitVec 64) (n : Nat) :
    bits.cpopNatRec n 0 = ((List.range n).filter (bits.getLsbD ·)).length := by
  induction n with
  | zero => rfl
  | succ n ih =>
    rw [BitVec.cpopNatRec_succ, BitVec.cpopNatRec_eq, ih, List.range_succ, List.filter_append,
      List.length_append]
    cases h : bits.getLsbD n <;> simp [h]

/-- The count of a mask is the length of its list. -/
theorem count_eq_length (m : LaneMask) : m.count = m.lanes.length := by
  rw [count, BitVec.toNat_cpop, cpopNatRec_eq_length]
  rfl

theorem length_lanes_le (m : LaneMask) : m.lanes.length ≤ maxGroupWidth := by
  have := List.length_filter_le m.contains (List.range maxGroupWidth)
  rwa [List.length_range] at this

/-! ## Rank and select -/

@[simp] theorem remainingFrom_zero (m : LaneMask) : m.remainingFrom 0 = m := by
  refine eq_of_contains fun lane => ?_
  rw [contains_remainingFrom, decide_eq_true (Nat.zero_le lane), Bool.and_true]

/-- The lowest lane is the head of the list. -/
theorem lowestFrom_zero (m : LaneMask) : m.lowestFrom 0 = m.lanes.head? := by
  simp only [lowestFrom, remainingFrom_zero]
  rw [lanes, List.head?_filter]
  split
  · next none =>
    have word : m.bits = 0 := by simpa [isEmpty] using none
    refine (List.find?_eq_none.2 fun lane _ => ?_).symm
    simp [contains, word]
  · next some =>
    have word : m.bits ≠ 0#64 := by simpa [isEmpty] using some
    refine (List.find?_range_eq_some.2 ⟨?_, ?_, fun other lower => ?_⟩).symm
    · exact BitVec.getLsbD_true_ctz_of_ne_zero word
    · exact List.mem_range.2 (lt_of_contains (BitVec.getLsbD_true_ctz_of_ne_zero word))
    · rw [contains, BitVec.getLsbD_false_of_lt_ctz lower]
      rfl

/-- The rank of a lane is its position in the list. -/
theorem rankOf_eq_length (split : m.lanes = done ++ lane :: rest) :
    m.rankOf lane = done.length := by
  have sorted := pairwise_lanes m
  rw [split, List.pairwise_append, List.pairwise_cons] at sorted
  obtain ⟨-, ⟨above, -⟩, below⟩ := sorted
  have all : done.filter (decide <| · < lane) = done :=
    List.filter_eq_self.2 fun other member =>
      decide_eq_true (below other member lane List.mem_cons_self)
  have none : (lane :: rest).filter (decide <| · < lane) = [] := by
    refine List.filter_eq_nil_iff.2 fun other member => ?_
    rw [decide_eq_true_eq, Nat.not_lt]
    rcases List.mem_cons.1 member with rfl | member
    · exact Nat.le_refl other
    · exact Nat.le_of_lt (above other member)
  rw [rankOf, count_eq_length, lanes_inter_below, split, List.filter_append, all, none,
    List.append_nil]

/-- The ranks of the lanes of a mask, in ascending order, count from 0. -/
theorem map_rankOf_lanes (m : LaneMask) : m.lanes.map m.rankOf = List.range m.count := by
  apply List.ext_getElem
  · rw [List.length_map, List.length_range, count_eq_length]
  · intro i inside inside'
    rw [List.length_map] at inside
    -- the lanes before the one at position `i` are the first `i` ones
    have split : m.lanes = m.lanes.take i ++ m.lanes[i] :: m.lanes.drop (i + 1) := by
      rw [← List.drop_eq_getElem_cons, List.take_append_drop]
    rw [List.getElem_map, List.getElem_range, rankOf_eq_length split, List.length_take]
    omega

/-- The lanes of rank below `n` are the first `n` ones. -/
theorem filter_rankOf_lt (m : LaneMask) (n : Nat) :
    m.lanes.filter (decide <| m.rankOf · < n) = m.lanes.take n := by
  suffices h : ∀ (rest done : List Nat), m.lanes = done ++ rest →
      rest.filter (decide <| m.rankOf · < n) = rest.take (n - done.length) from h m.lanes [] rfl
  -- by induction on the lanes whose predecessors are `done`
  intro rest
  induction rest with
  | nil => exact fun _ _ => List.take_nil.symm
  | cons lane rest ih =>
    intro done split
    have later := ih (done ++ [lane]) (by rw [split, List.append_assoc]; rfl)
    rw [List.length_append, List.length_singleton] at later
    rw [List.filter_cons, rankOf_eq_length split, later]
    by_cases first : done.length < n
    · rw [if_pos (decide_eq_true first), show n - done.length = n - (done.length + 1) + 1 by omega]
      rfl
    · rw [if_neg (by simpa using first), Nat.sub_eq_zero_of_le (by omega),
        Nat.sub_eq_zero_of_le (by omega)]
      rfl

/-- The first lanes are those of the lowest ranks. -/
theorem mem_take_lanes (member : lane ∈ m.lanes) : lane ∈ m.lanes.take n ↔ m.rankOf lane < n := by
  rw [← filter_rankOf_lt, List.mem_filter, decide_eq_true_eq]
  exact and_iff_right member

theorem rankOf_lt_count (member : lane ∈ m.lanes) : m.rankOf lane < m.count := by
  obtain ⟨done, rest, split⟩ := List.append_of_mem member
  rw [rankOf_eq_length split, count_eq_length, split, List.length_append, List.length_cons]
  omega

theorem lanes_ne_nil (occupied : m.isEmpty = false) : m.lanes ≠ [] := by
  intro none
  have lowest := lowestFrom_zero m
  simp only [lowestFrom, remainingFrom_zero, occupied, none] at lowest
  cases lowest

/-! ## The lanes left -/

theorem mem_of_mem_remainingFrom (member : lane ∈ (m.remainingFrom k).lanes) : lane ∈ m.lanes := by
  rw [lanes_remainingFrom] at member
  exact List.mem_of_mem_filter member

/-- Once the lowest lane left is used, the others are left. -/
theorem lanes_remainingFrom_succ (left : (m.remainingFrom k).lanes = lane :: rest) :
    (m.remainingFrom (lane + 1)).lanes = rest := by
  have sorted := pairwise_lanes (m.remainingFrom k)
  have member : lane ∈ (m.remainingFrom k).lanes := left ▸ List.mem_cons_self
  rw [mem_lanes, contains_remainingFrom, Bool.and_eq_true, decide_eq_true_eq] at member
  have again : (m.remainingFrom (lane + 1)).lanes =
      (m.remainingFrom k).lanes.filter (decide <| lane + 1 ≤ ·) := by
    refine lanes_eq_filter fun other => ?_
    rw [contains_remainingFrom, contains_remainingFrom, Bool.and_assoc, ← Bool.decide_and]
    refine congrArg (m.contains other && ·) (decide_eq_decide.2 ?_)
    omega
  rw [left, List.pairwise_cons] at sorted
  rw [again, left, List.filter_cons_of_neg (by simp)]
  exact List.filter_eq_self.2 fun other member => decide_eq_true (sorted.1 other member)

end LaneMask

end RegionDispatch
