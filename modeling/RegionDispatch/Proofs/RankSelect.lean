import Mathlib.Data.Finset.Sort
import RegionDispatch.Proofs.LaneMask

/-! # Rank and select

A mask is the set of its lanes, and a list of lanes is a mask as far as the lanes fit the word. The
ascending list numbers the lanes of a mask from 0: `rankOf` finds the number of a lane, the list the
lane of a number. Every cursor cuts the mask in two, and the lowest lane above it is where the rest
continues. All of this holds for cursors and lanes of any size, beyond the word as well.

* `LaneMask.erase` — a mask without one lane.
* `LaneMask.ofLanes_lanes`, `LaneMask.lanes_ofLanes` — masks and sorted lists of lanes.
* `LaneMask.getElem?_lanes` — rank and select undo each other.
* `LaneMask.isLeast_of_lowestFrom`, `LaneMask.erase_remainingFrom` — the next lane at a cursor.
* **`LaneMask.rankSelect`** — all of it, for every mask and every list. -/

namespace RegionDispatch

namespace LaneMask

variable {m : LaneMask} {lane k i : Nat}

/-! ## Masks as sets of lanes -/

/-- The mask without `lane`. -/
def erase (m : LaneMask) (lane : Nat) : LaneMask := ⟨m.bits &&& ~~~bit lane⟩

/-- The word of one lane. -/
theorem getLsbD_bit :
    (bit k).getLsbD lane = (decide (lane = k) && decide (lane < maxGroupWidth)) := by
  unfold bit
  split
  · next inside =>
    rw [BitVec.getLsbD_shiftLeft, BitVec.getLsbD_one]
    rcases Nat.lt_trichotomy lane k with lower | rfl | higher
    · simp [lower, Nat.ne_of_lt lower]
    · simp [inside, show lane < 64 from inside]
    · simp [Nat.ne_of_gt higher, show ¬lane - k = 0 by omega]
  · next outside =>
    rw [BitVec.getLsbD_zero]
    by_cases same : lane = k
    · simp [same, outside]
    · simp [same]

@[simp] theorem contains_insert :
    (m.insert k).contains lane =
      (m.contains lane || (decide (lane = k) && decide (lane < maxGroupWidth))) := by
  rw [contains, insert, BitVec.getLsbD_or, getLsbD_bit]
  rfl

@[simp] theorem contains_erase :
    (m.erase k).contains lane = (m.contains lane && !decide (lane = k)) := by
  by_cases inside : lane < maxGroupWidth
  · rw [contains, erase, BitVec.getLsbD_and, BitVec.getLsbD_not, getLsbD_bit]
    simp [inside, show lane < 64 from inside, contains]
  · have outside : maxGroupWidth ≤ lane := Nat.le_of_not_lt inside
    rw [contains_eq_false outside, contains_eq_false outside]
    rfl

/-- Adding lanes one after the other adds those that fit the word. -/
theorem contains_foldl_insert (list : List Nat) (m : LaneMask) (lane : Nat) :
    (list.foldl insert m).contains lane =
      (m.contains lane || (decide (lane ∈ list) && decide (lane < maxGroupWidth))) := by
  -- by induction on the list, for every mask the lanes may be added to
  induction list generalizing m with
  | nil => simp
  | cons first list ih =>
    rw [List.foldl_cons, ih, contains_insert]
    by_cases inside : lane < maxGroupWidth
    · simp [inside, Bool.or_assoc]
    · simp [inside]

@[simp] theorem contains_ofLanes (list : List Nat) :
    (ofLanes list).contains lane = (decide (lane ∈ list) && decide (lane < maxGroupWidth)) := by
  rw [ofLanes, contains_foldl_insert, contains_empty, Bool.false_or]
  by_cases inside : lane < maxGroupWidth <;> simp [inside]

/-- A mask is the mask of its lanes. -/
theorem ofLanes_lanes (m : LaneMask) : ofLanes m.lanes = m := by
  refine eq_of_contains fun lane => ?_
  rw [contains_ofLanes]
  cases member : m.contains lane with
  | false => simp [member]
  | true => simp [member, lt_of_contains member]

/-- The lanes of a list's mask are the lanes of the list that fit the word, sorted. -/
theorem lanes_ofLanes (list : List Nat) :
    (ofLanes list).lanes = (list.toFinset.filter (· < maxGroupWidth)).sort := by
  have ascending : (ofLanes list).lanes.Pairwise (· ≤ ·) :=
    (pairwise_lanes _).imp Nat.le_of_lt
  have members : (ofLanes list).lanes.toFinset = list.toFinset.filter (· < maxGroupWidth) := by
    ext lane
    simp
  rw [← members]
  exact ((List.toFinset_sort _ (nodup_lanes _)).mpr ascending).symm

/-! ## Numbering the lanes -/

/-- The rank of a lane is its place. -/
theorem rankOf_of_getElem? (found : m.lanes[i]? = some lane) : m.rankOf lane = i := by
  have ranks : (m.lanes.map m.rankOf)[i]? = some (m.rankOf lane) := by
    rw [List.getElem?_map, found]
    rfl
  -- places count from 0 as ranks do
  rw [map_rankOf_lanes] at ranks
  obtain ⟨inside, rank⟩ := List.getElem?_eq_some_iff.mp ranks
  rw [← rank, List.getElem_range]

/-- **Rank and select undo each other.** The lane at place `i` is the lane of rank `i`. -/
theorem getElem?_lanes : m.lanes[i]? = some lane ↔ lane ∈ m.lanes ∧ m.rankOf lane = i := by
  constructor
  · intro found
    exact ⟨List.mem_of_getElem? found, rankOf_of_getElem? found⟩
  · rintro ⟨member, rank⟩
    obtain ⟨place, found⟩ := List.mem_iff_getElem?.mp member
    rwa [← rank, rankOf_of_getElem? found]

/-- A cursor cuts the mask into the lanes below it and the lanes left. -/
theorem rankOf_add_count_remainingFrom (m : LaneMask) (k : Nat) :
    m.rankOf k + (m.remainingFrom k).count = m.count := by
  have left : m.lanes.filter (decide <| k ≤ ·) = m.lanes.filter fun lane => !decide (lane < k) := by
    refine List.filter_congr fun lane _ => ?_
    simp [← decide_not]
  rw [rankOf, count_eq_length, count_eq_length, count_eq_length, lanes_inter_below,
    lanes_remainingFrom, left]
  exact (List.length_eq_length_filter_add _).symm

/-! ## The next lane -/

theorem mem_lanes_remainingFrom :
    lane ∈ (m.remainingFrom k).lanes ↔ lane ∈ m.lanes ∧ k ≤ lane := by
  simp

/-- The first lane of the list is the least one. -/
theorem isLeast_of_head? (first : m.lanes.head? = some lane) : IsLeast {l | l ∈ m.lanes} lane := by
  obtain ⟨rest, listed⟩ := List.head?_eq_some_iff.mp first
  have sorted := pairwise_lanes m
  rw [listed, List.pairwise_cons] at sorted
  refine ⟨?_, ?_⟩
  · exact List.mem_of_head? first
  · intro other (member : other ∈ m.lanes)
    rw [listed] at member
    rcases List.mem_cons.mp member with rfl | later
    · exact Nat.le_refl other
    · exact Nat.le_of_lt (sorted.1 other later)

theorem lowestFrom_eq_head? (m : LaneMask) (k : Nat) :
    m.lowestFrom k = (m.remainingFrom k).lanes.head? := by
  rw [← lowestFrom_zero]
  simp only [lowestFrom, remainingFrom_zero]

theorem isLeast_of_lowestFrom (next : m.lowestFrom k = some lane) :
    IsLeast {l | l ∈ m.lanes ∧ k ≤ l} lane := by
  rw [lowestFrom_eq_head?] at next
  have least := isLeast_of_head? next
  simpa only [mem_lanes_remainingFrom] using least

theorem lowestFrom_eq_none : m.lowestFrom k = none ↔ ∀ l ∈ m.lanes, l < k := by
  rw [lowestFrom_eq_head?, List.head?_eq_none_iff, List.eq_nil_iff_forall_not_mem]
  simp only [mem_lanes_remainingFrom, not_and, Nat.not_le]

/-- The lowest lane at or above a cursor is the least one there. -/
theorem lowestFrom_eq_some :
    m.lowestFrom k = some lane ↔ IsLeast {l | l ∈ m.lanes ∧ k ≤ l} lane := by
  constructor
  · exact isLeast_of_lowestFrom
  · intro least
    cases next : m.lowestFrom k with
    | none =>
      obtain ⟨member, above⟩ := least.1
      have below := lowestFrom_eq_none.mp next lane member
      omega
    | some first =>
      rw [(isLeast_of_lowestFrom next).unique least]

/-- Without the next lane, what is left is what is left behind it. -/
theorem erase_remainingFrom (next : m.lowestFrom k = some lane) :
    (m.remainingFrom k).erase lane = m.remainingFrom (lane + 1) := by
  obtain ⟨⟨-, above⟩, least⟩ := isLeast_of_lowestFrom next
  refine eq_of_contains fun other => ?_
  simp only [contains_erase, contains_remainingFrom]
  cases member : m.contains other with
  | false => rfl
  | true =>
    -- no lane that is left comes before the next one
    have apart : k ≤ other → lane ≤ other := fun left =>
      least ⟨mem_lanes.mpr member, left⟩
    rw [Bool.true_and, Bool.true_and, ← decide_not, ← Bool.decide_and, decide_eq_decide]
    omega

/-! ## Every mask -/

/-- **What the numbering of the lanes of a mask comes to.** -/
structure RankSelect (m : LaneMask) : Prop where
  /-- The lanes are listed in ascending order, each once. -/
  pairwise : m.lanes.Pairwise (· < ·)
  /-- They are the bits of the word that are set. -/
  mem_iff : ∀ lane, lane ∈ m.lanes ↔ m.toNat.testBit lane = true
  /-- Their mask is the mask itself. -/
  ofLanes_eq : ofLanes m.lanes = m
  /-- They are as many as the mask counts. -/
  count_eq : m.count = m.lanes.length
  /-- The lane at place `i` is the lane of rank `i`. -/
  getElem?_iff : ∀ i lane, m.lanes[i]? = some lane ↔ lane ∈ m.lanes ∧ m.rankOf lane = i
  /-- Every cursor cuts the count in two. -/
  rankOf_add : ∀ k, m.rankOf k + (m.remainingFrom k).count = m.count
  /-- The next lane at a cursor is the least one at or above it. -/
  lowestFrom_some : ∀ k lane,
    m.lowestFrom k = some lane ↔ IsLeast {l | l ∈ m.lanes ∧ k ≤ l} lane
  /-- There is none where all lanes are below the cursor. -/
  lowestFrom_none : ∀ k, m.lowestFrom k = none ↔ ∀ l ∈ m.lanes, l < k
  /-- Without the next lane, the cursor may as well stand behind it. -/
  erase_eq : ∀ k lane, m.lowestFrom k = some lane →
    (m.remainingFrom k).erase lane = m.remainingFrom (lane + 1)

/-- **Rank and select are inverse, for every mask**; and the mask of any list of lanes lists those
that fit the word, each once and in ascending order. -/
theorem rankSelect (m : LaneMask) (list : List Nat) :
    m.RankSelect ∧ (ofLanes list).lanes = (list.toFinset.filter (· < maxGroupWidth)).sort := by
  refine ⟨?_, lanes_ofLanes list⟩
  exact {
    pairwise := pairwise_lanes m
    mem_iff := fun _ => mem_lanes
    ofLanes_eq := ofLanes_lanes m
    count_eq := count_eq_length m
    getElem?_iff := fun _ _ => getElem?_lanes
    rankOf_add := rankOf_add_count_remainingFrom m
    lowestFrom_some := fun _ _ => lowestFrom_eq_some
    lowestFrom_none := fun _ => lowestFrom_eq_none
    erase_eq := fun _ _ => erase_remainingFrom }

/-- Of the five lanes named here two fit the word, and lane 63 is the second one. -/
example : (ofLanes [64, 63, 5, 70, 5, 63, 4294967295]).lanes = [5, 63] ∧
    (ofLanes [64, 63, 5, 70, 5, 63, 4294967295]).rankOf 63 = 1 := by
  decide

end LaneMask

end RegionDispatch
