import Mathlib.Data.List.Basic
import RegionDispatch.Block.Barrier

/-! # Level barriers

A barrier is *level* while all its participants have arrived equally often. One whose participants
are the first lanes of the block starts level, and stays level when everyone arrives.

* **`Barrier.level size count n`** — the barrier of `size` lanes at which each of the first `count`
  ones has arrived `n` times, and the others take no part.
* `Barrier.ofParticipants_range`, `Barrier.syncAll_level` — a new barrier, and one more arrival.
* `Barrier.aligned_level` — the count that the participants of a level barrier share. -/

namespace RegionDispatch

/-- Writing one value to some entries of an array, one entry after the other. -/
theorem getElem?_foldl_setIfInBounds {α : Type} (value : α) (indices : List Nat) :
    ∀ (array : Array α) (i : Nat),
      (indices.foldl (fun array index => array.setIfInBounds index value) array)[i]? =
        if i ∈ indices then array[i]?.map fun _ => value else array[i]? := by
  induction indices with
  | nil => exact fun array i => (if_neg List.not_mem_nil).symm
  | cons index indices ih =>
    intro array i
    rw [List.foldl_cons, ih, Array.getElem?_setIfInBounds]
    by_cases here : i = index
    · subst here
      rcases Nat.lt_or_ge i array.size with inside | outside
      · simp [inside]
      · simp [Nat.not_lt.2 outside]
    · simp [here, Ne.symm here]

namespace Barrier

/-- The barrier of `size` lanes at which the first `count` ones have arrived `n` times each. -/
def level (size count n : Nat) : Barrier :=
  ⟨(Array.range size).map fun lane => if lane < count then some n else none⟩

variable {size count n lane : Nat}

/-- Nobody has arrived yet. -/
theorem ofParticipants_range (size count : Nat) :
    ofParticipants size (List.range count) = level size count 0 := by
  refine congrArg mk (Array.ext_getElem? fun lane => ?_)
  rw [getElem?_foldl_setIfInBounds, Array.getElem?_replicate, Array.getElem?_map,
    Array.getElem?_range]
  by_cases inside : lane < size
  · by_cases among : lane < count <;> simp [inside, among]
  · simp [inside]

/-- Everyone arrives once more. -/
@[simp] theorem syncAll_level : (level size count n).syncAll = level size count (n + 1) := by
  refine congrArg mk ?_
  rw [level, Array.map_map]
  refine congrArg (Array.map · _) (funext fun lane => ?_)
  rw [Function.comp_apply]
  split <;> rfl

/-- Arrivals of one lane. -/
theorem arrivalsOf_level (few : count ≤ size) :
    (level size count n).arrivalsOf lane = if lane < count then some n else none := by
  rw [arrivalsOf, level, Array.getElem?_map, Array.getElem?_range]
  by_cases among : lane < count
  · rw [if_pos (Nat.lt_of_lt_of_le among few), if_pos among]
    simp [among]
  · rw [if_neg among]
    split <;> simp [among]

/-- Arrivals of all lanes. -/
theorem counts_level :
    (level size count n).counts =
      (List.range size).map fun lane => if lane < count then n else 0 := by
  rw [counts, level, Array.toList_map, Array.toList_range, List.map_map]
  refine List.map_congr_left fun lane _ => ?_
  rw [Function.comp_apply]
  split <;> rfl

/-- The participants have the same count. -/
theorem participantCounts_level :
    (level size count n).participantCounts = List.replicate (min size count) n := by
  rw [participantCounts, level, Array.toList_map, Array.toList_range, List.filterMap_map]
  induction size with
  | zero => simp
  | succ size ih =>
    rw [List.range_succ, List.filterMap_append, ih]
    by_cases among : size < count
    · rw [Nat.min_eq_left (Nat.le_of_lt among), Nat.min_eq_left among, List.replicate_succ']
      simp [among]
    · have few := Nat.le_of_not_lt among
      rw [Nat.min_eq_right few, Nat.min_eq_right (Nat.le_succ_of_le few)]
      simp [among]

/-- Equal counts have no other count among them. -/
theorem foldl_replicate_of_fixed {f : Nat → Nat → Nat} (fixed : f n n = n) (k : Nat) :
    (List.replicate k n).foldl f n = n := by
  induction k with
  | zero => rfl
  | succ k ih => rw [List.replicate_succ, List.foldl_cons, fixed, ih]

/-- **A level barrier is aligned.** -/
theorem aligned_level (lanes : 0 < size) (participants : 0 < count) :
    (level size count n).aligned = .ok n := by
  obtain ⟨k, hk⟩ := Nat.exists_eq_succ_of_ne_zero
    (Nat.ne_of_gt (Nat.lt_min.2 ⟨lanes, participants⟩))
  rw [aligned, participantCounts_level, hk, List.replicate_succ]
  simp only [foldl_replicate_of_fixed (Nat.min_self n), foldl_replicate_of_fixed (Nat.max_self n),
    if_true]

/-- A block without lanes has a level barrier as well, of no arrivals at all. -/
theorem exists_aligned_level (size count n : Nat) (participants : 0 < size → 0 < count) :
    ∃ phases, (level size count n).aligned = .ok phases ∧
      level size count n = level size count phases ∧ (0 < size → phases = n) := by
  rcases Nat.eq_zero_or_pos size with rfl | lanes
  · have empty (n : Nat) : level 0 count n = ⟨#[]⟩ := by simp [level]
    rw [empty n]
    exact ⟨0, rfl, (empty 0).symm, fun lanes => absurd lanes (Nat.lt_irrefl 0)⟩
  · exact ⟨n, aligned_level lanes (participants lanes), rfl, fun _ => rfl⟩

end Barrier

end RegionDispatch
