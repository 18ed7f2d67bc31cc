import Mathlib.Data.Finset.Card
import RegionDispatch.Frame.Arena

/-! # The frame arena as a finite map

The free list of an arena names exactly the empty slots, each once (`Sound`). Over a sound arena
every operation is an update of the finite map `get?`: a new frame goes to an id that was not live,
a release removes one id, and nothing else changes. `live` counts the ids of that map
(`live_eq_card`), so it depends on which ids are live and on nothing else. -/

namespace RegionDispatch

namespace FrameArena

variable {arena : FrameArena}

/-- **Soundness of the free list**: it has no duplicates and names exactly the empty slots. -/
structure Sound (arena : FrameArena) : Prop where
  /-- No slot is free twice. -/
  nodup : arena.free.Nodup
  /-- The free slots are the empty ones. -/
  mem_free : ∀ i, i ∈ arena.free ↔ arena.slots[i]? = some none

/-- The parent link of a live frame. -/
def parentOf (arena : FrameArena) (id : FrameId) : Option FrameId := (arena.get? id).bind (·.parent)

/-! ## Reading -/

theorem isLive_iff {id : FrameId} :
    arena.isLive id = true ↔ ∃ frame, arena.get? id = some frame := by
  rw [isLive, Option.isSome_iff_exists]

theorem isLive_of_get? {id : FrameId} {frame : Frame} (h : arena.get? id = some frame) :
    arena.isLive id = true :=
  isLive_iff.2 ⟨frame, h⟩

/-- A slot holds a frame exactly where the map does. -/
theorem slot_eq_some {id : FrameId} {frame : Frame} :
    arena.slots[id.index]? = some (some frame) ↔ arena.get? id = some frame := by
  rw [get?, Option.join_eq_some_iff]

theorem index_lt_of_isLive {id : FrameId} (h : arena.isLive id = true) :
    id.index < arena.slots.size := by
  obtain ⟨frame, hframe⟩ := isLive_iff.1 h
  exact (Array.getElem?_eq_some_iff.1 (slot_eq_some.2 hframe)).1

/-- Arenas of one size with one list of free slots are equal if they store the same frames. -/
theorem ext_get? {other : FrameArena} (size : arena.slots.size = other.slots.size)
    (free : arena.free = other.free) (frames : ∀ id, arena.get? id = other.get? id) :
    arena = other := by
  obtain ⟨slots, _⟩ := arena
  obtain ⟨slots', _⟩ := other
  refine congrArg₂ FrameArena.mk (Array.ext size fun i inside inside' => ?_) free
  have same := frames ⟨i⟩
  simpa only [get?, Array.getElem?_eq_getElem inside, Array.getElem?_eq_getElem inside',
    Option.join_some] using same

/-- A free slot holds no frame. -/
theorem Sound.get?_of_free (sound : arena.Sound) {i : Nat} (h : i ∈ arena.free) :
    arena.get? ⟨i⟩ = none := by
  rw [get?, (sound.mem_free i).1 h, Option.join_some]

theorem Sound.lt_of_free (sound : arena.Sound) {i : Nat} (h : i ∈ arena.free) :
    i < arena.slots.size :=
  (Array.getElem?_eq_some_iff.1 ((sound.mem_free i).1 h)).1

/-! ## Storing a frame -/

/-- The id the next frame is stored under: the slot released last, or a new one. -/
def nextId (arena : FrameArena) : FrameId :=
  match arena.free with
  | [] => ⟨arena.slots.size⟩
  | i :: _ => ⟨i⟩

@[simp] theorem alloc_fst (arena : FrameArena) (frame : Frame) :
    (arena.alloc frame).1 = arena.nextId := by
  obtain ⟨slots, _ | ⟨i, free⟩⟩ := arena <;> rfl

/-- The id of a new frame was not live. -/
theorem Sound.get?_nextId (sound : arena.Sound) : arena.get? arena.nextId = none := by
  obtain ⟨slots, _ | ⟨i, free⟩⟩ := arena
  · simp [nextId, get?]
  · exact sound.get?_of_free List.mem_cons_self

theorem Sound.ne_nextId (sound : arena.Sound) {id : FrameId} (h : arena.isLive id = true) :
    id ≠ arena.nextId := by
  rintro rfl
  rw [isLive, sound.get?_nextId] at h
  cases h

/-- Storing a frame adds one entry to the map. -/
theorem Sound.get?_alloc (sound : arena.Sound) (frame : Frame) (id : FrameId) :
    (arena.alloc frame).2.get? id = if id = arena.nextId then some frame else arena.get? id := by
  obtain ⟨slots, _ | ⟨i, free⟩⟩ := arena
  · obtain ⟨j⟩ := id
    simp only [alloc, nextId, get?, Array.getElem?_push, FrameId.mk.injEq]
    split <;> rfl
  · obtain ⟨j⟩ := id
    have inside : i < slots.size := sound.lt_of_free List.mem_cons_self
    simp only [alloc, nextId, get?, Array.getElem?_setIfInBounds, FrameId.mk.injEq,
      eq_comm (a := i), inside, if_true]
    split <;> rfl

theorem Sound.alloc (sound : arena.Sound) (frame : Frame) : (arena.alloc frame).2.Sound := by
  obtain ⟨slots, _ | ⟨i, free⟩⟩ := arena
  · refine ⟨List.nodup_nil, fun j => ?_⟩
    have := sound.mem_free j
    simp only [FrameArena.alloc, Array.getElem?_push, List.not_mem_nil, false_iff] at this ⊢
    split
    · simp
    · exact this
  · have nodup := List.nodup_cons.1 sound.nodup
    have inside : i < slots.size := sound.lt_of_free List.mem_cons_self
    refine ⟨nodup.2, fun j => ?_⟩
    have := sound.mem_free j
    simp only [FrameArena.alloc, Array.getElem?_setIfInBounds, List.mem_cons] at this ⊢
    by_cases same : i = j
    · subst same
      simp [inside, nodup.1]
    · rw [if_neg same, ← this, or_iff_right (Ne.symm same)]

/-! ## Releasing a frame -/

theorem release_of_get?_eq_none {id : FrameId} (h : arena.get? id = none) :
    arena.release id = (none, arena) := by
  rw [release, h]

/-- A stored frame is given back. -/
theorem release_fst_of_get? {id : FrameId} {frame : Frame} (h : arena.get? id = some frame) :
    (arena.release id).1 = some frame := by
  rw [release, h]

/-- Releasing removes one entry from the map; an id that is not live changes nothing. -/
theorem get?_release (arena : FrameArena) (id other : FrameId) :
    (arena.release id).2.get? other = if other = id then none else arena.get? other := by
  cases h : arena.get? id with
  | none =>
    rw [release_of_get?_eq_none h]
    split
    · next same => rw [same, h]
    · rfl
  | some frame =>
    obtain ⟨i⟩ := id
    obtain ⟨j⟩ := other
    have inside : i < arena.slots.size := index_lt_of_isLive (isLive_of_get? h)
    simp only [release, h]
    simp only [get?, Array.getElem?_setIfInBounds, FrameId.mk.injEq, eq_comm (a := i), inside,
      if_true]
    split <;> rfl

theorem get?_release_of_ne {id other : FrameId} (h : other ≠ id) :
    (arena.release id).2.get? other = arena.get? other := by
  rw [get?_release, if_neg h]

theorem Sound.release (sound : arena.Sound) (id : FrameId) : (arena.release id).2.Sound := by
  cases h : arena.get? id with
  | none => rw [release_of_get?_eq_none h]; exact sound
  | some frame =>
    obtain ⟨i⟩ := id
    have inside : i < arena.slots.size := index_lt_of_isLive (isLive_of_get? h)
    simp only [FrameArena.release, h]
    refine ⟨List.nodup_cons.2 ⟨fun free => ?_, sound.nodup⟩, fun j => ?_⟩
    · rw [sound.get?_of_free free] at h; cases h
    · simp only [Array.getElem?_setIfInBounds, List.mem_cons, sound.mem_free j]
      by_cases same : i = j
      · subst same
        simp [inside]
      · rw [if_neg same, or_iff_right (Ne.symm same)]

/-! ## Changing a frame in place -/

theorem get?_modify (arena : FrameArena) (id other : FrameId) (f : Frame → Frame) :
    (arena.modify id f).get? other =
      if other = id then (arena.get? other).map f else arena.get? other := by
  obtain ⟨i⟩ := id
  obtain ⟨j⟩ := other
  simp only [modify, get?, Array.getElem?_modify, FrameId.mk.injEq, eq_comm (a := i)]
  split
  · cases h : arena.slots[j]? with
    | none => rfl
    | some slot => cases slot <;> rfl
  · rfl

theorem get?_modify_self (arena : FrameArena) (id : FrameId) (f : Frame → Frame) :
    (arena.modify id f).get? id = (arena.get? id).map f := by
  rw [get?_modify, if_pos rfl]

theorem get?_modify_of_ne {id other : FrameId} (f : Frame → Frame) (h : other ≠ id) :
    (arena.modify id f).get? other = arena.get? other := by
  rw [get?_modify, if_neg h]

/-- There is nothing to change under an id that is not live. -/
theorem modify_of_get?_eq_none {id : FrameId} (f : Frame → Frame) (h : arena.get? id = none) :
    arena.modify id f = arena := by
  refine ext_get? (Array.size_modify ..) rfl fun other => ?_
  rw [get?_modify]
  split
  · next same => rw [same, h, Option.map_none]
  · rfl

@[simp] theorem isLive_modify (arena : FrameArena) (id other : FrameId) (f : Frame → Frame) :
    (arena.modify id f).isLive other = arena.isLive other := by
  rw [isLive, isLive, get?_modify]
  split
  · exact Option.isSome_map
  · rfl

@[simp] theorem nextId_modify (arena : FrameArena) (id : FrameId) (f : Frame → Frame) :
    (arena.modify id f).nextId = arena.nextId := by
  obtain ⟨slots, _ | ⟨i, free⟩⟩ := arena <;> simp [modify, nextId]

theorem Sound.modify (sound : arena.Sound) (id : FrameId) (f : Frame → Frame) :
    (arena.modify id f).Sound := by
  refine ⟨sound.nodup, fun i => ?_⟩
  simp only [FrameArena.modify, Array.getElem?_modify, sound.mem_free i]
  split
  · cases arena.slots[i]? with
    | none => rfl
    | some slot => cases slot <;> simp
  · rfl

/-- Overwriting succeeds exactly at live ids. -/
theorem overwrite_fst (arena : FrameArena) (id : FrameId) (frame : Frame) :
    (arena.overwrite id frame).1 = arena.isLive id := by
  unfold overwrite
  split
  · next live => rw [live]
  · next live => exact (Bool.eq_false_of_not_eq_true live).symm

theorem overwrite_of_get?_eq_none {id : FrameId} (frame : Frame) (h : arena.get? id = none) :
    arena.overwrite id frame = (false, arena) := by
  rw [overwrite, isLive, h]
  rfl

theorem get?_overwrite (arena : FrameArena) (id other : FrameId) (frame : Frame) :
    (arena.overwrite id frame).2.get? other =
      if other = id ∧ arena.isLive id = true then some frame else arena.get? other := by
  by_cases live : arena.isLive id = true
  · obtain ⟨i⟩ := id
    obtain ⟨j⟩ := other
    have inside : i < arena.slots.size := index_lt_of_isLive live
    simp only [overwrite, live, if_true, get?, Array.getElem?_setIfInBounds, FrameId.mk.injEq,
      eq_comm (a := i), inside, and_true]
    split <;> rfl
  · simp only [overwrite, live, and_false, if_false, Bool.false_eq_true]

@[simp] theorem isLive_overwrite (arena : FrameArena) (id other : FrameId) (frame : Frame) :
    (arena.overwrite id frame).2.isLive other = arena.isLive other := by
  rw [isLive, get?_overwrite]
  split
  · next both => rw [both.1, both.2]; rfl
  · rfl

theorem Sound.overwrite (sound : arena.Sound) (id : FrameId) (frame : Frame) :
    (arena.overwrite id frame).2.Sound := by
  unfold FrameArena.overwrite
  split
  · next live =>
    obtain ⟨old, hold⟩ := isLive_iff.1 live
    refine ⟨sound.nodup, fun i => ?_⟩
    simp only [Array.getElem?_setIfInBounds, sound.mem_free i]
    split
    · next same =>
      subst same
      have inside : id.index < arena.slots.size := index_lt_of_isLive live
      rw [slot_eq_some.2 hold]
      simp [inside]
    · rfl
  · exact sound

/-! ## The number of frames -/

theorem Sound.length_free_le (sound : arena.Sound) : arena.free.length ≤ arena.slots.size := by
  have within : arena.free ⊆ List.range arena.slots.size := fun i free =>
    List.mem_range.2 (sound.lt_of_free free)
  simpa using (sound.nodup.subperm within).length_le

/-- `live` counts the live ids. -/
theorem Sound.live_eq_card (sound : arena.Sound) :
    arena.live = ((Finset.range arena.slots.size).filter fun i =>
      arena.isLive ⟨i⟩ = true).card := by
  -- the free list names the ids that are not live, each once
  have dead : ((Finset.range arena.slots.size).filter fun i => ¬arena.isLive ⟨i⟩ = true)
      = arena.free.toFinset := by
    ext i
    rw [Finset.mem_filter, Finset.mem_range, List.mem_toFinset, sound.mem_free, isLive, get?]
    constructor
    · rintro ⟨inside, gone⟩
      rw [Array.getElem?_eq_getElem inside] at gone ⊢
      cases h : arena.slots[i] with
      | none => rfl
      | some frame => simp [h] at gone
    · intro free
      exact ⟨(Array.getElem?_eq_some_iff.1 free).1, by simp [free]⟩
  have parts := Finset.card_filter_add_card_filter_not (s := Finset.range arena.slots.size)
    (fun i => arena.isLive ⟨i⟩ = true)
  rw [dead, List.toFinset_card_of_nodup sound.nodup, Finset.card_range] at parts
  rw [live]
  omega

/-- Sound arenas with the same live ids hold equally many frames. -/
theorem Sound.live_congr {other : FrameArena} (sound : arena.Sound) (sound' : other.Sound)
    (same : ∀ id, arena.isLive id = other.isLive id) : arena.live = other.live := by
  rw [sound.live_eq_card, sound'.live_eq_card]
  congr 1
  ext i
  simp only [Finset.mem_filter, Finset.mem_range, same]
  refine and_congr_left fun live => ?_
  exact ⟨fun _ => index_lt_of_isLive live, fun _ => index_lt_of_isLive ((same _).trans live)⟩

theorem Sound.live_alloc (sound : arena.Sound) (frame : Frame) :
    (arena.alloc frame).2.live = arena.live + 1 := by
  have bound := sound.length_free_le
  obtain ⟨slots, _ | ⟨i, free⟩⟩ := arena
  · simp [FrameArena.alloc, live]
  · simp only [FrameArena.alloc, live, Array.size_setIfInBounds, List.length_cons] at bound ⊢
    omega

theorem Sound.live_release (sound : arena.Sound) {id : FrameId} (h : arena.isLive id = true) :
    (arena.release id).2.live + 1 = arena.live := by
  have bound := (sound.release id).length_free_le
  obtain ⟨frame, hframe⟩ := isLive_iff.1 h
  simp only [FrameArena.release, hframe, live, Array.size_setIfInBounds, List.length_cons]
    at bound ⊢
  omega

@[simp] theorem live_modify (arena : FrameArena) (id : FrameId) (f : Frame → Frame) :
    (arena.modify id f).live = arena.live := by
  simp [modify, live]

@[simp] theorem live_overwrite (arena : FrameArena) (id : FrameId) (frame : Frame) :
    (arena.overwrite id frame).2.live = arena.live := by
  unfold overwrite
  split <;> simp [live]

end FrameArena

end RegionDispatch
