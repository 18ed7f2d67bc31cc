import Mathlib.Data.Finmap
import Mathlib.Order.Bounds.Basic
import RegionDispatch.Proofs.Frame.Arena

/-! # Histories of the frame arena

An arena that starts out empty and serves any calls, on ids that are live, that were released
before, or that were never given out. Next to it a finite map serves the same calls. It has neither
slots nor a free list, and all it is told of the arena is the id that each new frame got. The two
store the same frames, and the slots are recycled so well that there are never more of them than
the map had entries at one time.

* `ArenaCall`, **`ArenaEvent`**, `ArenaCall.perform` — a call, and the call together with the id of
  a new frame.
* **`ArenaEvent.apply`**, `FrameArena.stored` — what an event, and a sequence of calls, makes of the
  map.
* `FrameArena.Stores` — an arena in order that stores what a map says.
* **`FrameArena.Recycles`** — what holds of the arena after a sequence of calls, and
  `FrameArena.recycles_of_calls`, that it does. -/

namespace RegionDispatch

/-- Frames by id. -/
abbrev FrameMap := Finmap fun _ : FrameId => Frame

/-- A call on an arena. -/
inductive ArenaCall where
  /-- Stores a frame. -/
  | alloc (frame : Frame)
  /-- Removes a frame. -/
  | release (id : FrameId)
  /-- Writes to a frame in place. -/
  | modify (id : FrameId) (f : Frame → Frame)
  /-- Replaces a frame. -/
  | overwrite (id : FrameId) (frame : Frame)

/-- A call, with the id a new frame is stored under. -/
inductive ArenaEvent where
  /-- A frame is stored under `fresh`. -/
  | alloc (frame : Frame) (fresh : FrameId)
  /-- A frame is to be removed. -/
  | release (id : FrameId)
  /-- A frame is to be written to. -/
  | modify (id : FrameId) (f : Frame → Frame)
  /-- A frame is to be replaced. -/
  | overwrite (id : FrameId) (frame : Frame)

/-- Serves a call. -/
def ArenaCall.perform : ArenaCall → FrameArena → ArenaEvent × FrameArena
  | alloc frame, arena => (.alloc frame (arena.alloc frame).1, (arena.alloc frame).2)
  | release id, arena => (.release id, (arena.release id).2)
  | modify id f, arena => (.modify id f, arena.modify id f)
  | overwrite id frame, arena => (.overwrite id frame, (arena.overwrite id frame).2)

namespace ArenaEvent

/-- What an event makes of a map: only a new frame adds an id, and what is not there is neither
written to nor replaced. -/
def apply (stored : FrameMap) : ArenaEvent → FrameMap
  | alloc frame fresh => stored.insert fresh frame
  | release id => stored.erase id
  | modify id f =>
    match stored.lookup id with
    | some frame => stored.insert id (f frame)
    | none => stored
  | overwrite id frame => if id ∈ stored then stored.insert id frame else stored

end ArenaEvent

namespace FrameMap

variable {stored : FrameMap} {id other : FrameId}

theorem lookup_insert_ite (frame : Frame) :
    (stored.insert id frame).lookup other =
      if other = id then some frame else stored.lookup other := by
  split
  · next same =>
    rw [same, Finmap.lookup_insert]
  · next distinct => rw [Finmap.lookup_insert_of_ne _ distinct]

theorem lookup_erase_ite :
    (stored.erase id).lookup other = if other = id then none else stored.lookup other := by
  split
  · next same => rw [same, Finmap.lookup_erase]
  · next distinct => rw [Finmap.lookup_erase_ne distinct]

end FrameMap

namespace FrameArena

variable {arena : FrameArena} {map : FrameMap}

/-- A sequence of calls as events, and the arena it leads to. -/
def run : List ArenaCall → FrameArena → List ArenaEvent × FrameArena
  | [], arena => ([], arena)
  | call :: calls, arena =>
    let (event, after) := call.perform arena
    let (events, last) := run calls after
    (event :: events, last)

theorem run_concat (calls : List ArenaCall) (call : ArenaCall) (arena : FrameArena) :
    run (calls ++ [call]) arena =
      ((run calls arena).1 ++ [(call.perform (run calls arena).2).1],
        (call.perform (run calls arena).2).2) := by
  induction calls generalizing arena with
  | nil => rfl
  | cons first calls ih => simp only [List.cons_append, run, ih]

/-- The slots that hold a frame. -/
def occupied (arena : FrameArena) : Finset Nat :=
  (Finset.range arena.slots.size).filter fun i => arena.isLive ⟨i⟩ = true

/-- **An arena in order** that stores the frames of a map. -/
structure Stores (map : FrameMap) (arena : FrameArena) : Prop where
  sound : arena.Sound
  /-- Under every id stands what the map has there. -/
  frames : ∀ id, arena.get? id = map.lookup id

/-! ## One call -/

/-- Every call keeps the free list in order. -/
theorem Sound.perform (sound : arena.Sound) (call : ArenaCall) : (call.perform arena).2.Sound := by
  cases call with
  | alloc frame => exact sound.alloc frame
  | release id => exact sound.release id
  | modify id f => exact sound.modify id f
  | overwrite id frame => exact sound.overwrite id frame

namespace Stores

variable (h : Stores map arena)

include h

theorem isLive_iff_mem {id : FrameId} : arena.isLive id = true ↔ id ∈ map := by
  rw [isLive, h.frames, Finmap.lookup_isSome]

/-- An id that the map does not have is dead. -/
theorem get?_eq_none {id : FrameId} (absent : id ∉ map) : arena.get? id = none := by
  rw [h.frames, Finmap.lookup_eq_none.2 absent]

/-- **One call** makes of the arena what its event makes of the map. -/
theorem perform (call : ArenaCall) :
    Stores ((call.perform arena).1.apply map) (call.perform arena).2 := by
  refine ⟨h.sound.perform call, fun other => ?_⟩
  cases call with
  | alloc frame =>
    rw [ArenaCall.perform, ArenaEvent.apply, FrameMap.lookup_insert_ite, alloc_fst, ← h.frames]
    exact h.sound.get?_alloc frame other
  | release id =>
    rw [ArenaCall.perform, ArenaEvent.apply, FrameMap.lookup_erase_ite, ← h.frames]
    exact get?_release arena id other
  | modify id f =>
    refine (get?_modify arena id other f).trans ?_
    rw [ArenaCall.perform, ArenaEvent.apply]
    cases found : map.lookup id with
    | none =>
      -- the map stays as it is, and so does the arena: there is nothing to write to
      split
      · next same => rw [h.frames, same, found, Option.map_none]
      · exact h.frames other
    | some frame =>
      rw [FrameMap.lookup_insert_ite, ← h.frames]
      refine ite_congr rfl (fun same => ?_) fun _ => rfl
      rw [same, h.frames, found, Option.map_some]
  | overwrite id frame =>
    refine (get?_overwrite arena id other frame).trans ?_
    rw [ArenaCall.perform, ArenaEvent.apply]
    by_cases live : id ∈ map
    · rw [if_pos live, FrameMap.lookup_insert_ite, ← h.frames]
      exact if_congr (and_iff_left (h.isLive_iff_mem.2 live)) rfl rfl
    · rw [if_neg live, if_neg fun both => live (h.isLive_iff_mem.1 both.2), h.frames]

/-- The occupied slots are the ids of the map. -/
theorem card_occupied : arena.occupied.card = map.keys.card := by
  -- an id is the number of its slot
  have same : map.keys = arena.occupied.map ⟨FrameId.mk, fun _ _ => FrameId.mk.inj⟩ := by
    ext id
    rw [Finmap.mem_keys, ← h.isLive_iff_mem, Finset.mem_map]
    constructor
    · intro live
      refine ⟨id.index, Finset.mem_filter.2 ⟨?_, live⟩, rfl⟩
      exact Finset.mem_range.2 (index_lt_of_isLive live)
    · rintro ⟨i, occupied, rfl⟩
      exact (Finset.mem_filter.1 occupied).2
  rw [same, Finset.card_map]

theorem live_eq : arena.live = map.keys.card :=
  h.sound.live_eq_card.trans h.card_occupied

end Stores

/-- A new slot is made only where all slots are occupied. -/
theorem Sound.size_perform (sound : arena.Sound) (call : ArenaCall) :
    (call.perform arena).2.slots.size = max arena.slots.size (call.perform arena).2.live := by
  have bound := sound.length_free_le
  have same {after : FrameArena} (size : after.slots.size = arena.slots.size) :
      after.slots.size = max arena.slots.size after.live := by
    rw [live, size, Nat.max_eq_left (Nat.sub_le _ _)]
  cases call with
  | alloc frame =>
    obtain ⟨slots, _ | ⟨i, free⟩⟩ := arena
    · simp [ArenaCall.perform, FrameArena.alloc, live]
    · exact same (Array.size_setIfInBounds ..)
  | release id =>
    refine same ?_
    simp only [ArenaCall.perform, FrameArena.release]
    split
    · rfl
    · exact Array.size_setIfInBounds ..
  | modify id f => exact same (Array.size_modify ..)
  | overwrite id frame =>
    refine same ?_
    simp only [ArenaCall.perform, FrameArena.overwrite]
    split
    · exact Array.size_setIfInBounds ..
    · rfl

/-! ## All calls -/

/-- The arena that a sequence of calls leads to from an empty one. -/
def after (calls : List ArenaCall) : FrameArena := (run calls {}).2

/-- **The frames that a sequence of calls stores** and does not remove again, each as it was stored,
replaced or written to last. -/
def stored (calls : List ArenaCall) : FrameMap := (run calls {}).1.foldl ArenaEvent.apply ∅

theorem after_concat (calls : List ArenaCall) (call : ArenaCall) :
    after (calls ++ [call]) = (call.perform (after calls)).2 :=
  congrArg Prod.snd (run_concat calls call {})

theorem stored_concat (calls : List ArenaCall) (call : ArenaCall) :
    stored (calls ++ [call]) = (call.perform (after calls)).1.apply (stored calls) := by
  rw [stored, run_concat, List.foldl_concat]
  rfl

/-- **The arena stores what the map says**, after any calls. -/
theorem stores_after (calls : List ArenaCall) : Stores (stored calls) (after calls) := by
  induction calls using List.reverseRecOn with
  | nil => exact ⟨⟨List.nodup_nil, fun i => by simp [after, run]⟩, fun id => rfl⟩
  | append_singleton calls call ih =>
    rw [after_concat, stored_concat]
    exact ih.perform call

/-- There are as many slots as the map ever had entries at one time. -/
theorem isGreatest_size_after (calls : List ArenaCall) :
    IsGreatest {n | ∃ past, past <+: calls ∧ (stored past).keys.card = n}
      (after calls).slots.size := by
  -- by induction on the calls, the last one at the end: it adds one moment to those that count
  induction calls using List.reverseRecOn with
  | nil =>
    refine ⟨⟨[], List.prefix_rfl, rfl⟩, ?_⟩
    rintro n ⟨past, before, rfl⟩
    rw [List.prefix_nil.1 before]
    exact Nat.zero_le _
  | append_singleton calls call ih =>
    obtain ⟨⟨past, before, most⟩, bound⟩ := ih
    have size := (stores_after calls).sound.size_perform call
    rw [← after_concat, (stores_after _).live_eq] at size
    rw [size, ← most]
    refine ⟨?_, ?_⟩
    · rcases le_total (stored (calls ++ [call])).keys.card (stored past).keys.card with less | more
      · exact ⟨past, before.trans (List.prefix_append _ _), (max_eq_left less).symm⟩
      · exact ⟨_, List.prefix_rfl, (max_eq_right more).symm⟩
    · rintro n ⟨other, earlier, rfl⟩
      rcases List.prefix_concat_iff.1 earlier with rfl | earlier
      · exact le_max_right _ _
      · exact le_max_of_le_left (most ▸ bound ⟨other, earlier, rfl⟩)

/-- **What holds after a sequence of calls** on an arena that was empty. Which frames there are, and
how many, is said by the calls alone, given the ids of new frames. -/
structure Recycles (calls : List ArenaCall) : Prop where
  /-- No slot is free twice. -/
  nodup_free : (after calls).free.Nodup
  /-- The free slots are the empty ones. -/
  mem_free_iff : ∀ i, i ∈ (after calls).free ↔ (after calls).slots[i]? = some none
  /-- The number of frames is the number of occupied slots. -/
  live_eq : (after calls).live = (after calls).occupied.card
  /-- The occupied slots are as many as there are frames stored and not removed again. -/
  card_occupied : (after calls).occupied.card = (stored calls).keys.card
  /-- The number of slots is the greatest number of frames there ever was. -/
  isGreatest_size : IsGreatest {n | ∃ past, past <+: calls ∧ (stored past).keys.card = n}
    (after calls).slots.size
  /-- Under a live id stands the last frame that was put there, under any other id none. -/
  get?_eq : ∀ id, (after calls).get? id = (stored calls).lookup id
  /-- A new frame goes to an id that is not live, and no other frame changes. -/
  alloc : ∀ frame, ((after calls).alloc frame).1 ∉ stored calls ∧
    ((after calls).alloc frame).2.get? =
      Function.update (after calls).get? ((after calls).alloc frame).1 (some frame)
  /-- A stored frame is given back when it is released, its id is dead from then on, and no other
  frame changes. -/
  release : ∀ id frame, (stored calls).lookup id = some frame →
    ((after calls).release id).1 = some frame ∧
    ((after calls).release id).2.get? = Function.update (after calls).get? id none
  /-- A stored frame is written to in place, and no other frame changes. -/
  modify : ∀ id f frame, (stored calls).lookup id = some frame →
    ((after calls).modify id f).get? = Function.update (after calls).get? id (some (f frame))
  /-- A stored frame is replaced, and no other frame changes. -/
  overwrite : ∀ id frame, id ∈ stored calls →
    ((after calls).overwrite id frame).1 = true ∧
    ((after calls).overwrite id frame).2.get? =
      Function.update (after calls).get? id (some frame)
  /-- Where there is no frame, none can be released. -/
  release_of_dead : ∀ id, id ∉ stored calls → (after calls).release id = (none, after calls)
  /-- Nor can it be written to. -/
  modify_of_dead : ∀ id f, id ∉ stored calls → (after calls).modify id f = after calls
  /-- Nor can it be replaced. -/
  overwrite_of_dead : ∀ id frame, id ∉ stored calls →
    (after calls).overwrite id frame = (false, after calls)

/-- **The arena is a finite map that recycles its slots**, whatever calls it serves. -/
theorem recycles_of_calls (calls : List ArenaCall) : Recycles calls where
  nodup_free := (stores_after calls).sound.nodup
  mem_free_iff := (stores_after calls).sound.mem_free
  live_eq := (stores_after calls).sound.live_eq_card
  card_occupied := (stores_after calls).card_occupied
  isGreatest_size := isGreatest_size_after calls
  get?_eq := (stores_after calls).frames
  alloc frame := by
    have h := stores_after calls
    rw [alloc_fst]
    refine ⟨fun present => ?_, funext fun id => ?_⟩
    · exact h.sound.ne_nextId (h.isLive_iff_mem.2 present) rfl
    · rw [h.sound.get?_alloc, Function.update_apply]
  release id frame found := by
    rw [← (stores_after calls).frames] at found
    refine ⟨release_fst_of_get? found, funext fun other => ?_⟩
    rw [get?_release, Function.update_apply]
  modify id f frame found := by
    rw [← (stores_after calls).frames] at found
    funext other
    rw [get?_modify, Function.update_apply]
    refine ite_congr rfl (fun same => ?_) fun _ => rfl
    rw [same, found, Option.map_some]
  overwrite id frame present := by
    have live := (stores_after calls).isLive_iff_mem.2 present
    refine ⟨(overwrite_fst _ _ _).trans live, funext fun other => ?_⟩
    rw [get?_overwrite, Function.update_apply]
    exact if_congr (and_iff_left live) rfl rfl
  release_of_dead id absent := release_of_get?_eq_none ((stores_after calls).get?_eq_none absent)
  modify_of_dead id f absent := modify_of_get?_eq_none f ((stores_after calls).get?_eq_none absent)
  overwrite_of_dead id frame absent :=
    overwrite_of_get?_eq_none frame ((stores_after calls).get?_eq_none absent)

/-- Two frames are stored, the second one is released twice and written to, and a third one takes
its place. -/
example : (after [.alloc (.initial 0), .alloc (.initial 8), .release ⟨1⟩, .release ⟨1⟩,
    .overwrite ⟨1⟩ (.initial 2), .alloc (.initial 4)]).slots =
      #[some (.initial 0), some (.initial 4)] := by
  decide

end FrameArena

end RegionDispatch
