import Mathlib.Data.Finset.Card
import RegionDispatch.Proofs.Block.Create
import RegionDispatch.Proofs.Block.Effects
import RegionDispatch.Proofs.Convergent.Outline

/-! # What leaving a serialized region takes

Leaving recognizes a serialized region by its shape, on whatever frame the thread stands. It takes
loop state that entering has parked, and every frame it could release by mistake is one that the
shape excludes: the outermost frame, and the first-level frame of any thread but the generic
master's, whose shape depends on the last team.

* **`Anchored`** — the frames that stay, and why no thread can take them for a serialized region.
* **`Block.Solvent`** — the frames that hold parked loop state, which entries add to and exits take
  from.
* `Block.Effect.solvent` — what one call pays.
* `Block.Effect.of_released` — what one exit can release. -/

namespace RegionDispatch

open Dispatch
open BlockState (baseId homeId)

/-- Loop state is parked in no other frames than those of `ids`. -/
def FrameArena.ParkedIn (ids : Finset FrameId) (arena : FrameArena) : Prop :=
  ∀ id frame, arena.get? id = some frame → frame.parkedLoop.isSome = true → id ∈ ids

namespace FrameArena.ParkedIn

variable {ids : Finset FrameId} {arena : FrameArena} {id top parent : FrameId} {frame : Frame}

theorem alloc (h : ParkedIn ids arena) (sound : arena.Sound) (blank : frame.parkedLoop = none) :
    ParkedIn ids (arena.alloc frame).2 := by
  intro id stored found parked
  rw [sound.get?_alloc] at found
  split at found
  · rw [← Option.some.inj found, blank] at parked
    cases parked
  · exact h id stored found parked

theorem release (h : ParkedIn ids arena) (id : FrameId) : ParkedIn ids (arena.release id).2 := by
  intro other stored found parked
  rw [get?_release] at found
  split at found
  · cases found
  · exact h other stored found parked

theorem modify (h : ParkedIn ids arena) (id : FrameId) {f : Frame → Frame}
    (same : ∀ frame, (f frame).parkedLoop = frame.parkedLoop) :
    ParkedIn ids (arena.modify id f) := by
  intro other stored found parked
  rw [get?_modify] at found
  split at found
  · obtain ⟨old, hold, rfl⟩ := Option.map_eq_some_iff.1 found
    exact h other old hold (same old ▸ parked)
  · exact h other stored found parked

theorem overwrite (h : ParkedIn ids arena) (blank : frame.parkedLoop = none) :
    ParkedIn ids (arena.overwrite id frame).2 := by
  intro other stored found parked
  rw [get?_overwrite] at found
  split at found
  · rw [← Option.some.inj found, blank] at parked
    cases parked
  · exact h other stored found parked

variable {state : BlockState} {tid : Nat} {loop : LoopState}

/-- Entering parks in one frame more. -/
theorem openSerial (h : ParkedIn ids state.arena) (sound : state.arena.Sound) :
    ParkedIn (insert top ids) (state.openSerial tid top frame).arena := by
  intro id stored found parked
  rw [BlockState.get?_openSerial sound] at found
  rw [Finset.mem_insert]
  split at found
  · rw [← Option.some.inj found] at parked
    cases parked
  · split at found
    · next same => exact .inl same
    · exact .inr (h id stored found parked)

/-- Leaving takes what was parked. -/
theorem closeSerial (h : ParkedIn ids state.arena) :
    ParkedIn (ids.erase parent) (state.closeSerial tid top parent loop).arena := by
  intro id stored found parked
  rw [BlockState.get?_closeSerial] at found
  rw [Finset.mem_erase]
  split at found
  · obtain ⟨old, -, rfl⟩ := Option.map_eq_some_iff.1 found
    cases parked
  · next ne =>
    split at found
    · cases found
    · exact ⟨ne, h id stored found parked⟩

end FrameArena.ParkedIn

/-- An id under which no frame is stored for good: neither that of the outermost frame nor that of
the first-level frame of a thread, that of the generic master's thread excepted. -/
def BlockLayout.Loose (layout : BlockLayout) (id : FrameId) : Prop :=
  id ≠ baseId ∧ ∀ tid, tid < layout.size → id = homeId tid → layout.mode = .generic ∧ tid = 0

/-- Whether a frame could be taken for a serialized region only in a block of one thread. -/
def Frame.Standing (layout : BlockLayout) (frame : Frame) : Prop :=
  frame.parent.isSome = true → frame.rank = 0 → frame.teamSize = 1 → layout.size = 1

/-- **The frames that stay.** The outermost frame is stored, and so is the first-level frame of each
thread but the generic master's; none of them can be taken for a serialized region of another
thread. -/
structure Anchored (layout : BlockLayout) (state : BlockState) : Prop where
  sized : state.threads.size = layout.size
  sound : state.arena.Sound
  homes : ∀ tid, tid < layout.size → (state.thread tid).home = some (homeId tid)
  base : ∃ frame, state.arena.get? baseId = some frame ∧ frame.parent = none
  standing : ∀ tid, tid < layout.size → ¬(layout.mode = .generic ∧ tid = 0) →
    ∃ frame, state.arena.get? (homeId tid) = some frame ∧ frame.Standing layout

namespace Anchored

variable {layout : BlockLayout} {state : BlockState} {tid : Nat} {id top parent : FrameId}
  {frame below : Frame} {loop : LoopState}

/-- What is stored for good is live. -/
theorem loose_of_dead (h : Anchored layout state) (dead : state.arena.get? id = none) :
    layout.Loose id := by
  constructor
  · rintro rfl
    obtain ⟨frame, stored, -⟩ := h.base
    rw [dead] at stored
    cases stored
  · rintro tid inside rfl
    by_contra kept
    obtain ⟨frame, stored, -⟩ := h.standing tid inside kept
    rw [dead] at stored
    cases stored

/-- Changes that leave the frames that stay as they are. -/
theorem congr (h : Anchored layout state) {after : BlockState}
    (size : after.threads.size = state.threads.size) (sound : after.arena.Sound)
    (homes : ∀ tid, (after.thread tid).home = (state.thread tid).home)
    (frames : ∀ id, ¬layout.Loose id → ∀ frame, state.arena.get? id = some frame →
      ∃ frame', after.arena.get? id = some frame' ∧ frame'.parent = frame.parent ∧
        frame'.rank = frame.rank ∧ frame'.teamSize = frame.teamSize) : Anchored layout after where
  sized := size.trans h.sized
  sound := sound
  homes tid inside := (homes tid).trans (h.homes tid inside)
  base := by
    obtain ⟨frame, stored, outermost⟩ := h.base
    obtain ⟨frame', stored', parent, -⟩ := frames baseId (fun loose => loose.1 rfl) frame stored
    exact ⟨frame', stored', parent.trans outermost⟩
  standing tid inside kept := by
    obtain ⟨frame, stored, standing⟩ := h.standing tid inside kept
    obtain ⟨frame', stored', parent, rank, size⟩ :=
      frames (homeId tid) (fun loose => kept (loose.2 tid inside rfl)) frame stored
    refine ⟨frame', stored', ?_⟩
    rw [Frame.Standing, parent, rank, size]
    exact standing

theorem modifyThread (h : Anchored layout state) (tid : Nat) {f : Thread → Thread}
    (kept : ∀ thread, (f thread).home = thread.home) : Anchored layout (state.modifyThread tid f) :=
  h.congr (BlockState.size_modifyThread f) h.sound (fun _ => BlockState.home_modifyThread kept)
    fun _ _ frame stored => ⟨frame, stored, rfl, rfl, rfl⟩

theorem setTop (h : Anchored layout state) (tid : Nat) (id : FrameId) :
    Anchored layout (state.setTop tid id) :=
  h.modifyThread tid fun _ => rfl

theorem modifyFrame (h : Anchored layout state) (id : FrameId) {f : Frame → Frame}
    (kept : ∀ frame, (f frame).parent = frame.parent ∧ (f frame).rank = frame.rank ∧
      (f frame).teamSize = frame.teamSize) : Anchored layout (state.modifyFrame id f) := by
  refine h.congr rfl (h.sound.modify id f) (fun _ => rfl) fun other _ frame stored => ?_
  rw [BlockState.arena_modifyFrame, FrameArena.get?_modify, stored]
  split
  · exact ⟨f frame, rfl, kept frame⟩
  · exact ⟨frame, rfl, rfl, rfl, rfl⟩

theorem push (h : Anchored layout state) (tid : Nat) (frame : Frame) :
    Anchored layout (state.push tid frame).2 := by
  rw [BlockState.push_snd]
  have stored : Anchored layout { state with arena := (state.arena.alloc frame).2 } := by
    refine h.congr rfl (h.sound.alloc frame) (fun _ => rfl) fun id _ old stored => ?_
    rw [h.sound.get?_alloc, if_neg (h.sound.ne_nextId (FrameArena.isLive_of_get? stored)), stored]
    exact ⟨old, rfl, rfl, rfl, rfl⟩
  exact stored.setTop tid _

theorem release (h : Anchored layout state) (loose : layout.Loose id) :
    Anchored layout (state.release id) := by
  refine h.congr rfl (h.sound.release id) (fun _ => rfl) fun other kept frame stored => ?_
  have other : other ≠ id := by
    rintro rfl
    exact kept loose
  rw [BlockState.arena_release, FrameArena.get?_release_of_ne other, stored]
  exact ⟨frame, rfl, rfl, rfl, rfl⟩

theorem openSerial (h : Anchored layout state) (tid : Nat) (top : FrameId) (frame : Frame) :
    Anchored layout (state.openSerial tid top frame) :=
  (h.modifyFrame top (f := ({ · with parkedLoop := some (state.thread tid).loop }))
    fun _ => ⟨rfl, rfl, rfl⟩).push tid _

theorem closeSerial (h : Anchored layout state) (loose : layout.Loose top) :
    Anchored layout (state.closeSerial tid top parent loop) :=
  (((h.setTop tid parent).release loose).modifyFrame parent (f := ({ · with parkedLoop := none }))
    fun _ => ⟨rfl, rfl, rfl⟩).modifyThread tid (f := ({ · with loop })) fun _ => rfl

/-- A worker's frame has the worker's rank, which is not 0. -/
theorem joinTeam (h : Anchored layout state) {event : Nat} (generic : layout.mode = .generic)
    (rank : frame.rank = tid) (live : state.arena.isLive (homeId tid) = true) :
    Anchored layout (state.joinTeam tid (homeId tid) frame event) := by
  have homes (other : Nat) :
      ((state.joinTeam tid (homeId tid) frame event).thread other).home =
        (state.thread other).home := by
    by_cases same : other = tid
    · subst same
      by_cases inside : other < state.threads.size
      · rw [BlockState.thread_joinTeam_self inside]
      · rw [BlockState.thread_of_size_le (by simpa using inside),
          BlockState.thread_of_size_le (Nat.le_of_not_lt inside)]
    · rw [BlockState.thread_joinTeam_of_ne same]
  refine ⟨BlockState.size_joinTeam.trans h.sized, h.sound.overwrite _ _,
    fun other inside => (homes other).trans (h.homes other inside), ?_, fun other inside kept => ?_⟩
  · rw [BlockState.get?_joinTeam live, if_neg (BlockState.homeId_ne_baseId tid).symm]
    exact h.base
  · rw [BlockState.get?_joinTeam live]
    split
    · next same =>
      rw [BlockState.homeId_inj] at same
      refine ⟨frame, rfl, fun _ zero => absurd ⟨generic, ?_⟩ kept⟩
      rw [same, ← rank, zero]
    · exact h.standing other inside kept

end Anchored

namespace Block

variable {ids : Finset FrameId} {block after : Block} {op : Operation} {returned : Bool}
  {lane tid : Nat} {top parent : FrameId} {frame below : Frame}

/-- **An exit releases no frame that stays**, nor the first-level frame of the calling thread. -/
theorem Closes.loose (closes : block.Closes lane tid top parent frame below)
    (anchored : Anchored block.layout block.state) : block.layout.Loose top ∧ top ≠ homeId tid := by
  have inside : tid < block.layout.size :=
    anchored.sized ▸ BlockState.lt_size_of_top closes.stands
  have home : top ≠ homeId tid := fun same =>
    closes.away ((anchored.homes tid inside).trans (congrArg some same.symm))
  refine ⟨⟨?_, ?_⟩, home⟩
  · -- the frame that is left stands on another, and the outermost one does not
    rintro rfl
    obtain ⟨other, stored, outermost⟩ := anchored.base
    rw [closes.stored, Option.some.injEq] at stored
    rw [← stored, closes.linked] at outermost
    cases outermost
  · rintro other bound rfl
    by_contra kept
    obtain ⟨found, stored, standing⟩ := anchored.standing other bound kept
    rw [closes.stored, Option.some.injEq] at stored
    obtain ⟨rank, size⟩ := Frame.of_serializedOn closes.serialized
    have alone := standing (stored ▸ Option.isSome_iff_exists.2 ⟨parent, closes.linked⟩)
      (stored ▸ rank) (stored ▸ size)
    -- in a block of one thread that thread is the caller
    refine home (BlockState.homeId_inj.2 ?_)
    omega

/-- A block with the full runtime whose frames stay and in which only the frames of `ids` hold
parked loop state. -/
structure Solvent (ids : Finset FrameId) (block : Block) : Prop where
  runtime : block.initialized = true
  anchored : Anchored block.layout block.state
  /-- No worker copies parked loop state. -/
  blank : block.board.template.parkedLoop = none
  parked : block.state.arena.ParkedIn ids

namespace Solvent

theorem withHint (h : Solvent ids block) (construct : Construct) (tid n : Nat)
    (counters : Counters) : Solvent ids { block with
      state := block.state.modifyThread tid (construct.withHint n), counters } :=
  { h with anchored := h.anchored.modifyThread tid fun _ => Construct.home_withHint }

/-- A lane that leaves a convergent region takes nothing that was parked. -/
theorem vacate (h : Solvent ids block) (tid : Nat) (saved : FrameId) {job : Job}
    (construct : Construct) (loose : ∀ id, job.pushed = some id → block.layout.Loose id) :
    Solvent ids { block with state := block.state.vacate tid saved job construct } := by
  cases construct with
  | simd => exact { h.withHint .simd tid job.hint block.counters with
      anchored := (h.withHint .simd tid job.hint block.counters).anchored.setTop tid saved }
  | parallel =>
    have moved := h.anchored.setTop tid saved
    have released : Solvent ids { block with
        state := (block.state.setTop tid saved).releases job.pushed } := by
      cases pushed : job.pushed with
      | none => exact { h with anchored := moved }
      | some id => exact { h with
          anchored := moved.release (loose id pushed)
          parked := h.parked.release id }
    exact released.withHint .parallel tid job.hint block.counters

end Solvent

/-- **What a call pays.** Entering a serialized region makes at most one frame more hold parked loop
state, leaving one takes it from a frame, and no other call adds to these frames. -/
theorem Effect.solvent (effect : Effect block op returned after) (h : Solvent ids block) :
    ∃ left, Solvent left after ∧
      (op.isEnd && returned).toNat + left.card ≤ (op.isBegin && returned).toNat + ids.card := by
  have unpaid (after : Block) (solvent : Solvent ids after)
      (paid : (op.isEnd && returned) = false) :
      ∃ left, Solvent left after ∧
        (op.isEnd && returned).toNat + left.card ≤ (op.isBegin && returned).toNat + ids.card :=
    ⟨ids, solvent, by rw [paid]; exact Nat.add_le_add_right (Nat.zero_le _) _⟩
  have sound := h.anchored.sound
  cases effect with
  | opened opens =>
    refine ⟨_, ⟨h.runtime, h.anchored.openSerial _ _ _, h.blank, h.parked.openSerial sound⟩, ?_⟩
    simpa [Operation.isEnd, Operation.isBegin, Nat.add_comm] using Finset.card_insert_le _ ids
  | closed closes distinct =>
    have loose := (closes.loose h.anchored).1
    refine ⟨_, ⟨h.runtime, h.anchored.closeSerial loose, h.blank, h.parked.closeSerial⟩, ?_⟩
    -- the frame below is one of those that hold parked loop state, and it no longer does
    obtain ⟨loop, parked⟩ := Frame.exists_of_serializedOn closes.serialized
    have member := h.parked _ _ closes.next (Option.isSome_iff_exists.2 ⟨loop, parked⟩)
    have erased := Finset.card_erase_add_one member
    simp only [Operation.isEnd, Operation.isBegin, Bool.and_self, Bool.and_true, Bool.toNat_true,
      Bool.toNat_false]
    omega
  | lost closes =>
    have loose := (closes.loose h.anchored).1
    exact unpaid _ ⟨h.runtime, (h.anchored.setTop _ _).release loose, h.blank, h.parked.release _⟩
      (Bool.and_false _)
  | refused => exact unpaid _ h (Bool.and_false _)
  | posted posts =>
    exact unpaid _ ⟨h.runtime, h.anchored.modifyThread _ fun _ => rfl, rfl, h.parked⟩ rfl
  | @joined lane _ _ home _ activates =>
    -- the worker is below the master, and its frame is the one set aside for it
    have inside : lane < block.layout.size :=
      h.anchored.sized ▸ BlockState.lt_size_of_home activates.reserved
    have own := activates.reserved
    rw [h.anchored.homes lane inside, Option.some.injEq] at own
    subst own
    exact unpaid _ ⟨h.runtime, h.anchored.joinTeam activates.generic rfl activates.live, h.blank,
      h.parked.overwrite h.blank⟩ rfl
  | requested owns stands =>
    exact unpaid _ ⟨h.runtime, h.anchored.modifyFrame _ fun _ => ⟨rfl, rfl, rfl⟩, h.blank,
      h.parked.modify _ fun _ => rfl⟩ rfl
  | spent posts =>
    exact unpaid _ ⟨h.runtime, h.anchored.modifyThread _ fun _ => rfl, h.blank, h.parked⟩ rfl
  | left exits => exact unpaid _ ⟨h.runtime, h.anchored.setTop _ _, h.blank, h.parked⟩ rfl
  | looped owns | hinted owns | limited owns =>
    exact unpaid _ ⟨h.runtime, h.anchored.modifyThread _ fun _ => rfl, h.blank, h.parked⟩ rfl
  | _ => exact unpaid _ ⟨h.runtime, h.anchored, h.blank, h.parked⟩ rfl

/-- **What an exit releases** is never a frame that stays, and not the first-level frame of the
calling thread. -/
theorem Effect.of_released (effect : Effect block op returned after) (exit : op.isEnd = true)
    (anchored : Anchored block.layout block.state) {id : FrameId}
    (live : block.state.arena.isLive id = true) (dead : after.state.arena.isLive id = false) :
    block.layout.Loose id ∧ ∀ tid, op.caller? block.layout = some tid → id ≠ homeId tid := by
  have top {lane tid : Nat} {top parent : FrameId} {frame below : Frame}
      (closes : block.Closes lane tid top parent frame below)
      (gone : (block.state.arena.release top).2.isLive id = false) :
      block.layout.Loose id ∧
        ∀ tid, Operation.caller? block.layout (.endSerial lane) = some tid → id ≠ homeId tid := by
    have same : id = top := of_not_not fun other => by
      rw [FrameArena.isLive, FrameArena.get?_release_of_ne other, ← FrameArena.isLive, live] at gone
      cases gone
    subst same
    refine ⟨(closes.loose anchored).1, fun tid caller => ?_⟩
    rw [Operation.caller?, closes.owns.toOption_threadOf, Option.some.injEq] at caller
    exact caller ▸ (closes.loose anchored).2
  cases effect with
  | refused => rw [live] at dead; cases dead
  | closed closes distinct =>
    rw [BlockState.closeSerial, BlockState.arena_modifyThread, BlockState.arena_modifyFrame,
      FrameArena.isLive_modify] at dead
    exact top closes dead
  | lost closes => exact top closes dead
  | _ => cases exit

/-- In a new block no loop state is parked. -/
theorem solvent_of_create {arch : Arch} {mode : ExecMode} {config : LaunchConfig}
    (created : create arch mode config = .ok block) (initialized : block.initialized = true) :
    Solvent ∅ block := by
  obtain ⟨size, -, rfl⟩ := eq_of_create created initialized
  cases mode with
  | generic =>
    refine ⟨rfl, ⟨BlockState.size_withStacks, BlockState.sound_withStacks, ?_, ?_, ?_⟩, rfl, ?_⟩
    · exact fun tid bound => congrArg Thread.home (BlockState.thread_withStacks bound)
    · exact ⟨_, (BlockState.get?_withStacks baseId).trans (if_pos rfl), rfl⟩
    · intro tid bound _
      refine ⟨{}, (BlockState.get?_withStacks (homeId tid)).trans ?_, fun linked => nomatch linked⟩
      rw [if_neg (BlockState.homeId_ne_baseId tid)]
      exact if_pos (Nat.succ_le_of_lt bound)
    · intro id frame stored parked
      replace stored := (BlockState.get?_withStacks id).symm.trans stored
      split at stored
      · cases stored; cases parked
      · split at stored <;> cases stored
        cases parked
  | spmd =>
    refine ⟨rfl, ⟨BlockState.size_spmd, BlockState.sound_spmd, ?_, ?_, ?_⟩, rfl, ?_⟩
    · exact fun tid bound => congrArg Thread.home (BlockState.thread_spmd bound)
    · exact ⟨_, (BlockState.get?_spmd baseId).trans (if_pos rfl), rfl⟩
    · intro tid bound _
      have member : (initialState .spmd size config).arena.get? (homeId tid) =
          some ((Frame.initial config.threadLimit.toNat).spmdMember baseId tid size) := by
        refine (BlockState.get?_spmd (homeId tid)).trans ?_
        rw [if_neg (BlockState.homeId_ne_baseId tid)]
        exact if_pos (Nat.succ_le_of_lt bound)
      exact ⟨_, member, fun _ _ alone => alone⟩
    · intro id frame stored parked
      replace stored := (BlockState.get?_spmd id).symm.trans stored
      split at stored
      · cases stored; cases parked
      · split at stored <;> cases stored
        cases parked

end Block

end RegionDispatch
