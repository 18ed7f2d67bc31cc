import Mathlib.Data.Set.Insert
import RegionDispatch.Proofs.Block.Create
import RegionDispatch.Proofs.Block.Effects
import RegionDispatch.Proofs.TeamSize

/-! # The thread limit reaches every stack

The frames set aside for the threads of a generic block are *blank* until their threads join a team:
they carry no thread limit. Every other frame is derived from the outermost one and carries the
limit of the launch, and no thread ever stands on a blank frame, because nothing ever points to one:
no top, no parent link, nothing that is handed out for later.

* **`BlockState.Limited`** — the frames and threads of a block, by the frames that are still blank.
  Each operation on them keeps this, and the blank frames only become fewer.
* `Block.Effect.keepsLimit` — so does every call.
* **`Block.Obeys`**, `Block.Limited.obeys` — the team that the master is granted. -/

namespace RegionDispatch

open Dispatch
open BlockState (baseId homeId)

/-- A frame that carries the thread limit of the launch and stands on no blank frame. -/
structure Frame.Within (limit : Nat) (blank : Set FrameId) (frame : Frame) : Prop where
  threadLimit : frame.threadLimit = limit
  parent : ∀ id, frame.parent = some id → id ∉ blank

/-- **The frames that threads can reach.** None of them is blank, and each carries the limit. -/
structure BlockState.Limited (limit : Nat) (blank : Set FrameId) (state : BlockState) : Prop where
  sound : state.arena.Sound
  stored : ∀ id ∈ blank, state.arena.isLive id = true
  tops : ∀ tid id, (state.thread tid).top = some id → id ∉ blank
  frames : ∀ id frame, id ∉ blank → state.arena.get? id = some frame → frame.Within limit blank

variable {limit tid : Nat} {blank left : Set FrameId} {frame : Frame} {id top : FrameId}

namespace Frame.Within

/-- Fewer blank frames are no obstacle. -/
theorem mono (h : frame.Within limit blank) (fewer : left ⊆ blank) : frame.Within limit left :=
  ⟨h.threadLimit, fun id linked member => h.parent id linked (fewer member)⟩

/-- What is derived from a frame on top of it. -/
theorem of_child (h : frame.Within limit blank) (away : top ∉ blank) {derived : Frame}
    (same : derived.threadLimit = frame.threadLimit) (linked : derived.parent = some top) :
    derived.Within limit blank := by
  refine ⟨same.trans h.threadLimit, fun id parent => ?_⟩
  rw [linked, Option.some.injEq] at parent
  exact parent ▸ away

end Frame.Within

namespace BlockState.Limited

variable {state : BlockState}

section Steps

variable (h : Limited limit blank state)

include h

/-- The frame a thread stands on carries the limit. -/
theorem threadLimit_eq (stands : (state.thread tid).top = some top)
    (stored : state.arena.get? top = some frame) : frame.threadLimit = limit :=
  (h.frames top frame (h.tops tid top stands) stored).threadLimit

/-- So does the frame a lane is told of. -/
theorem threadLimit_of_topFrame (told : state.topFrame tid = .ok frame) :
    frame.threadLimit = limit := by
  cases stands : (state.thread tid).top with
  | none =>
    have absent : state.top tid = .error (.stackUnderflow tid) := by rw [BlockState.top, stands]
    rw [BlockState.topFrame, absent] at told
    cases told
  | some top => exact h.threadLimit_eq stands ((BlockState.topFrame_eq_ok stands).1 told)

/-- A frame that is stored next is not blank. -/
theorem nextId_not_mem : state.arena.nextId ∉ blank :=
  fun member => h.sound.ne_nextId (h.stored _ member) rfl

/-- Hints and loop states reach no frame. -/
theorem modifyThread (tid : Nat) {f : Thread → Thread}
    (kept : ∀ thread, (f thread).top = thread.top) :
    Limited limit blank (state.modifyThread tid f) := by
  refine ⟨h.sound, h.stored, fun other id stands => ?_, h.frames⟩
  rw [BlockState.top_modifyThread kept] at stands
  exact h.tops other id stands

theorem setTop (tid : Nat) (away : id ∉ blank) : Limited limit blank (state.setTop tid id) := by
  refine ⟨h.sound, h.stored, fun other top stands => ?_, h.frames⟩
  rw [BlockState.setTop, BlockState.thread_modifyThread] at stands
  split at stands
  · rw [← Option.some.inj stands]
    exact away
  · exact h.tops other top stands

theorem modifyFrame (id : FrameId) {f : Frame → Frame}
    (kept : ∀ frame, (f frame).threadLimit = frame.threadLimit ∧
      (f frame).parent = frame.parent) :
    Limited limit blank (state.modifyFrame id f) := by
  refine ⟨h.sound.modify id f, fun other member => ?_, h.tops, fun other frame away stored => ?_⟩
  · rw [BlockState.arena_modifyFrame, FrameArena.isLive_modify]
    exact h.stored other member
  · rw [BlockState.arena_modifyFrame, FrameArena.get?_modify] at stored
    split at stored
    · obtain ⟨old, hold, rfl⟩ := Option.map_eq_some_iff.1 stored
      have within := h.frames other old away hold
      exact ⟨(kept old).1.trans within.threadLimit, fun id linked =>
        within.parent id ((kept old).2.symm.trans linked)⟩
    · exact h.frames other frame away stored

theorem push (tid : Nat) (within : frame.Within limit blank) :
    Limited limit blank (state.push tid frame).2 := by
  rw [BlockState.push_snd]
  have stored : Limited limit blank { state with arena := (state.arena.alloc frame).2 } := by
    refine ⟨h.sound.alloc frame, fun id member => ?_, h.tops, fun id old away stored => ?_⟩
    · have live := h.stored id member
      rw [FrameArena.isLive, h.sound.get?_alloc, if_neg (h.sound.ne_nextId live)]
      exact live
    · rw [h.sound.get?_alloc] at stored
      split at stored
      · exact Option.some.inj stored ▸ within
      · exact h.frames id old away stored
  exact stored.setTop tid h.nextId_not_mem

/-- A frame that is released is blank no longer. -/
theorem release (id : FrameId) : Limited limit (blank \ {id}) (state.release id) := by
  refine ⟨h.sound.release id, ?_, fun tid top stands member => h.tops tid top stands member.1, ?_⟩
  · rintro other ⟨member, ne⟩
    rw [FrameArena.isLive, BlockState.arena_release, FrameArena.get?_release_of_ne ne]
    exact h.stored other member
  · intro other frame away stored
    rw [BlockState.arena_release, FrameArena.get?_release] at stored
    split at stored
    · cases stored
    · next ne =>
      have within := h.frames other frame (fun member => away ⟨member, ne⟩) stored
      exact within.mono Set.sdiff_subset

/-- Nor is a frame that is replaced. -/
theorem overwrite (id : FrameId) (within : frame.Within limit blank) :
    Limited limit (blank \ {id}) (state.overwrite id frame).2 := by
  refine ⟨h.sound.overwrite id frame, fun other member => ?_,
    fun tid top stands member => h.tops tid top stands member.1, fun other stored away found => ?_⟩
  · exact (FrameArena.isLive_overwrite _ _ _ _).trans (h.stored other member.1)
  · have found' : (state.arena.overwrite id frame).2.get? other = some stored := found
    rw [FrameArena.get?_overwrite] at found'
    split at found'
    · exact Option.some.inj found' ▸ within.mono Set.sdiff_subset
    · next kept =>
      by_cases same : other = id
      · -- the frame was not live, and so not blank either
        have dead : other ∉ blank := fun member => kept ⟨same, same ▸ h.stored other member⟩
        exact (h.frames other stored dead found').mono Set.sdiff_subset
      · have unblank : other ∉ blank := fun member => away ⟨member, same⟩
        exact (h.frames other stored unblank found').mono Set.sdiff_subset

/-- Joining a team. -/
theorem joinTeam (tid event : Nat) (within : frame.Within limit blank) :
    Limited limit (blank \ {id}) (state.joinTeam tid id frame event) :=
  ((h.overwrite id within).setTop tid fun member => member.2 rfl).modifyThread tid
    (f := ({ · with event })) fun _ => rfl

/-- Entering a serialized region. -/
theorem openSerial (stands : (state.thread tid).top = some top)
    (stored : state.arena.get? top = some frame) :
    Limited limit blank (state.openSerial tid top frame) := by
  have away := h.tops tid top stands
  have within : (frame.serialized top).Within limit blank :=
    (h.frames top frame away stored).of_child away rfl rfl
  exact (h.modifyFrame top (f := ({ · with parkedLoop := some (state.thread tid).loop }))
    fun _ => ⟨rfl, rfl⟩).push tid within

/-- Leaving one. -/
theorem closeSerial {parent : FrameId} {loop : LoopState}
    (stands : (state.thread tid).top = some top) (stored : state.arena.get? top = some frame)
    (linked : frame.parent = some parent) :
    Limited limit (blank \ {top}) (state.closeSerial tid top parent loop) := by
  have away := (h.frames top frame (h.tops tid top stands) stored).parent parent linked
  exact (((h.setTop tid away).release top).modifyFrame parent
    (f := ({ · with parkedLoop := none })) fun _ => ⟨rfl, rfl⟩).modifyThread tid
      (f := ({ · with loop })) fun _ => rfl

/-- Leaving a convergent region, to a top that is not blank. -/
theorem vacate {saved : FrameId} (tid : Nat) (away : saved ∉ blank) (job : Job)
    (construct : Construct) :
    ∃ left ⊆ blank, Limited limit left (state.vacate tid saved job construct) := by
  cases construct with
  | simd =>
    have hinted := h.modifyThread tid (f := Construct.simd.withHint job.hint) fun _ => rfl
    exact ⟨blank, subset_rfl, hinted.setTop tid away⟩
  | parallel =>
    have moved := h.setTop tid away
    cases pushed : job.pushed with
    | none =>
      refine ⟨blank, subset_rfl, ?_⟩
      rw [BlockState.vacate, pushed]
      exact moved.modifyThread tid fun _ => rfl
    | some id =>
      refine ⟨blank \ {id}, Set.sdiff_subset, ?_⟩
      rw [BlockState.vacate, pushed]
      exact (moved.release id).modifyThread tid fun _ => rfl

end Steps

end BlockState.Limited

namespace Block

variable {arch : Arch} {layout : BlockLayout} {block after : Block} {op : Operation}
  {returned : Bool}

/-- A block of this device and layout whose frames carry the limit, and with them what the members
of a team copy. -/
structure Limited (arch : Arch) (layout : BlockLayout) (limit : Nat) (blank : Set FrameId)
    (block : Block) : Prop where
  arch : block.arch = arch
  layout : block.layout = layout
  runtime : block.initialized = true
  state : block.state.Limited limit blank
  template : ∀ work, block.board.posted = some work → block.board.template.Within limit blank

/-- Fewer blank frames are no obstacle to what is posted. -/
theorem Limited.template_mono (h : Limited arch layout limit blank block) (fewer : left ⊆ blank)
    (work : WorkHandle) (posted : block.board.posted = some work) :
    block.board.template.Within limit left :=
  (h.template work posted).mono fewer

/-- Hints touch neither the frames nor the board. -/
theorem Limited.modifyThread (h : Limited arch layout limit blank block) (tid : Nat)
    {f : Thread → Thread} (kept : ∀ thread, (f thread).top = thread.top) :
    Limited arch layout limit blank { block with state := block.state.modifyThread tid f } :=
  { h with state := h.state.modifyThread tid kept }

/-- **One call** keeps the limit. -/
theorem Effect.keepsLimit (effect : Effect block op returned after)
    (h : Limited arch layout limit blank block) :
    ∃ left ⊆ blank, Limited arch layout limit left after := by
  have self : ∃ left ⊆ blank, Limited arch layout limit left block := ⟨blank, subset_rfl, h⟩
  cases effect with
  | refused => exact self
  | spent posts => exact ⟨blank, subset_rfl, h.modifyThread 0 fun _ => rfl⟩
  | @posted lane size work fullRuntime returned top frame counters posts =>
    -- what is posted is derived from the top of thread 0
    have away := h.state.tops 0 top posts.stands
    have within : (frame.teamTemplate top size).Within limit blank :=
      (h.state.frames top frame away posts.stored).of_child away rfl rfl
    have spent := h.state.modifyThread 0 (f := ({ · with pendingThreads := 0 })) fun _ => rfl
    exact ⟨blank, subset_rfl, { h with state := spent, template := fun _ _ => within }⟩
  | idle => exact self
  | @joined lane fullRuntime returned home counters activates =>
    obtain ⟨work, posted⟩ := activates.posted
    have template := h.template work posted
    have member : (block.board.memberFrame lane).Within limit blank :=
      ⟨template.threadLimit, template.parent⟩
    exact ⟨blank \ {home}, Set.sdiff_subset, { h with
      state := h.state.joinTeam lane block.board.events.next member
      template := h.template_mono Set.sdiff_subset }⟩
  | @left lane tid home parent frame exits =>
    have away := h.state.tops tid home exits.stands
    have below := (h.state.frames home frame away exits.stored).parent parent exits.linked
    exact ⟨blank, subset_rfl, { h with state := h.state.setTop tid below }⟩
  | retired => exact ⟨blank, subset_rfl, { h with template := fun _ posted => nomatch posted }⟩
  | counted => exact ⟨blank, subset_rfl, { h with }⟩
  | opened opens =>
    exact ⟨blank, subset_rfl, { h with state := h.state.openSerial opens.stands opens.stored }⟩
  | @closed lane tid top parent frame below loop closes distinct =>
    exact ⟨blank \ {top}, Set.sdiff_subset, { h with
      state := h.state.closeSerial closes.stands closes.stored closes.linked
      template := h.template_mono Set.sdiff_subset }⟩
  | @lost lane tid top frame closes =>
    have away := h.state.tops tid top closes.stands
    exact ⟨blank \ {top}, Set.sdiff_subset, { h with
      state := (h.state.setTop tid away).release top
      template := h.template_mono Set.sdiff_subset }⟩
  | requested owns stands =>
    exact ⟨blank, subset_rfl, { h with state := h.state.modifyFrame _ fun _ => ⟨rfl, rfl⟩ }⟩
  | looped owns | hinted owns | limited owns =>
    exact ⟨blank, subset_rfl, h.modifyThread _ fun _ => rfl⟩
  | bound => exact self

/-! ## New blocks -/

/-- Of a new block of `count` threads, all frames but the outermost one are blank. -/
theorem limited_withStacks (count limit : Nat) :
    (BlockState.withStacks count (Frame.initial limit)).Limited limit
      {id | id ≠ baseId ∧ id.index ≤ count} := by
  have stored (id : FrameId) :
      (BlockState.withStacks count (.initial limit)).arena.get? id = _ :=
    BlockState.get?_withStacks id
  refine ⟨BlockState.sound_withStacks, ?_, ?_, ?_⟩
  · rintro id ⟨ne, inside⟩
    rw [FrameArena.isLive, stored, if_neg ne, if_pos inside]
    rfl
  · -- all threads stand on the outermost frame
    rintro tid id stands ⟨ne, -⟩
    have bound := BlockState.lt_size_of_top stands
    rw [BlockState.size_withStacks] at bound
    rw [BlockState.thread_withStacks bound] at stands
    exact ne (Option.some.inj stands).symm
  · intro id frame away found
    rw [stored] at found
    split at found
    · cases found
      exact ⟨rfl, fun _ absent => absurd absent (Option.some_ne_none _).symm⟩
    · next ne =>
      split at found
      · next inside => exact absurd ⟨ne, inside⟩ away
      · cases found

/-- **A new generic block** keeps the limit of its launch. -/
theorem limited_of_create {config : LaunchConfig}
    (created : create arch .generic config = .ok block) :
    ∃ blank, Limited arch block.layout config.threadLimit.toNat blank block := by
  have initialized := initialized_of_create_generic created
  obtain ⟨size, -, rfl⟩ := eq_of_create created initialized
  exact ⟨_, rfl, rfl, rfl, limited_withStacks size _, fun _ posted => nomatch posted⟩

/-! ## What the limit means -/

section Queries

variable {lane : Nat} (h : Limited arch layout limit blank block)

include h

/-- Every lane that asks for its frame is told the limit with it. -/
theorem Limited.ends_currentFrame :
    Ends (currentFrame lane) block (fun frame _ => frame.threadLimit = limit)
      fun _ _ => True := by
  rw [currentFrame, ends_bind]
  refine effect_threadOf.mono ?_ fun _ _ _ => trivial
  rintro tid _ ⟨rfl, -⟩
  rw [ends_bind, ends_get, ends_granted]
  exact ⟨fun frame told => h.state.threadLimit_of_topFrame told, fun _ _ => trivial⟩

/-- And so is every lane that asks for the limit. -/
theorem Limited.ends_threadLimit :
    Ends (threadLimit lane) block (fun count _ => count = limit) fun _ _ => True := by
  rw [threadLimit, query, ends_bind]
  refine effect_threadOf.mono ?_ fun _ _ _ => trivial
  rintro tid _ ⟨rfl, -⟩
  rw [ends_bind, ends_get, if_pos h.runtime, ends_bind, ends_granted]
  exact ⟨fun frame told => h.state.threadLimit_of_topFrame told, fun _ _ => trivial⟩

end Queries

/-- **A team that obeys its launch**, granted to the master of a block of this limit. -/
structure Obeys (limit : Nat) (before after : Block) (size : Nat) : Prop where
  pos : 1 ≤ size
  available : ∃ available, before.layout.available = .ok available ∧ size ≤ available
  limit : limit ≠ 0 → size ≤ limit
  clause : (before.state.thread 0).pendingThreads ≠ 0 →
    size ≤ (before.state.thread 0).pendingThreads
  /-- Only without a clause the current frame has a say. -/
  nthreads : (before.state.thread 0).pendingThreads = 0 → ∃ frame,
    before.state.topFrame 0 = .ok frame ∧ (frame.nthreads ≠ 0 → size ≤ frame.nthreads)
  spent : (after.state.thread 0).pendingThreads = 0
  groups : before.arch.wholeGroups = true → size = 1 ∨ before.arch.width ∣ size

/-- **Every team the master is granted obeys the launch.** -/
theorem Limited.obeys {lane : Nat} {work : WorkHandle} {fullRuntime : Bool}
    {decision : TeamDecision} (valid : arch.isValid = true) (width : layout.groupWidth = arch.width)
    (h : Limited arch layout limit blank block)
    (granted : prepareRegion lane work fullRuntime block = .ok decision after) :
    Obeys limit block after decision.size := by
  obtain ⟨k, power⟩ := Arch.exists_two_pow valid
  obtain ⟨rfl, rfl, -, state, -⟩ := h
  cases ((ends_of_ok granted).1 (effect_prepareRegion work fullRuntime)).1 with
  | @posted top frame counters posts sized some =>
    have bound := BlockState.lt_size_of_top posts.stands
    have limited := state.threadLimit_eq posts.stands posts.stored
    have lanes := BlockLayout.masterLane_eq (BlockLayout.pos_of_masterLane posts.master.choose_spec)
    refine ⟨some, ⟨block.layout.master, ?_, ?_⟩, fun set => ?_, fun set => ?_, fun unset => ?_, ?_,
      fun whole => ?_⟩
    · rw [BlockLayout.available, posts.generic]
      exact lanes
    · exact Arch.sizeTeam_le sized
    · subst limited
      exact Arch.sizeTeam_le_limit sized set
    · have asked : (block.nextRequest frame).requested = (block.state.thread 0).pendingThreads :=
        if_pos set
      exact asked ▸ Arch.sizeTeam_le_requested sized (asked ▸ set)
    · have asked : (block.nextRequest frame).requested = frame.nthreads := if_neg (not_not.2 unset)
      refine ⟨frame, (BlockState.topFrame_eq_ok posts.stands).2 posts.stored, fun set => ?_⟩
      exact asked ▸ Arch.sizeTeam_le_requested sized (asked ▸ set)
    · exact congrArg Thread.pendingThreads (BlockState.thread_modifyThread_self bound)
    · refine Arch.sizeTeam_dvd power whole ?_ sized
      exact width ▸ BlockLayout.dvd_master (width ▸ power)

end Block

end RegionDispatch
