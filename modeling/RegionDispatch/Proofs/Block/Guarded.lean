import RegionDispatch.Convergent.Region
import RegionDispatch.Kernel.Region
import RegionDispatch.Proofs.Block.Create
import RegionDispatch.Proofs.Block.Operation
import RegionDispatch.Proofs.Dispatch.Guards
import RegionDispatch.Proofs.TeamSize

/-! # Calls with their accesses guarded

The arena hands out free slots by index and counts its frames by a difference. Here both are
guarded, and a block is *intact* when no guard and no word operation of a call can fault. Every call
leads from intact blocks to intact blocks, on any lane and whatever frames and threads it finds.

* `FrameArena.checkedAlloc`, `FrameArena.checkedLive`, `BlockState.checkedPush` — the accesses that
  are guarded, and that a sound arena passes the guards.
* **`Block.Intact`** — what rules the faults out.
* `Counters.Full` — the one fault that is left: 2³² events of one kind.
* **`Call`**, `Call.step`, `Call.guarded` — the calls outside convergent regions.
* **`Call.safe`** — no call faults on an intact block. -/

namespace RegionDispatch

open Dispatch

/-! ## Guarded accesses -/

namespace FrameArena

variable {arena : FrameArena}

/-- Stores a frame. The index of a free slot is guarded, and so is the index of a new one, which is
one less than the number of slots. -/
def checkedAlloc : FrameArena → Frame → Except Fault (FrameId × FrameArena)
  | ⟨slots, []⟩, frame => do
    let slots := slots.push (some frame)
    let last ← checkedSub slots.size 1
    return (⟨last⟩, ⟨slots, []⟩)
  | ⟨slots, index :: free⟩, frame => do
    let index ← checkedIndex slots.size index
    return (⟨index⟩, ⟨slots.setIfInBounds index (some frame), free⟩)

/-- The number of stored frames, with the difference guarded. -/
def checkedLive (arena : FrameArena) : Except Fault Nat :=
  checkedSub arena.slots.size arena.free.length

/-- **A sound arena stores frames without a fault.** -/
theorem Sound.checkedAlloc_eq (sound : arena.Sound) (frame : Frame) :
    arena.checkedAlloc frame = .ok (arena.alloc frame) := by
  obtain ⟨slots, _ | ⟨index, free⟩⟩ := arena
  · have some : 1 ≤ (slots.push (some frame)).size := by rw [Array.size_push]; omega
    simp only [checkedAlloc, checkedSub_of_le some]
    rw [Array.size_push]
    rfl
  · have inside : index < slots.size := sound.lt_of_free List.mem_cons_self
    rw [checkedAlloc, checkedIndex_of_lt inside]
    rfl

/-- **A sound arena counts its frames without a fault.** -/
theorem Sound.checkedLive_eq (sound : arena.Sound) : arena.checkedLive = .ok arena.live :=
  checkedSub_of_le sound.length_free_le

end FrameArena

namespace BlockState

variable {before mid after : BlockState} {tid : Nat} {id : FrameId} {frame : Frame}

/-- Stores `frame` with its accesses guarded, and makes it the top of a thread's stack. -/
def checkedPush (state : BlockState) (tid : Nat) (frame : Frame) :
    Except Fault (FrameId × BlockState) := do
  let (id, arena) ← state.arena.checkedAlloc frame
  return (id, { state with arena }.setTop tid id)

theorem checkedPush_eq (sound : before.arena.Sound) (tid : Nat) (frame : Frame) :
    before.checkedPush tid frame = .ok (before.push tid frame) := by
  rw [checkedPush, sound.checkedAlloc_eq]
  rfl

/-- A change after which the free list is sound and no thread counts more open regions. -/
structure Orderly (before after : BlockState) : Prop where
  sound : after.arena.Sound
  opened : ∀ tid, (after.thread tid).openRegions ≤ (before.thread tid).openRegions

namespace Orderly

theorem trans (first : Orderly before mid) (second : Orderly mid after) : Orderly before after :=
  ⟨second.sound, fun tid => Nat.le_trans (second.opened tid) (first.opened tid)⟩

theorem modifyThread (sound : before.arena.Sound) (tid : Nat) {f : Thread → Thread}
    (kept : (f (before.thread tid)).openRegions ≤ (before.thread tid).openRegions) :
    Orderly before (before.modifyThread tid f) := by
  refine ⟨sound, fun other => ?_⟩
  rw [thread_modifyThread]
  split
  · next same => exact same.1 ▸ kept
  · exact Nat.le_refl _

theorem setTop (sound : before.arena.Sound) (tid : Nat) (id : FrameId) :
    Orderly before (before.setTop tid id) :=
  modifyThread sound tid (f := ({ · with top := some id })) (Nat.le_refl _)

theorem withHint (sound : before.arena.Sound) (construct : Construct) (n tid : Nat) :
    Orderly before (before.modifyThread tid (construct.withHint n)) :=
  modifyThread sound tid (by cases construct <;> exact Nat.le_refl _)

theorem modifyFrame (sound : before.arena.Sound) (id : FrameId) (f : Frame → Frame) :
    Orderly before (before.modifyFrame id f) :=
  ⟨sound.modify id f, fun _ => Nat.le_refl _⟩

theorem release (sound : before.arena.Sound) (id : FrameId) :
    Orderly before (before.release id) :=
  ⟨sound.release id, fun _ => Nat.le_refl _⟩

theorem overwrite (sound : before.arena.Sound) (id : FrameId) (frame : Frame) :
    Orderly before (before.overwrite id frame).2 :=
  ⟨sound.overwrite id frame, fun _ => Nat.le_refl _⟩

theorem push (sound : before.arena.Sound) (tid : Nat) (frame : Frame) :
    Orderly before (before.push tid frame).2 := by
  rw [push_snd]
  have stored : Orderly before { before with arena := (before.arena.alloc frame).2 } :=
    ⟨sound.alloc frame, fun _ => Nat.le_refl _⟩
  exact stored.trans (setTop stored.sound tid _)

theorem pop (sound : before.arena.Sound) {popped : FrameId × BlockState}
    (found : before.pop tid = .ok popped) : Orderly before popped.2 := by
  cases htop : (before.thread tid).top with
  | none => simp [BlockState.pop, popTarget, BlockState.top, htop, bind, Except.bind] at found
  | some id =>
    obtain ⟨_, parent, -, -, left⟩ := of_pop_eq_ok htop found
    exact left ▸ setTop sound tid parent

end Orderly

end BlockState

/-! ## Events -/

namespace Counters

/-- The events of each kind. -/
def kinds (c : Counters) : List Nat :=
  [c.regions, c.activations, c.serialized, c.convergentTeams, c.fences]

/-- All events that were counted. -/
def events (c : Counters) : Nat :=
  c.regions + c.activations + c.serialized + c.convergentTeams + c.fences

/-- There is no room for one more event of some kind. -/
def Full (c : Counters) : Prop := ∃ n ∈ c.kinds, UInt32.size ≤ n + 1

theorem Full.le_events {c : Counters} (full : c.Full) : UInt32.size ≤ c.events + 1 := by
  obtain ⟨n, member, le⟩ := full
  simp only [kinds, List.mem_cons, List.not_mem_nil, or_false] at member
  rw [events]
  omega

/-- Counting never takes serialized regions back, and only a full counter faults. -/
structure Counts (count : Counters → Except Fault Counters) : Prop where
  grows : ∀ c c', count c = .ok c' → c.serialized ≤ c'.serialized
  fails : ∀ c fault, count c = .error fault → fault = .addOverflow ∧ c.Full

theorem counts_field (field : Counters → Nat) (record : Counters → Nat → Counters)
    (kind : ∀ c, field c ∈ c.kinds)
    (grows : ∀ c, c.serialized ≤ (record c (field c + 1)).serialized) :
    Counts fun c => (checkedAdd UInt32.size (field c) 1).map (record c) where
  grows c c' counted := by
    rw [eq_of_map_checkedAdd counted]
    exact grows c
  fails c fault stuck := by
    obtain ⟨le, rfl⟩ := map_checkedAdd_eq_error.1 stuck
    exact ⟨rfl, field c, kind c, le⟩

theorem counts_addRegion : Counts addRegion :=
  counts_field (·.regions) (fun c n => { c with regions := n }) (fun _ => by simp [kinds])
    fun _ => Nat.le_refl _

theorem counts_addActivation : Counts addActivation :=
  counts_field (·.activations) (fun c n => { c with activations := n }) (fun _ => by simp [kinds])
    fun _ => Nat.le_refl _

theorem counts_addSerialized : Counts addSerialized :=
  counts_field (·.serialized) (fun c n => { c with serialized := n }) (fun _ => by simp [kinds])
    fun _ => Nat.le_succ _

theorem counts_addTeam : Counts addTeam :=
  counts_field (·.convergentTeams) (fun c n => { c with convergentTeams := n })
    (fun _ => by simp [kinds]) fun _ => Nat.le_refl _

theorem counts_addFence : Counts addFence :=
  counts_field (·.fences) (fun c n => { c with fences := n }) (fun _ => by simp [kinds])
    fun _ => Nat.le_refl _

end Counters

/-- A device with lanes comes to a decision on every request. -/
theorem Arch.exists_decision {arch : Arch} (device : 0 < arch.width) (req : TeamRequest) :
    ∃ decision, arch.sizeTeam req = .ok decision := by
  rcases Nat.eq_zero_or_pos req.available with none | some
  · refine ⟨req.unrounded, ?_⟩
    rw [sizeTeam, if_neg fun fewer => by omega]
  · obtain ⟨decision, sized, -⟩ := exists_sizeTeam device req some
    exact ⟨decision, sized⟩

/-! ## Intact blocks -/

namespace Block

variable {α : Type} {value : α → Prop} {block : Block} {lane : Nat}

/-- **What rules faults out.** The groups of the device have lanes, the free list of the arena names
its empty slots, and without frames no thread has more open regions than were begun. -/
structure Intact (block : Block) : Prop where
  lanes : 0 < block.layout.groupWidth
  device : 0 < block.arch.width
  sound : block.state.arena.Sound
  opened : ∀ tid, (block.state.thread tid).openRegions ≤ block.counters.serialized

/-- On intact blocks the guarded call does what the call does, leaves an intact block, and is halted
only by a full counter. -/
abbrev Safe (value : α → Prop) (guarded call : Dispatch Block α) : Prop :=
  Guards Intact (fun block => block.counters.Full) value guarded call

/-- How a call may stop. -/
abbrev Stopped (failure : Failure) (block : Block) : Prop :=
  block.Intact ∧ Excused (fun block => block.counters.Full) failure block

namespace Intact

theorem refused (h : block.Intact) (error : DispatchError) : Stopped (.rejected error) block :=
  ⟨h, excused_rejected error block⟩

theorem maps (h : block.Intact) : block.layout.MapsLanes := fun _ => h.lanes

theorem withState (h : block.Intact) {state : BlockState}
    (orderly : BlockState.Orderly block.state state) : Intact { block with state } :=
  ⟨h.lanes, h.device, orderly.sound, fun tid => Nat.le_trans (orderly.opened tid) (h.opened tid)⟩

theorem withBoard (h : block.Intact) (board : WorkBoard) : Intact { block with board } := { h with }

theorem withCounters (h : block.Intact) {counters : Counters}
    (grows : block.counters.serialized ≤ counters.serialized) : Intact { block with counters } :=
  ⟨h.lanes, h.device, h.sound, fun tid => Nat.le_trans (h.opened tid) grows⟩

/-- The thread of a lane is found without a fault. -/
theorem ends_threadOf (h : block.Intact) :
    Ends (threadOf lane) block (fun _ t => t = block)
      fun failure t => t = block ∧ ∃ error, failure = .rejected error := by
  simp only [threadOf, h.maps.threadOf_eq, ends_bind, ends_get, ends_refuseIf, checked_ok,
    ends_pure]
  exact ⟨fun _ => ⟨trivial, _, rfl⟩, fun _ => trivial⟩

/-- Counting is halted only by a full counter. -/
theorem ends_tally (h : block.Intact) {count : Counters → Except Fault Counters}
    (counts : Counters.Counts count) :
    Ends (tally count) block (fun _ => Intact) Stopped := by
  simp only [tally, ends_bind, ends_get, ends_checked, ends_modify]
  refine ⟨fun counters counted => h.withCounters (counts.grows _ _ counted), fun fault full => ?_⟩
  refine ⟨h, fun fault' same => ?_⟩
  obtain rfl := Failure.halted.inj same
  exact counts.fails _ _ full

/-- A serialized region that was counted leaves each thread room for one more open region. -/
theorem ends_addSerialized (h : block.Intact) :
    Ends (tally Counters.addSerialized) block
      (fun _ t => t.Intact ∧ ∀ tid, (t.state.thread tid).openRegions < t.counters.serialized ∧
        t.counters.serialized < UInt32.size) Stopped := by
  have room : Ends (tally Counters.addSerialized) block
      (fun _ t => ∀ tid, (t.state.thread tid).openRegions < t.counters.serialized ∧
        t.counters.serialized < UInt32.size) fun _ _ => True := by
    simp only [tally, ends_bind, ends_get, ends_checked, ends_modify]
    refine ⟨fun counters counted tid => ?_, fun _ _ => trivial⟩
    rw [eq_of_map_checkedAdd counted]
    refine ⟨Nat.lt_succ_of_le (h.opened tid), Nat.lt_of_not_le fun full => ?_⟩
    rw [Counters.addSerialized, map_checkedAdd_eq_error.2 ⟨full, rfl⟩] at counted
    cases counted
  exact ((h.ends_tally Counters.counts_addSerialized).and room).mono (fun _ _ both => both)
    fun _ _ both => both.1

end Intact

/-! ## Hints and queries -/

theorem safe_threadOf (lane : Nat) : Safe Any (threadOf lane) (threadOf lane) := by
  refine .self fun block h => h.ends_threadOf.mono ?_ ?_
  · rintro _ _ rfl
    exact ⟨h, trivial⟩
  · rintro _ _ ⟨rfl, error, rfl⟩
    exact h.refused error

theorem safe_onState {f : BlockState → BlockState}
    (orderly : ∀ state, state.arena.Sound → BlockState.Orderly state (f state)) :
    Safe Any (onState f) (onState f) :=
  .modify fun _ h => h.withState (orderly _ h.sound)

theorem safe_tally {count : Counters → Except Fault Counters} (counts : Counters.Counts count) :
    Safe Any (tally count) (tally count) :=
  .self fun _ h => (h.ends_tally counts).mono (fun _ _ kept => ⟨kept, trivial⟩) fun _ _ stop => stop

/-- A hint is one change of the calling thread. -/
theorem safe_modifyThread {f : Thread → Thread}
    (kept : ∀ thread, (f thread).openRegions = thread.openRegions) (lane : Nat) :
    Safe Any (do onState (·.modifyThread (← threadOf lane) f))
      (do onState (·.modifyThread (← threadOf lane) f)) :=
  (safe_threadOf lane).bind fun tid _ => safe_onState fun _ sound =>
    .modifyThread sound tid (Nat.le_of_eq (kept _))

theorem safe_setThreads (lane count : Nat) :
    Safe Any (setThreads lane count) (setThreads lane count) := by
  refine (safe_threadOf lane).bind fun tid _ => .get_bind fun block _ => .ite (fun _ => ?_) fun _ =>
    .pure trivial
  exact (Guards.granted _).bind fun top _ => (Guards.granted _).bind fun _ _ =>
    safe_onState fun _ sound => .modifyFrame sound top _

theorem safe_query (lane : Nat) (framed : Frame → α) (bare : BlockLayout → Nat → Thread → α) :
    Safe Any (query lane framed bare) (query lane framed bare) :=
  (safe_threadOf lane).bind fun _ _ => .get_bind fun _ _ =>
    .ite (fun _ => (Guards.granted _).bind fun _ _ => .pure trivial) fun _ => .pure trivial

theorem safe_thread (lane : Nat) : Safe Any (thread lane) (thread lane) :=
  (safe_threadOf lane).bind fun _ _ => .get_bind fun _ _ => .pure trivial

theorem safe_currentFrame (lane : Nat) : Safe Any (currentFrame lane) (currentFrame lane) :=
  (safe_threadOf lane).bind fun _ _ => .get_bind fun _ _ => (Guards.granted _).any

/-! ## First-level regions -/

theorem safe_requireInitialized (fullRuntime : Bool) :
    Safe Any (requireInitialized fullRuntime) (requireInitialized fullRuntime) :=
  .get_bind fun _ _ => (Guards.refuseIf _ _).any

theorem safe_requireMaster (error : DispatchError) :
    Safe Any (requireMaster error) (requireMaster error) :=
  .get_bind fun _ h => (Guards.refuseIf _ _).bind fun _ _ =>
    (Guards.checked (BlockLayout.masterLane_eq h.lanes)).any

theorem safe_prepareRegion (lane : Nat) (work : WorkHandle) (fullRuntime : Bool) :
    Safe Any (prepareRegion lane work fullRuntime) (prepareRegion lane work fullRuntime) := by
  refine (safe_requireInitialized _).bind fun _ _ => (safe_requireMaster _).bind fun _ _ =>
    (Guards.refuseIf _ _).bind fun _ _ => .get_bind fun block h =>
    (Guards.granted _).bind fun top _ => (Guards.granted _).bind fun frame _ =>
    (Guards.refuseIf _ _).bind fun _ _ => ?_
  obtain ⟨available, lanes⟩ := h.maps.exists_available
  refine (Guards.checked lanes).bind fun available _ => (safe_onState
    (f := fun state => (state.takePendingThreads 0).2) fun _ sound => ?_).bind fun _ _ => ?_
  · exact .modifyThread sound 0 (f := ({ · with pendingThreads := 0 })) (Nat.le_refl _)
  obtain ⟨decision, sized⟩ := Arch.exists_decision h.device
    ⟨(block.state.thread 0).pendingThreads, frame.nthreads, frame.threadLimit, available⟩
  refine (Guards.checked sized).bind fun decision _ => (Guards.refuseIf _ _).bind fun _ _ => ?_
  exact (Guards.modify fun block h => h.withBoard _).bind fun _ _ =>
    (safe_tally Counters.counts_addRegion).bind fun _ _ => .pure trivial

/-- A worker is numbered below the master, so its rank is a remainder by no zero. -/
theorem safe_activate {master : Nat} (worker : lane < master) :
    Safe Any (activate lane master) (activate lane master) := by
  refine .self fun block h => ?_
  rw [activate, ends_bind, ends_get]
  cases (block.state.thread lane).home with
  | none => exact h.refused _
  | some home =>
    rw [checkedMod_of_pos (Nat.zero_lt_of_lt worker), checked_ok]
    simp only [ends_bind, ends_pure, ends_refuseIf, onState, ends_modify]
    refine ⟨fun _ => h.refused _, fun _ => ?_⟩
    have stored := BlockState.Orderly.overwrite h.sound home
      { block.board.template with rank := lane % master }
    have standing := stored.trans (.setTop stored.sound lane home)
    have joined := h.withState (standing.trans (.modifyThread standing.sound lane
      (f := ({ · with event := block.board.events.next })) (Nat.le_refl _)))
    exact (joined.ends_tally Counters.counts_addActivation).mono (fun _ _ kept => ⟨kept, trivial⟩)
      fun _ _ stop => stop

theorem safe_enterRegion (lane : Nat) (fullRuntime : Bool) :
    Safe Any (enterRegion lane fullRuntime) (enterRegion lane fullRuntime) := by
  refine (safe_requireInitialized _).bind fun _ _ => .get_bind fun block _ => ?_
  dsimp only
  split
  · exact .pure trivial
  · refine (safe_requireMaster _).bind fun master _ => (Guards.refuseIf _ _).bind fun _ worker =>
      .ite (fun _ => .pure trivial) fun _ => ?_
    exact (safe_activate (Nat.lt_of_not_le worker)).bind fun _ _ => .pure trivial

theorem safe_exitRegion (lane : Nat) : Safe Any (exitRegion lane) (exitRegion lane) := by
  refine (safe_threadOf lane).bind fun tid _ => .self fun block h => ?_
  simp only [ends_bind, ends_get, ends_granted, ends_refuseIf, onState, ends_modify]
  exact ⟨fun _ _ => ⟨fun _ => h.refused _, fun _ => ⟨fun _ found =>
    ⟨h.withState (.pop h.sound found), trivial⟩, fun error _ => h.refused error⟩⟩,
    fun error _ => h.refused error⟩

theorem safe_signalShutdown (lane : Nat) :
    Safe Any (signalShutdown lane) (signalShutdown lane) :=
  .get_bind fun _ h => (Guards.checked (BlockLayout.masterLane_eq h.lanes)).bind fun _ _ =>
    (Guards.refuseIf _ _).bind fun _ _ => .modify fun _ h => h.withBoard _

/-! ## Serialized regions -/

/-- Enters a serialized region, with the place of the new frame guarded. -/
def guardedBeginSerial (lane : Nat) : Dispatch Block Unit := do
  let tid ← threadOf lane
  tally Counters.addSerialized
  let block ← get
  if block.initialized then
    let top ← granted (block.state.top tid)
    let frame ← granted (block.state.topFrame tid)
    let parked := (block.state.thread tid).loop
    let state := block.state.modifyFrame top ({ · with parkedLoop := some parked })
    let (_, state) ← checked (state.checkedPush tid (frame.serialized top))
    onState fun _ => state
  else
    let openRegions ← checked (checkedAdd UInt32.size (block.state.thread tid).openRegions 1)
    onState fun state => state.modifyThread tid ({ · with openRegions })

/-- **Entering a serialized region.** The frame has a place, and the region that was just counted
leaves room for one more open one. -/
theorem safe_beginSerial (lane : Nat) : Safe Any (guardedBeginSerial lane) (beginSerial lane) := by
  refine (safe_threadOf lane).bind fun tid _ block h => ?_
  -- what the count says about the threads is needed below, so it is run here and not by a rule
  have counts := h.ends_addSerialized
  rcases run : tally Counters.addSerialized block with ⟨⟨⟩, t⟩ | ⟨failure, t⟩
  swap
  · rw [ends_of_error run] at counts
    rw [bind_of_error run, bind_of_error run, ends_bind, ends_of_error run]
    exact ⟨rfl, counts⟩
  rw [ends_of_ok run] at counts
  obtain ⟨counted, room⟩ := counts
  rw [bind_of_ok run, bind_of_ok run, get_bind, get_bind, ends_bind, ends_of_ok run, ends_bind,
    ends_get]
  cases t.initialized with
  | true =>
    have parked (top : FrameId) := BlockState.Orderly.modifyFrame counted.sound top
      ({ · with parkedLoop := some (t.state.thread tid).loop })
    refine ⟨granted_bind_congr fun top _ => granted_bind_congr fun frame _ => ?_, ?_⟩
    · rw [BlockState.checkedPush_eq (parked top).sound]
      rfl
    · simp only [if_true, ends_bind, ends_granted, onState, ends_modify]
      exact ⟨fun top _ => ⟨fun frame _ => ⟨counted.withState ((parked top).trans
        (.push (parked top).sound tid _)), trivial⟩, fun error _ => counted.refused error⟩,
        fun error _ => counted.refused error⟩
  | false =>
    have fits : (t.state.thread tid).openRegions + 1 < UInt32.size := by
      have := room tid
      omega
    refine ⟨rfl, ?_⟩
    simp only [Bool.false_eq_true, if_false, checkedAdd_of_lt fits, checked_ok, ends_bind,
      ends_pure, onState, ends_modify]
    refine ⟨⟨counted.lanes, counted.device, counted.sound, fun other => ?_⟩, trivial⟩
    rw [BlockState.thread_modifyThread]
    split
    · next same => exact (room tid).1
    · exact counted.opened other

theorem safe_unparkLoop (tid : Nat) : Safe Any (unparkLoop tid) (unparkLoop tid) := by
  refine .get_bind fun block _ => (Guards.granted _).bind fun top _ =>
    (Guards.granted _).bind fun frame _ => ?_
  split
  · exact .pure trivial
  · next loop _ =>
    refine safe_onState fun state sound => ?_
    have cleared := BlockState.Orderly.modifyFrame sound top ({ · with parkedLoop := none })
    exact cleared.trans (.modifyThread cleared.sound tid (f := ({ · with loop }))
      (Nat.le_refl _))

theorem safe_endSerial (lane : Nat) : Safe Any (endSerial lane) (endSerial lane) := by
  refine (safe_threadOf lane).bind fun tid _ => .self fun block h => ?_
  rw [ends_bind, ends_get]
  split
  · simp only [ends_bind, ends_granted, ends_refuseIf, onState, ends_modify]
    refine ⟨fun serialized _ => ⟨fun _ => h.refused _, fun _ => ⟨fun popped found => ?_,
      fun error _ => h.refused error⟩⟩, fun error _ => h.refused error⟩
    have left := BlockState.Orderly.pop h.sound found
    exact (safe_unparkLoop tid _ (h.withState (left.trans (.release left.sound popped.1)))).2
  · simp only [ends_bind, ends_refuseIf, onState, ends_modify]
    exact ⟨fun _ => h.refused _, fun _ => ⟨h.withState (.modifyThread h.sound tid (Nat.sub_le _ _)),
      trivial⟩⟩

/-! ## Convergent regions -/

theorem safe_exit (construct : Construct) (hwLane : Nat) (job : Job) :
    Safe Any (Convergent.exit construct hwLane job) (Convergent.exit construct hwLane job) := by
  cases construct with
  | simd =>
    refine (safe_threadOf hwLane).bind fun tid _ =>
      (safe_onState fun _ sound => .withHint sound .simd job.hint tid).bind fun _ _ => ?_
    split
    · exact .reject _
    · exact safe_onState fun _ sound => .setTop sound tid _
  | parallel =>
    refine (safe_threadOf hwLane).bind fun tid _ => ?_
    split
    · exact .reject _
    · next saved _ =>
      refine safe_onState fun state sound => ?_
      have stands := BlockState.Orderly.setTop sound tid saved
      cases job.pushed with
      | none => exact stands.trans (.withHint stands.sound .parallel job.hint tid)
      | some id =>
        have left := stands.trans (.release stands.sound id)
        exact left.trans (.withHint left.sound .parallel job.hint tid)

end Block

/-! ## All calls -/

/-- A call on a block, with the type of its answer. -/
inductive Call : Type → Type where
  /-- A call that answers nothing. -/
  | perform (op : Operation) : Call Unit
  /-- The master posts a region and learns the size of its team. -/
  | prepareRegion (lane : Nat) (work : WorkHandle) (fullRuntime : Bool) : Call TeamDecision
  /-- A worker looks at the board and learns its part. -/
  | enterRegion (lane : Nat) (fullRuntime : Bool) : Call Activation
  /-- A lane leaves a convergent region. -/
  | exitTeam (construct : Construct) (hwLane : Nat) (job : Job) : Call Unit
  /-- A fence of one warp. -/
  | fence : Call Unit
  /-- The team master. -/
  | masterLane : Call Nat
  /-- The lanes that a region can use. -/
  | available : Call Nat
  /-- The number of stored frames. -/
  | liveFrames : Call Nat
  /-- How many regions the thread is in, up to two. -/
  | level (lane : Nat) : Call Nat
  /-- The thread's number in the block. -/
  | globalThread (lane : Nat) : Call Nat
  /-- The thread's rank in its team. -/
  | threadNum (lane : Nat) : Call Nat
  /-- The size of the thread's team. -/
  | teamSize (lane : Nat) : Call Nat
  /-- The thread limit of the thread's team. -/
  | threadLimit (lane : Nat) : Call Nat
  /-- The thread's pending `num_threads` clause. -/
  | pendingThreads (lane : Nat) : Call Nat
  /-- The thread's pending simd limit. -/
  | pendingSimd (lane : Nat) : Call Nat
  /-- The thread's work-sharing state. -/
  | loopState (lane : Nat) : Call LoopState
  /-- The frame on top of the thread's stack. -/
  | currentFrame (lane : Nat) : Call Frame

namespace Call

variable {α : Type}

/-- What a call does. -/
def step : Call α → Dispatch Block α
  | perform op => op.perform
  | prepareRegion lane work fullRuntime => Block.prepareRegion lane work fullRuntime
  | enterRegion lane fullRuntime => Block.enterRegion lane fullRuntime
  | exitTeam construct hwLane job => Convergent.exit construct hwLane job
  | fence => Block.fence
  | masterLane => do checked (← get).layout.masterLane
  | available => do checked (← get).layout.available
  | liveFrames => return (← get).liveFrames
  | level lane => Block.level lane
  | globalThread lane => Block.globalThread lane
  | threadNum lane => Block.threadNum lane
  | teamSize lane => Block.teamSize lane
  | threadLimit lane => Block.threadLimit lane
  | pendingThreads lane => Block.pendingThreads lane
  | pendingSimd lane => Block.pendingSimd lane
  | loopState lane => Block.loopState lane
  | currentFrame lane => Block.currentFrame lane

/-- What a call does with its accesses guarded. -/
def guarded : Call α → Dispatch Block α
  | perform (.beginSerial lane) => Block.guardedBeginSerial lane
  | liveFrames => do checked (← get).state.arena.checkedLive
  | call => call.step

/-- **No call faults on an intact block**, except where it counts an event too many. -/
theorem safe (call : Call α) : Block.Safe Any call.guarded call.step := by
  cases call with
  | perform op =>
    cases op with
    | prepareRegion lane work fullRuntime =>
      exact (Block.safe_prepareRegion lane work fullRuntime).bind fun _ _ => .pure trivial
    | enterRegion lane fullRuntime =>
      exact (Block.safe_enterRegion lane fullRuntime).bind fun _ _ => .pure trivial
    | exitRegion lane => exact Block.safe_exitRegion lane
    | signalShutdown lane => exact Block.safe_signalShutdown lane
    | beginSerial lane => exact Block.safe_beginSerial lane
    | endSerial lane => exact Block.safe_endSerial lane
    | setThreads lane count => exact Block.safe_setThreads lane count
    | setLoop lane loop =>
      exact Block.safe_modifyThread (f := ({ · with loop })) (fun _ => rfl) lane
    | pushThreads lane count =>
      exact Block.safe_modifyThread (f := ({ · with pendingThreads := count })) (fun _ => rfl) lane
    | pushSimd lane limit =>
      exact Block.safe_modifyThread (f := ({ · with pendingSimd := limit })) (fun _ => rfl) lane
    | requestTeams => exact .reject _
    | bindProcs => exact .pure trivial
  | prepareRegion lane work fullRuntime => exact Block.safe_prepareRegion lane work fullRuntime
  | enterRegion lane fullRuntime => exact Block.safe_enterRegion lane fullRuntime
  | exitTeam construct hwLane job => exact Block.safe_exit construct hwLane job
  | fence => exact Block.safe_tally Counters.counts_addFence
  | masterLane =>
    exact .get_bind fun _ h => (Guards.checked (BlockLayout.masterLane_eq h.lanes)).any
  | available =>
    refine .get_bind fun _ h => ?_
    obtain ⟨available, lanes⟩ := h.maps.exists_available
    exact (Guards.checked lanes).any
  | liveFrames =>
    refine .get_bind fun block h => ?_
    rw [h.sound.checkedLive_eq]
    exact .pure trivial
  | globalThread lane => exact Block.safe_threadOf lane
  | level lane | threadNum lane | teamSize lane | threadLimit lane =>
    unfold guarded step
    exact Block.safe_query lane _ _
  | pendingThreads lane | pendingSimd lane | loopState lane =>
    exact (Block.safe_thread lane).bind fun _ _ => .pure trivial
  | currentFrame lane => exact Block.safe_currentFrame lane

end Call

end RegionDispatch
