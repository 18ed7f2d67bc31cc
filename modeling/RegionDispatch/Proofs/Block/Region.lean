import RegionDispatch.Block.Region
import RegionDispatch.Proofs.Block.Serial

/-! # What the steps of a first-level region do

The generic-mode protocol step by step. `BlockState.joinTeam` is the change that activates a worker:
its own first-level frame is replaced by a copy of the posted one and becomes the top of its stack.
-/

namespace RegionDispatch

/-- The frame of the member of a rank: a copy of the posted one. -/
def WorkBoard.memberFrame (board : WorkBoard) (rank : Nat) : Frame := { board.template with rank }

namespace BlockState

variable {state : BlockState} {tid other event : Nat} {home id : FrameId} {frame : Frame}

/-- Puts a thread on its first-level frame `home`, which becomes `frame`. -/
def joinTeam (state : BlockState) (tid : Nat) (home : FrameId) (frame : Frame) (event : Nat) :
    BlockState :=
  ((state.overwrite home frame).2.setTop tid home).modifyThread tid ({ · with event })

@[simp] theorem size_joinTeam :
    (state.joinTeam tid home frame event).threads.size = state.threads.size := by
  rw [joinTeam, size_modifyThread, size_setTop, size_overwrite]

theorem thread_joinTeam_of_ne (h : other ≠ tid) :
    (state.joinTeam tid home frame event).thread other = state.thread other := by
  rw [joinTeam, thread_modifyThread_of_ne h, thread_setTop_of_ne h, thread_overwrite]

theorem thread_joinTeam_self (h : tid < state.threads.size) :
    (state.joinTeam tid home frame event).thread tid =
      { state.thread tid with top := some home, event } := by
  rw [joinTeam, thread_modifyThread_self (by simpa using h), thread_setTop_self (by simpa using h),
    thread_overwrite]

@[simp] theorem arena_joinTeam :
    (state.joinTeam tid home frame event).arena = (state.arena.overwrite home frame).2 := rfl

theorem get?_joinTeam (hlive : state.arena.isLive home = true) :
    (state.joinTeam tid home frame event).arena.get? id =
      if id = home then some frame else state.arena.get? id := by
  rw [arena_joinTeam, FrameArena.get?_overwrite]
  simp only [hlive, and_true]

end BlockState

namespace Block

open Dispatch

variable {block : Block} {lane tid : Nat} {work : WorkHandle} {fullRuntime : Bool}
  {top home parent : FrameId} {frame : Frame} {decision : TeamDecision}
  {stopped : Failure → Block → Prop}

/-! ## Who may call -/

theorem ends_requireInitialized {done : Unit → Block → Prop} :
    Ends (requireInitialized fullRuntime) block done stopped ↔
      (¬(fullRuntime = true ∧ block.initialized = true) →
        stopped (.rejected .runtimeUninitialized) block) ∧
      (fullRuntime = true ∧ block.initialized = true → done () block) := by
  simp only [requireInitialized, ends_bind, ends_get, ends_refuseIf]
  cases fullRuntime <;> cases block.initialized <;> simp

theorem ends_requireInitialized_of (initialized : block.initialized = true)
    {done : Unit → Block → Prop} :
    Ends (requireInitialized true) block done stopped ↔ done () block := by
  rw [ends_requireInitialized, initialized]
  simp only [and_self, not_true, false_imp_iff, true_imp_iff, true_and]

theorem ends_requireMaster (maps : block.layout.MapsLanes) {error : DispatchError}
    {done : Nat → Block → Prop} :
    Ends (requireMaster error) block done stopped ↔
      (block.layout.mode ≠ .generic → stopped (.rejected error) block) ∧
      (block.layout.mode = .generic → done block.layout.master block) := by
  simp only [requireMaster, ends_bind, ends_get, ends_refuseIf, ends_checked, not_not]
  refine and_congr_right fun _ => forall_congr' fun generic => ?_
  rw [BlockLayout.masterLane_eq (maps generic)]
  simp only [Except.ok.injEq, forall_eq', reduceCtorEq, false_imp_iff, implies_true, and_true]

/-! ## The master -/

/-- The inputs of the sizing decision of the master's next region. -/
def nextRequest (block : Block) (frame : Frame) : TeamRequest where
  clause := (block.state.thread 0).pendingThreads
  nthreads := frame.nthreads
  limit := frame.threadLimit
  available := block.layout.master

/-- The block once a region is posted, but not yet counted. -/
def posted (block : Block) (work : WorkHandle) (template : Frame) : Block :=
  { block with state := (block.state.takePendingThreads 0).2, board := .post work template }

section Prepare

variable (maps : block.layout.MapsLanes) (generic : block.layout.mode = .generic)
  (initialized : block.initialized = true) (htop : (block.state.thread 0).top = some top)
  (hframe : block.state.arena.get? top = some frame)

include maps generic initialized htop hframe

/-- What the master's step comes to once its guards have passed and its team is sized. -/
theorem ends_prepareRegion_of_sized (outside : frame.depth = .sequential)
    (sized : block.arch.sizeTeam (block.nextRequest frame) = .ok decision)
    (pos : decision.size ≠ 0) {done : TeamDecision → Block → Prop} :
    Ends (prepareRegion block.layout.master work true) block done stopped ↔
      Ends (tally Counters.addRegion) (block.posted work (frame.teamTemplate top decision.size))
        (fun _ t => done decision t) stopped := by
  have lanes : block.layout.available = .ok block.layout.master := by
    rw [BlockLayout.available, generic]
    exact BlockLayout.masterLane_eq (maps generic)
  have alone : frame.depth.inParallel = false := by rw [outside]; rfl
  unfold nextRequest at sized
  simp [prepareRegion, ends_requireInitialized_of initialized, ends_requireMaster maps, generic,
    BlockState.top_eq_ok.2 htop, BlockState.frame_eq_ok.2 hframe, alone, lanes, sized, pos, onState,
    posted]

/-- The master posts a region as long as the counter has room. -/
theorem prepareRegion_of_room (outside : frame.depth = .sequential)
    (sized : block.arch.sizeTeam (block.nextRequest frame) = .ok decision)
    (pos : decision.size ≠ 0) (room : block.counters.regions + 1 < UInt32.size) :
    prepareRegion block.layout.master work true block =
      .ok decision { block.posted work (frame.teamTemplate top decision.size) with
        counters := { block.counters with regions := block.counters.regions + 1 } } := by
  refine eq_ok_of_ends ?_
  rw [ends_prepareRegion_of_sized maps generic initialized htop hframe outside sized pos]
  simp [tally, Counters.addRegion, posted, checkedAdd_of_lt room, Except.map]

/-- A full counter halts the master. -/
theorem prepareRegion_of_full (outside : frame.depth = .sequential)
    (sized : block.arch.sizeTeam (block.nextRequest frame) = .ok decision)
    (pos : decision.size ≠ 0) (full : UInt32.size ≤ block.counters.regions + 1) :
    prepareRegion block.layout.master work true block =
      .error (.halted .addOverflow)
        (block.posted work (frame.teamTemplate top decision.size)) := by
  refine eq_error_of_ends ?_
  rw [ends_prepareRegion_of_sized maps generic initialized htop hframe outside sized pos]
  simp [tally, Counters.addRegion, posted, checkedAdd, Nat.not_lt.2 full, Except.map]

end Prepare

/-! ## The workers -/

/-- The block once a worker is activated, but not yet counted. -/
def joined (block : Block) (lane : Nat) (home : FrameId) : Block :=
  { block with
    state := block.state.joinTeam lane home (block.board.memberFrame lane) block.board.events.next }

section Enter

variable (maps : block.layout.MapsLanes) (generic : block.layout.mode = .generic)
  (initialized : block.initialized = true) (hposted : block.board.posted = some work)
  (worker : lane < block.layout.master)

include maps generic initialized hposted worker

/-- A worker beyond the team stays idle. -/
theorem enterRegion_of_teamSize_le (beyond : block.board.teamSize ≤ lane) :
    enterRegion lane true block = .ok (.idle work) block := by
  refine eq_ok_of_ends ?_
  simp [enterRegion, ends_requireInitialized_of initialized, ends_requireMaster maps, generic,
    hposted, beyond, worker]

/-- What a worker's step comes to once it is known to belong to the team. -/
theorem ends_enterRegion_of_member (member : lane < block.board.teamSize)
    (hhome : (block.state.thread lane).home = some home)
    (hlive : block.state.arena.isLive home = true) {done : Activation → Block → Prop} :
    Ends (enterRegion lane true) block done stopped ↔
      Ends (tally Counters.addActivation) (block.joined lane home)
        (fun _ t => done (.active work) t) stopped := by
  have rank : checkedMod lane block.layout.master = .ok lane := by
    rw [checkedMod_of_pos (Nat.zero_lt_of_lt worker), Nat.mod_eq_of_lt worker]
  simp [enterRegion, activate, ends_requireInitialized_of initialized, ends_requireMaster maps,
    generic, hposted, rank, Nat.not_le.2 member, worker, hhome, hlive, onState, joined,
    BlockState.joinTeam, WorkBoard.memberFrame]

/-- A worker of the team is activated as long as the counter has room. -/
theorem enterRegion_of_room (member : lane < block.board.teamSize)
    (hhome : (block.state.thread lane).home = some home)
    (hlive : block.state.arena.isLive home = true)
    (room : block.counters.activations + 1 < UInt32.size) :
    enterRegion lane true block =
      .ok (.active work) { block.joined lane home with
        counters := { block.counters with activations := block.counters.activations + 1 } } := by
  refine eq_ok_of_ends ?_
  rw [ends_enterRegion_of_member maps generic initialized hposted worker member hhome hlive]
  simp [tally, Counters.addActivation, joined, checkedAdd_of_lt room, Except.map]

/-- A full counter halts the worker. -/
theorem enterRegion_of_full (member : lane < block.board.teamSize)
    (hhome : (block.state.thread lane).home = some home)
    (hlive : block.state.arena.isLive home = true)
    (full : UInt32.size ≤ block.counters.activations + 1) :
    enterRegion lane true block = .error (.halted .addOverflow) (block.joined lane home) := by
  refine eq_error_of_ends ?_
  rw [ends_enterRegion_of_member maps generic initialized hposted worker member hhome hlive]
  simp [tally, Counters.addActivation, joined, checkedAdd, Nat.not_lt.2 full, Except.map]

end Enter

/-- A thread on its own first-level frame leaves to the frame below. -/
theorem exitRegion_of_home (inside : lane < block.layout.size)
    (owner : block.layout.threadOf lane = .ok tid)
    (htop : (block.state.thread tid).top = some home)
    (hhome : (block.state.thread tid).home = some home)
    (hframe : block.state.arena.get? home = some frame) (hparent : frame.parent = some parent) :
    exitRegion lane block = .ok () { block with state := block.state.setTop tid parent } := by
  refine eq_ok_of_ends ?_
  simp [exitRegion, ends_of_ok (threadOf_of_lt inside owner), BlockState.top_eq_ok.2 htop, hhome,
    BlockState.pop_eq_ok htop hframe hparent, onState]

end Block

end RegionDispatch
