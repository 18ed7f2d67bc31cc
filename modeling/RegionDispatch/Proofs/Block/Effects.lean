import RegionDispatch.Convergent.Region
import RegionDispatch.Kernel.Region
import RegionDispatch.Proofs.Block.Operation
import RegionDispatch.Proofs.Block.Region

/-! # What a call can do to a block

What each call finds and leaves, over every block with the full runtime, whatever its frames and
threads are. What holds of all calls is read off this, without opening a call again.

* **`Block.Effect`** — the blocks a call can lead to, where it returns and where it stops.
* **`Block.effect_perform`** — no call leads to another.
* `Block.effect_beginNested`, `Block.effect_exit` — the same for a nested region and for leaving a
  convergent region. -/

namespace RegionDispatch

open Dispatch

/-- The frames once the frame pushed for a lane, if there is one, is released. -/
def BlockState.releases (state : BlockState) : Option FrameId → BlockState
  | none => state
  | some id => state.release id

/-- What changes when a lane leaves a convergent region with what it saved. -/
def BlockState.vacate (state : BlockState) (tid : Nat) (saved : FrameId) (job : Job) :
    Construct → BlockState
  | .simd => (state.modifyThread tid (Construct.simd.withHint job.hint)).setTop tid saved
  | .parallel =>
    ((state.setTop tid saved).releases job.pushed).modifyThread tid
      (Construct.parallel.withHint job.hint)

namespace Block

variable {block : Block} {lane : Nat}

/-- The lane has the thread `tid`. -/
structure Owns (block : Block) (lane tid : Nat) : Prop where
  inside : lane < block.layout.size
  owner : block.layout.threadOf lane = .ok tid

theorem Owns.eq_owner {tid : Nat} (h : block.Owns lane tid) (maps : block.layout.MapsLanes) :
    tid = block.layout.owner lane := by
  have owner := h.owner
  rw [maps.threadOf_eq, Except.ok.injEq] at owner
  exact owner.symm

theorem Owns.toOption_threadOf {tid : Nat} (h : block.Owns lane tid) :
    (block.layout.threadOf lane).toOption = some tid := by
  rw [h.owner]
  rfl

theorem Owns.maps {tid : Nat} (h : block.Owns lane tid) : block.layout.MapsLanes := by
  intro generic
  have owner := h.owner
  rw [BlockLayout.threadOf, generic] at owner
  cases found : block.layout.masterLane with
  | ok master => exact BlockLayout.pos_of_masterLane found
  | error fault =>
    rw [found] at owner
    cases owner

/-- What the master finds when it posts a region: it is no master of an SPMD block, and thread 0
stands on the live frame `frame` outside all regions. -/
structure Posts (block : Block) (top : FrameId) (frame : Frame) : Prop where
  generic : block.layout.mode = .generic
  master : ∃ lane, block.layout.masterLane = .ok lane
  stands : (block.state.thread 0).top = some top
  stored : block.state.arena.get? top = some frame
  outside : frame.depth.inParallel = false

/-- What a worker finds when it joins a team: a region is posted, the worker lies below the master,
and the frame `home` that is set aside for it is stored. -/
structure Activates (block : Block) (lane : Nat) (home : FrameId) : Prop where
  posted : ∃ work, block.board.posted = some work
  generic : block.layout.mode = .generic
  worker : ∃ master, block.layout.masterLane = .ok master ∧ lane < master
  reserved : (block.state.thread lane).home = some home
  live : block.state.arena.isLive home = true

/-- What a worker finds when it leaves a region: it stands on the frame that is set aside for it. -/
structure Exits (block : Block) (lane tid : Nat) (home parent : FrameId) (frame : Frame) :
    Prop where
  owns : block.Owns lane tid
  stands : (block.state.thread tid).top = some home
  reserved : (block.state.thread tid).home = some home
  stored : block.state.arena.get? home = some frame
  linked : frame.parent = some parent

/-- What a thread finds when it enters a serialized region: it stands on the live frame `frame`. -/
structure Opens (block : Block) (lane tid : Nat) (top : FrameId) (frame : Frame) : Prop where
  owns : block.Owns lane tid
  stands : (block.state.thread tid).top = some top
  stored : block.state.arena.get? top = some frame

/-- What a thread finds when it leaves a serialized region: it stands on a frame that is not the one
set aside for it and was pushed by entering. -/
structure Closes (block : Block) (lane tid : Nat) (top parent : FrameId) (frame below : Frame) :
    Prop where
  owns : block.Owns lane tid
  stands : (block.state.thread tid).top = some top
  away : (block.state.thread tid).home ≠ some top
  stored : block.state.arena.get? top = some frame
  linked : frame.parent = some parent
  next : block.state.arena.get? parent = some below
  serialized : frame.serializedOn below = true

/-- **What a call can do.** Either it returned or it stopped, and what it found and left is one of
these. -/
inductive Effect (block : Block) : (op : Operation) → (returned : Bool) → Block → Prop where
  | refused {op : Operation} : Effect block op false block
  /-- No team can be formed, but the clause is spent. -/
  | spent {lane : Nat} {work : WorkHandle} {fullRuntime : Bool} {top : FrameId} {frame : Frame}
      (posts : block.Posts top frame) :
      Effect block (.prepareRegion lane work fullRuntime) false
        { block with state := (block.state.takePendingThreads 0).2 }
  | posted {lane size : Nat} {work : WorkHandle} {fullRuntime returned : Bool} {top : FrameId}
      {frame : Frame} {counters : Counters} (posts : block.Posts top frame) :
      Effect block (.prepareRegion lane work fullRuntime) returned
        { block.posted work (frame.teamTemplate top size) with counters }
  /-- The team shuts down, or the worker does not belong to it. -/
  | idle {lane : Nat} {fullRuntime : Bool} : Effect block (.enterRegion lane fullRuntime) true block
  | joined {lane : Nat} {fullRuntime returned : Bool} {home : FrameId} {counters : Counters}
      (activates : block.Activates lane home) :
      Effect block (.enterRegion lane fullRuntime) returned
        { block.joined lane home with counters }
  | left {lane tid : Nat} {home parent : FrameId} {frame : Frame}
      (exits : block.Exits lane tid home parent frame) :
      Effect block (.exitRegion lane) true { block with state := block.state.setTop tid parent }
  | retired {lane : Nat} :
      Effect block (.signalShutdown lane) true { block with board := block.board.retire }
  /-- The thread has no top to stand on, but the region is counted. -/
  | counted {lane : Nat} {counters : Counters} :
      Effect block (.beginSerial lane) false { block with counters }
  | opened {lane tid : Nat} {top : FrameId} {frame : Frame} {counters : Counters}
      (opens : block.Opens lane tid top frame) :
      Effect block (.beginSerial lane) true
        { block with state := block.state.openSerial tid top frame, counters }
  | closed {lane tid : Nat} {top parent : FrameId} {frame below : Frame} {loop : LoopState}
      (closes : block.Closes lane tid top parent frame below) (distinct : parent ≠ top) :
      Effect block (.endSerial lane) true
        { block with state := block.state.closeSerial tid top parent loop }
  /-- The frame stands on itself: it is released before the loop state is looked for. -/
  | lost {lane tid : Nat} {top : FrameId} {frame : Frame}
      (closes : block.Closes lane tid top top frame frame) :
      Effect block (.endSerial lane) false
        { block with state := (block.state.setTop tid top).release top }
  | requested {lane tid count : Nat} {top : FrameId} (owns : block.Owns lane tid)
      (stands : (block.state.thread tid).top = some top) :
      Effect block (.setThreads lane count) true
        { block with state := block.state.modifyFrame top ({ · with nthreads := count }) }
  | looped {lane tid : Nat} {loop : LoopState} (owns : block.Owns lane tid) :
      Effect block (.setLoop lane loop) true
        { block with state := block.state.modifyThread tid ({ · with loop }) }
  | hinted {lane tid count : Nat} (owns : block.Owns lane tid) :
      Effect block (.pushThreads lane count) true
        { block with state := block.state.modifyThread tid ({ · with pendingThreads := count }) }
  | limited {lane tid limit : Nat} (owns : block.Owns lane tid) :
      Effect block (.pushSimd lane limit) true
        { block with state := block.state.modifyThread tid ({ · with pendingSimd := limit }) }
  | bound : Effect block .bindProcs true block

/-- **What the master is granted**: a team of at least one lane, of the size that its own request
comes to. The region is on the board, and the clause is spent. -/
inductive Grants (block : Block) (work : WorkHandle) : TeamDecision → Block → Prop where
  | posted {decision : TeamDecision} {top : FrameId} {frame : Frame} {counters : Counters}
      (posts : block.Posts top frame)
      (sized : block.arch.sizeTeam (block.nextRequest frame) = .ok decision)
      (some : 0 < decision.size) :
      Grants block work decision
        { block.posted work (frame.teamTemplate top decision.size) with counters }

/-- **What a worker is told** when it looks at the board: a retired board dismisses it, and a posted
region is named to it, as its own if it belongs to the team and joined it. -/
inductive Answers (block : Block) (lane : Nat) : Activation → Block → Prop where
  | dismissed (retired : block.board.posted = none) : Answers block lane .terminate block
  | idle {work : WorkHandle} (posted : block.board.posted = some work)
      (beyond : block.board.teamSize ≤ lane) : Answers block lane (.idle work) block
  | active {work : WorkHandle} {home : FrameId} {counters : Counters}
      (posted : block.board.posted = some work) (member : lane < block.board.teamSize)
      (activates : block.Activates lane home) :
      Answers block lane (.active work) { block.joined lane home with counters }

/-- No call makes or unmakes the full runtime. -/
theorem Effect.initialized {op : Operation} {returned : Bool} {after : Block}
    (effect : Effect block op returned after) : after.initialized = block.initialized := by
  cases effect <;> rfl

/-- No call changes the device. -/
theorem Effect.arch {op : Operation} {returned : Bool} {after : Block}
    (effect : Effect block op returned after) : after.arch = block.arch := by
  cases effect <;> rfl

/-- No call changes the layout. -/
theorem Effect.layout {op : Operation} {returned : Bool} {after : Block}
    (effect : Effect block op returned after) : after.layout = block.layout := by
  cases effect <;> rfl

/-- **A device without lanes** lets no call reach the frames and threads of a generic block. -/
theorem Effect.of_not_mapsLanes {op : Operation} {returned : Bool} {after : Block}
    (effect : Effect block op returned after) (unmapped : ¬block.layout.MapsLanes) :
    after.state = block.state ∧ (op.isEnd && returned) = false := by
  have absent {P : Prop} {lane tid : Nat} (owns : block.Owns lane tid) : P :=
    absurd owns.maps unmapped
  have masterless {P : Prop} (master : ∃ lane, block.layout.masterLane = .ok lane) : P :=
    let ⟨_, found⟩ := master
    absurd (fun _ => BlockLayout.pos_of_masterLane found) unmapped
  cases effect with
  | refused => exact ⟨rfl, Bool.and_false _⟩
  | idle | retired | counted | bound => exact ⟨rfl, rfl⟩
  | spent posts | posted posts => exact masterless posts.master
  | joined activates => exact masterless (activates.worker.imp fun _ found => found.1)
  | left exits => exact absent exits.owns
  | opened opens => exact absent opens.owns
  | closed closes distinct => exact absent closes.owns
  | lost closes => exact absent closes.owns
  | requested owns stands => exact absent owns
  | looped owns | hinted owns | limited owns => exact absent owns

/-- A lane has no thread where it lies outside the block, or the device has no lanes. -/
theorem ends_threadOf (lane : Nat) :
    Ends (threadOf lane) block (fun tid t => t = block ∧ block.Owns lane tid) fun failure t =>
      t = block ∧
        (failure = .rejected (.laneOutOfRange lane block.layout.size) ∧ block.layout.size ≤ lane ∨
          (∃ fault, failure = .halted fault) ∧ ¬block.layout.MapsLanes) := by
  simp only [threadOf, ends_bind, ends_get, ends_refuseIf, ends_checked, Nat.not_le]
  refine ⟨fun outside => ⟨trivial, .inl ⟨trivial, outside⟩⟩, fun inside =>
    ⟨fun tid owner => ⟨trivial, inside, owner⟩,
      fun fault unmapped => ⟨trivial, .inr ⟨⟨fault, rfl⟩, fun maps => ?_⟩⟩⟩⟩
  rw [maps.threadOf_eq] at unmapped
  cases unmapped

theorem effect_threadOf :
    Ends (threadOf lane) block (fun tid t => t = block ∧ block.Owns lane tid)
      fun _ t => t = block :=
  (ends_threadOf lane).mono (fun _ _ done => done) fun _ _ stopped => stopped.1

theorem effect_tally (count : Counters → Except Fault Counters) :
    Ends (tally count) block (fun _ t => ∃ counters, t = { block with counters })
      fun _ t => t = block := by
  simp only [tally, ends_bind, ends_get, ends_checked, ends_modify]
  exact ⟨fun counters _ => ⟨counters, rfl⟩, fun _ _ => trivial⟩

/-- A change of the calling thread's record. -/
theorem effect_modifyThread (f : Thread → Thread) :
    Ends (do let tid ← threadOf lane; onState fun state => state.modifyThread tid f) block
      (fun _ t => ∃ tid, block.Owns lane tid ∧
        t = { block with state := block.state.modifyThread tid f })
      fun _ t => t = block := by
  rw [ends_bind]
  refine effect_threadOf.mono ?_ fun _ _ stopped => stopped
  rintro tid _ ⟨rfl, owns⟩
  exact ⟨tid, owns, rfl⟩

/-! ## First-level regions -/

theorem effect_prepareRegion (work : WorkHandle) (fullRuntime : Bool) :
    Ends (prepareRegion lane work fullRuntime) block
      (fun decision t => block.Grants work decision t ∧
        Effect block (.prepareRegion lane work fullRuntime) true t)
      fun _ => Effect block (.prepareRegion lane work fullRuntime) false := by
  simp only [prepareRegion, requireInitialized, requireMaster, ends_bind, ends_get, ends_refuseIf,
    ends_checked, ends_granted, onState, ends_modify, ends_pure, not_not]
  refine ⟨fun _ => .refused, fun _ => ⟨fun _ => .refused, fun generic => ⟨fun master found =>
    ⟨fun _ => .refused, fun _ => ⟨fun top htop => ⟨fun frame hframe => ⟨fun _ => .refused,
      fun outside => ?_⟩, fun _ _ => .refused⟩, fun _ _ => .refused⟩⟩, fun _ _ => .refused⟩⟩⟩
  have posts : block.Posts top frame :=
    ⟨generic, ⟨master, found⟩, BlockState.top_eq_ok.1 htop, BlockState.frame_eq_ok.1 hframe,
      Bool.eq_false_of_not_eq_true outside⟩
  have lanes : block.layout.available = .ok block.layout.master := by
    rw [BlockLayout.available, generic]
    exact BlockLayout.masterLane_eq (BlockLayout.pos_of_masterLane found)
  rw [lanes]
  refine ⟨fun available same => ?_, fun _ _ => .refused⟩
  cases same
  refine ⟨fun decision sized => ⟨fun _ => .spent posts, fun some => ?_⟩, fun _ _ => .spent posts⟩
  refine (effect_tally _).mono ?_ ?_
  · rintro _ _ ⟨counters, rfl⟩
    exact ⟨.posted posts sized (Nat.pos_of_ne_zero some), .posted posts⟩
  · rintro _ _ rfl
    exact .posted posts

theorem effect_activate {master : Nat} {work : WorkHandle} (fullRuntime : Bool)
    (posted : block.board.posted = some work) (generic : block.layout.mode = .generic)
    (found : block.layout.masterLane = .ok master) (worker : lane < master) :
    Ends (activate lane master) block
      (fun _ t => ∃ home counters, block.Activates lane home ∧
        t = { block.joined lane home with counters })
      fun _ => Effect block (.enterRegion lane fullRuntime) false := by
  rw [activate, ends_bind, ends_get]
  cases hhome : (block.state.thread lane).home with
  | none => exact .refused
  | some home =>
    have rank : checkedMod lane master = .ok lane := by
      rw [checkedMod_of_pos (Nat.zero_lt_of_lt worker), Nat.mod_eq_of_lt worker]
    simp only [rank, ends_bind, ends_checked, ends_refuseIf, onState, ends_modify,
      BlockState.overwrite_fst, Bool.not_eq_true', Bool.not_eq_false]
    refine ⟨fun own same => ⟨fun _ => .refused, fun live => ?_⟩, fun _ stuck => by cases stuck⟩
    cases same
    have activates : block.Activates lane home :=
      ⟨⟨work, posted⟩, generic, ⟨master, found, worker⟩, hhome, live⟩
    refine (effect_tally _).mono ?_ ?_
    · rintro _ _ ⟨counters, rfl⟩
      exact ⟨home, counters, activates, rfl⟩
    · rintro _ _ rfl
      exact .joined activates

/-- The worker learns what is posted. -/
theorem effect_enterRegion (fullRuntime : Bool) :
    Ends (enterRegion lane fullRuntime) block
      (fun answer t => block.Answers lane answer t ∧
        Effect block (.enterRegion lane fullRuntime) true t)
      fun _ => Effect block (.enterRegion lane fullRuntime) false := by
  simp only [enterRegion, requireInitialized, ends_bind, ends_get, ends_refuseIf]
  refine ⟨fun _ => .refused, fun _ => ?_⟩
  cases posted : block.board.posted with
  | none => exact ⟨.dismissed posted, .idle⟩
  | some work =>
    simp only [requireMaster, ends_bind, ends_get, ends_refuseIf, ends_checked, not_not,
      Nat.not_le]
    refine ⟨fun _ => .refused, fun generic => ⟨fun master found => ⟨fun _ => .refused,
      fun worker => ?_⟩, fun _ _ => .refused⟩⟩
    split
    · next beyond => exact ⟨.idle posted beyond, .idle⟩
    · next member =>
      rw [ends_bind]
      refine (effect_activate fullRuntime posted generic found worker).mono ?_ fun _ _ h => h
      rintro _ _ ⟨home, counters, activates, rfl⟩
      exact ⟨.active posted (Nat.lt_of_not_le member) activates, .joined activates⟩

theorem effect_exitRegion :
    Ends (exitRegion lane) block (fun _ => Effect block (.exitRegion lane) true)
      fun _ => Effect block (.exitRegion lane) false := by
  rw [exitRegion, ends_bind]
  refine effect_threadOf.mono ?_ fun _ _ stopped => stopped ▸ .refused
  rintro tid block ⟨rfl, owns⟩
  simp only [ends_bind, ends_get, ends_granted, ends_refuseIf, onState, ends_modify, not_not]
  refine ⟨fun top htop => ⟨fun _ => .refused, fun reserved => ⟨?_, fun _ _ => .refused⟩⟩,
    fun _ _ => .refused⟩
  rintro ⟨id, state⟩ popped
  have stands := BlockState.top_eq_ok.1 htop
  obtain ⟨frame, parent, stored, linked, rfl⟩ := BlockState.of_pop_eq_ok stands popped
  exact .left ⟨owns, stands, reserved, stored, linked⟩

theorem effect_signalShutdown :
    Ends (signalShutdown lane) block (fun _ => Effect block (.signalShutdown lane) true)
      fun _ => Effect block (.signalShutdown lane) false := by
  simp only [signalShutdown, ends_bind, ends_get, ends_checked, ends_refuseIf, ends_modify]
  exact ⟨fun _ _ => ⟨fun _ => .refused, fun _ => .retired⟩, fun _ _ => .refused⟩

/-! ## Serialized regions -/

theorem effect_beginSerial (initialized : block.initialized = true) :
    Ends (beginSerial lane) block (fun _ => Effect block (.beginSerial lane) true)
      fun _ => Effect block (.beginSerial lane) false := by
  rw [beginSerial, ends_bind]
  refine effect_threadOf.mono ?_ fun _ _ stopped => stopped ▸ .refused
  rintro tid block ⟨rfl, owns⟩
  rw [ends_bind]
  refine (effect_tally _).mono ?_ fun _ _ stopped => stopped ▸ .refused
  rintro _ _ ⟨counters, rfl⟩
  rw [ends_bind, ends_get, if_pos initialized]
  simp only [ends_bind, ends_granted, onState, ends_modify]
  refine ⟨fun top htop => ⟨fun frame hframe => ?_, fun _ _ => .counted⟩, fun _ _ => .counted⟩
  have stands := BlockState.top_eq_ok.1 htop
  exact .opened ⟨owns, stands, (BlockState.topFrame_eq_ok stands).1 hframe⟩

theorem effect_endSerial (initialized : block.initialized = true) :
    Ends (endSerial lane) block (fun _ => Effect block (.endSerial lane) true)
      fun _ => Effect block (.endSerial lane) false := by
  rw [endSerial, ends_bind]
  refine effect_threadOf.mono ?_ fun _ _ stopped => stopped ▸ .refused
  rintro tid block ⟨rfl, owns⟩
  rw [ends_bind, ends_get, if_pos initialized]
  simp only [ends_bind, ends_granted, ends_refuseIf]
  refine ⟨fun serialized recognized => ⟨fun _ => .refused, fun goes => ?_⟩, fun _ _ => .refused⟩
  have yes : serialized = true := by simpa using goes
  obtain ⟨top, parent, frame, below, stands, away, stored, linked, next, serialized⟩ :=
    BlockState.of_topIsSerialized (recognized.trans (congrArg _ yes))
  have closes : block.Closes lane tid top parent frame below :=
    ⟨owns, stands, away, stored, linked, next, serialized⟩
  rw [BlockState.pop_eq_ok stands stored linked]
  simp only [Except.ok.injEq, forall_eq', reduceCtorEq, false_imp_iff, implies_true, and_true,
    onState, ends_modify]
  have top' : (((block.state.setTop tid parent).release top).thread tid).top = some parent := by
    rw [BlockState.thread_release, BlockState.thread_setTop_self (BlockState.lt_size_of_top stands)]
  by_cases distinct : parent = top
  · -- a frame that stands on itself is gone before the loop state is looked for
    subst distinct
    rw [next, Option.some.injEq] at stored
    subst stored
    have gone : ((block.state.setTop tid parent).release parent).arena.get? parent = none := by
      rw [BlockState.arena_release, FrameArena.get?_release, if_pos rfl]
    have lost : unparkLoop tid
        { block with state := (block.state.setTop tid parent).release parent } = _ :=
      unparkLoop_of_dead top' gone
    exact (ends_of_error lost).2 (.lost closes)
  · obtain ⟨loop, parked⟩ := Frame.exists_of_serializedOn serialized
    have next' : ((block.state.setTop tid parent).release top).arena.get? parent = some below := by
      rw [BlockState.arena_release, BlockState.arena_setTop,
        FrameArena.get?_release_of_ne distinct, next]
    have found : unparkLoop tid
        { block with state := (block.state.setTop tid parent).release top } = _ :=
      unparkLoop_of_parked top' next' parked
    exact (ends_of_ok found).2 (.closed closes distinct)

/-! ## Everything else -/

theorem effect_setThreads (initialized : block.initialized = true) (count : Nat) :
    Ends (setThreads lane count) block (fun _ => Effect block (.setThreads lane count) true)
      fun _ => Effect block (.setThreads lane count) false := by
  rw [setThreads, ends_bind]
  refine effect_threadOf.mono ?_ fun _ _ stopped => stopped ▸ .refused
  rintro tid block ⟨rfl, owns⟩
  rw [ends_bind, ends_get, if_pos initialized]
  simp only [ends_bind, ends_granted, onState, ends_modify]
  exact ⟨fun top htop => ⟨fun _ _ => .requested owns (BlockState.top_eq_ok.1 htop),
    fun _ _ => .refused⟩, fun _ _ => .refused⟩

/-- **No call does anything else**, however it ends. -/
theorem effect_perform (initialized : block.initialized = true) (op : Operation) :
    Ends op.perform block (fun _ => Effect block op true) fun _ => Effect block op false := by
  cases op with
  | prepareRegion lane work fullRuntime =>
    rw [Operation.perform, ends_bind]
    exact (effect_prepareRegion work fullRuntime).mono (fun _ _ done => done.2)
      fun _ _ stopped => stopped
  | enterRegion lane fullRuntime =>
    rw [Operation.perform, ends_bind]
    exact (effect_enterRegion fullRuntime).mono (fun _ _ done => done.2) fun _ _ stopped => stopped
  | exitRegion lane => exact effect_exitRegion
  | signalShutdown lane => exact effect_signalShutdown
  | beginSerial lane => exact effect_beginSerial initialized
  | endSerial lane => exact effect_endSerial initialized
  | setThreads lane count => exact effect_setThreads initialized count
  | setLoop lane loop =>
    refine (effect_modifyThread _).mono ?_ fun _ _ stopped => stopped ▸ .refused
    rintro _ _ ⟨tid, owns, rfl⟩
    exact .looped owns
  | pushThreads lane count =>
    refine (effect_modifyThread _).mono ?_ fun _ _ stopped => stopped ▸ .refused
    rintro _ _ ⟨tid, owns, rfl⟩
    exact .hinted owns
  | pushSimd lane limit =>
    refine (effect_modifyThread _).mono ?_ fun _ _ stopped => stopped ▸ .refused
    rintro _ _ ⟨tid, owns, rfl⟩
    exact .limited owns
  | requestTeams => exact .refused
  | bindProcs => exact .bound

/-! ## Nested and convergent regions -/

/-- A nested region spends the clause of its thread and then begins as any serialized region. -/
theorem effect_beginNested (initialized : block.initialized = true) :
    Ends (Region.beginNested lane) block
      (fun _ t => ∃ tid, block.Owns lane tid ∧
        Effect { block with state := (block.state.takePendingThreads tid).2 } (.beginSerial lane)
          true t)
      fun _ t => t = block ∨ ∃ tid, block.Owns lane tid ∧
        Effect { block with state := (block.state.takePendingThreads tid).2 } (.beginSerial lane)
          false t := by
  rw [Region.beginNested, ends_bind]
  refine effect_threadOf.mono ?_ fun _ _ stopped => .inl stopped
  rintro tid block ⟨rfl, owns⟩
  simp only [ends_bind, onState, ends_modify]
  have initialized' : { block with
    state := (block.state.takePendingThreads tid).2 }.initialized = true := initialized
  exact (effect_beginSerial initialized').mono (fun _ _ begun => ⟨tid, owns, begun⟩)
    fun _ _ begun => .inr ⟨tid, owns, begun⟩

/-- What is left of the block where a lane that has saved no top leaves: a simd exit has given the
hint back before it looks for the top. -/
def unseated (block : Block) (tid : Nat) (job : Job) : Construct → Block
  | .simd => { block with state := block.state.modifyThread tid (Construct.simd.withHint job.hint) }
  | .parallel => block

/-- **Leaving a convergent region** takes a lane with a thread and a job with a top. -/
theorem ends_exit (construct : Construct) (job : Job) :
    Ends (Convergent.exit construct lane job) block
      (fun _ t => ∃ tid saved, block.Owns lane tid ∧ job.savedTop = some saved ∧
        t = { block with state := block.state.vacate tid saved job construct })
      fun failure t =>
        t = block ∧
          (failure = .rejected (.laneOutOfRange lane block.layout.size) ∧
              block.layout.size ≤ lane ∨
            (∃ fault, failure = .halted fault) ∧ ¬block.layout.MapsLanes) ∨
        ∃ tid, block.Owns lane tid ∧ job.savedTop = none ∧
          failure = .rejected (.stackUnderflow tid) ∧ t = block.unseated tid job construct := by
  cases construct with
  | simd =>
    rw [Convergent.exit, Convergent.exitSimd, ends_bind]
    refine (ends_threadOf lane).mono ?_ fun _ _ => .inl
    rintro tid block ⟨rfl, owns⟩
    simp only [ends_bind, onState, ends_modify]
    cases job.savedTop with
    | none => exact .inr ⟨tid, owns, rfl, rfl, rfl⟩
    | some saved => exact ⟨tid, saved, owns, rfl, rfl⟩
  | parallel =>
    rw [Convergent.exit, Convergent.exitParallel, ends_bind]
    refine (ends_threadOf lane).mono ?_ fun _ _ => .inl
    rintro tid block ⟨rfl, owns⟩
    cases job.savedTop with
    | none => exact .inr ⟨tid, owns, rfl, rfl, rfl⟩
    | some saved =>
      refine ⟨tid, saved, owns, rfl, ?_⟩
      unfold BlockState.vacate BlockState.releases
      cases job.pushed <;> rfl

/-- What leaving a convergent region can do. Only from a simd construct does the hint come back even
where the lane had saved no top. -/
theorem effect_exit (construct : Construct) (job : Job) :
    Ends (Convergent.exit construct lane job) block
      (fun _ t => ∃ tid saved, block.Owns lane tid ∧ job.savedTop = some saved ∧
        t = { block with state := block.state.vacate tid saved job construct })
      fun _ t => t = block ∨ ∃ tid, block.Owns lane tid ∧
        t = { block with state := block.state.modifyThread tid (construct.withHint job.hint) } := by
  refine (ends_exit construct job).mono (fun _ _ done => done) ?_
  rintro _ _ (⟨same, -⟩ | ⟨tid, owns, -, -, rfl⟩)
  · exact .inl same
  · cases construct with
    | simd => exact .inr ⟨tid, owns, rfl⟩
    | parallel => exact .inl rfl

end Block

end RegionDispatch
