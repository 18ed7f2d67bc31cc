import RegionDispatch.Proofs.Block.Reachable

/-! # Who is turned away from a region

Entering and leaving a region writes before its last check: a counter goes up before the top is
looked for, a top is popped and its frame released before the parked loop state is found. On the
blocks that can be reached none of the later checks fails. So a call that crosses the border of a
region is refused for what it finds, with the block as it was, and a worker that is not told to join
a team leaves it as it was as well.

* **`Block.TurnsAway`** — why a lane is turned away.
* **`Block.Founded`** — what every call keeps: stacks, or no frames at all, or a device without
  lanes.
* **`Block.rejected_iff_turnsAway`** — whatever was called before, a lane is turned away exactly for
  one of the reasons and changes nothing. -/

namespace RegionDispatch

open Dispatch
open BlockState (baseId homeId)

namespace Operation

/-- Whether a call enters or leaves a region. -/
def crosses : Operation → Bool
  | enterRegion _ _ | exitRegion _ | beginSerial _ | endSerial _ => true
  | _ => false

/-- The lane whose thread such a call looks up. -/
def lookup? : Operation → Option Nat
  | exitRegion lane | beginSerial lane | endSerial lane => some lane
  | _ => none

end Operation

namespace Block

variable {block : Block} {op : Operation} {lane : Nat} {error : DispatchError}

/-- **Why a lane is turned away** from a region it asks to enter or leave. -/
inductive TurnsAway (block : Block) : Operation → DispatchError → Prop where
  /-- The worker does not promise the full runtime, or the block lacks it. -/
  | bare {lane : Nat} {fullRuntime : Bool}
      (lacks : ¬(fullRuntime = true ∧ block.initialized = true)) :
      TurnsAway block (.enterRegion lane fullRuntime) .runtimeUninitialized
  /-- A region is posted, and the lane is no worker: it lies in the master warp, or the block is an
  SPMD one. -/
  | stranger {lane : Nat} {work : WorkHandle} (full : block.initialized = true)
      (posted : block.board.posted = some work)
      (other : block.layout.mode ≠ .generic ∨ block.layout.mode = .generic ∧
        ∃ master, block.layout.masterLane = .ok master ∧ master ≤ lane) :
      TurnsAway block (.enterRegion lane true) (.notWorker lane)
  /-- The lane lies outside the block. -/
  | outside {op : Operation} {lane : Nat} (looks : op.lookup? = some lane)
      (beyond : block.layout.size ≤ lane) :
      TurnsAway block op (.laneOutOfRange lane block.layout.size)
  /-- The thread stands on nothing. -/
  | fallen {lane tid : Nat} (owns : block.Owns lane tid)
      (none : (block.state.thread tid).top = none) :
      TurnsAway block (.exitRegion lane) (.stackUnderflow tid)
  /-- The thread stands on another frame than the one set aside for it. -/
  | abroad {lane tid : Nat} {top : FrameId} (owns : block.Owns lane tid)
      (stands : (block.state.thread tid).top = some top)
      (away : (block.state.thread tid).home ≠ some top) :
      TurnsAway block (.exitRegion lane) (.unbalancedExit tid)
  /-- The top of the thread was not pushed by entering a serialized region. -/
  | unopened {lane tid : Nat} (full : block.initialized = true) (owns : block.Owns lane tid)
      (none : ∀ top parent frame below, ¬block.Closes lane tid top parent frame below) :
      TurnsAway block (.endSerial lane) (.unbalancedExit tid)
  /-- Without frames, the thread counts no serialized region. -/
  | uncounted {lane tid : Nat} (bare : block.initialized = false) (owns : block.Owns lane tid)
      (none : (block.state.thread tid).openRegions = 0) :
      TurnsAway block (.endSerial lane) (.unbalancedExit tid)

/-! ## What every call keeps -/

/-- Without the full runtime no thread stands on a frame. -/
structure Frameless (block : Block) : Prop where
  bare : block.initialized = false
  fallen : ∀ tid, (block.state.thread tid).top = none

namespace Frameless

theorem modifyThread (h : Frameless block) {f : Thread → Thread}
    (kept : ∀ thread, (f thread).top = thread.top) (tid : Nat) :
    Frameless { block with state := block.state.modifyThread tid f } :=
  ⟨h.bare, fun _ => (BlockState.top_modifyThread kept).trans (h.fallen _)⟩

theorem keeps_tally (count : Counters → Except Fault Counters) : Keeps Frameless (tally count) :=
  Keeps.get.bind fun _ => (Keeps.checked _).bind fun _ => .modify fun _ h => ⟨h.bare, h.fallen⟩

theorem keeps_modifyThread {f : Thread → Thread} (kept : ∀ thread, (f thread).top = thread.top)
    (lane : Nat) :
    Keeps Frameless (do let tid ← threadOf lane; onState fun state => state.modifyThread tid f) :=
  (keeps_threadOf lane).bind fun tid => .modify fun _ h => h.modifyThread kept tid

theorem keeps_beginSerial (lane : Nat) : Keeps Frameless (beginSerial lane) := by
  refine (keeps_threadOf lane).bind fun tid => (keeps_tally _).bind fun _ block h => ?_
  rw [ends_bind, ends_get, if_neg (by simp [h.bare])]
  simp only [ends_bind, ends_checked, onState, ends_modify]
  exact ⟨fun _ _ => h.modifyThread (fun _ => by rfl) tid, fun _ _ => h⟩

theorem keeps_endSerial (lane : Nat) : Keeps Frameless (endSerial lane) := by
  refine (keeps_threadOf lane).bind fun tid block h => ?_
  rw [ends_bind, ends_get, if_neg (by simp [h.bare])]
  simp only [ends_bind, ends_refuseIf, onState, ends_modify]
  exact ⟨fun _ => h, fun _ => h.modifyThread (fun _ => by rfl) tid⟩

theorem keeps_exitRegion (lane : Nat) : Keeps Frameless (exitRegion lane) := by
  refine (keeps_threadOf lane).bind fun tid block h => ?_
  simp [BlockState.top, h.fallen tid, h]

theorem keeps_setThreads (lane count : Nat) : Keeps Frameless (setThreads lane count) := by
  refine (keeps_threadOf lane).bind fun tid block h => ?_
  simp [h.bare, h]

/-- **No call gives a thread a frame.** -/
theorem keeps_perform (op : Operation) : Keeps Frameless op.perform := by
  cases op with
  | prepareRegion lane work fullRuntime =>
    intro block h
    simp [Operation.perform, prepareRegion, ends_requireInitialized, h.bare, h]
  | enterRegion lane fullRuntime =>
    intro block h
    simp [Operation.perform, enterRegion, ends_requireInitialized, h.bare, h]
  | exitRegion lane => exact keeps_exitRegion lane
  | signalShutdown lane =>
    exact Keeps.get.bind fun _ => (Keeps.checked _).bind fun _ => (Keeps.refuseIf _ _).bind fun _ =>
      .modify fun _ h => ⟨h.bare, h.fallen⟩
  | beginSerial lane => exact keeps_beginSerial lane
  | endSerial lane => exact keeps_endSerial lane
  | setThreads lane count => exact keeps_setThreads lane count
  | setLoop lane loop => exact keeps_modifyThread (fun _ => by rfl) lane
  | pushThreads lane count => exact keeps_modifyThread (fun _ => by rfl) lane
  | pushSimd lane limit => exact keeps_modifyThread (fun _ => by rfl) lane
  | requestTeams => exact .reject _
  | bindProcs => exact .pure ()

end Frameless

/-- **What every call keeps.** The threads have stacks, or without the full runtime no frames at
all, or the device has no lanes for a block with stacks to find its threads by. -/
inductive Founded (block : Block) : Prop where
  | stacked {stackOf : Nat → List FrameId} (stacked : Stacked stackOf block)
  | frameless (frameless : Frameless block)
  | laneless (full : block.initialized = true) (unmapped : ¬block.layout.MapsLanes)

namespace Founded

/-- A new block is founded, on any device and in any mode. -/
theorem of_create {arch : Arch} {mode : ExecMode} {config : LaunchConfig}
    (created : create arch mode config = .ok block) : Founded block := by
  cases initialized : block.initialized with
  | true =>
    by_cases maps : block.layout.MapsLanes
    · exact .stacked (stacked_of_mapsLanes maps created initialized)
    · exact .laneless initialized maps
  | false =>
    refine .frameless ⟨initialized, fun tid => ?_⟩
    unfold create at created
    cases sized : config.blockSize with
    | error fault =>
      rw [sized] at created
      cases created
    | ok size =>
      simp only [sized, bind, Except.bind, pure, Except.pure, Except.ok.injEq] at created
      subst created
      have bare : (config.fullRuntime || mode == .generic) = false := initialized
      have fresh : (BlockState.simple size).thread tid = {} := by
        by_cases bound : tid < size <;> simp [BlockState.thread, BlockState.simple, bound]
      simp only [bare, Bool.false_eq_true, if_false, fresh]

theorem of_paid {stackOf : Nat → List FrameId} {returned : Bool} {before after : Block}
    (paid : Paid stackOf op returned before after) : Founded after :=
  paid.reaches.stacked.elim fun _ => .stacked

/-- One call keeps a block founded, however it ends. -/
theorem keeps_perform (op : Operation) : Keeps Founded op.perform := by
  rintro block (stacked | frameless | ⟨full, unmapped⟩)
  · exact (stacked.ends_perform op).mono (fun _ _ => of_paid) fun _ _ => of_paid
  · exact (Frameless.keeps_perform op block frameless).mono (fun _ _ => .frameless)
      fun _ _ => .frameless
  · have laneless {returned : Bool} {after : Block} (effect : Effect block op returned after) :
        Founded after := .laneless (effect.initialized.trans full) (effect.layout ▸ unmapped)
    exact (effect_perform full op).mono (fun _ _ => laneless) fun _ _ => laneless

/-- A lane with a thread and a block with the full runtime: the threads have stacks. -/
theorem exists_stacked (h : Founded block) (full : block.initialized = true)
    (maps : block.layout.MapsLanes) : ∃ stackOf, Stacked stackOf block := by
  cases h with
  | stacked stacked => exact ⟨_, stacked⟩
  | frameless frameless => exact nomatch full.symm.trans frameless.bare
  | laneless full unmapped => exact absurd maps unmapped

/-- A thread that stands on a frame: the threads have stacks. -/
theorem exists_stacked_of_top (h : Founded block) {tid : Nat} {top : FrameId}
    (maps : block.layout.MapsLanes) (stands : (block.state.thread tid).top = some top) :
    ∃ stackOf, Stacked stackOf block := by
  cases h with
  | stacked stacked => exact ⟨_, stacked⟩
  | frameless frameless => exact nomatch stands.symm.trans (frameless.fallen tid)
  | laneless full unmapped => exact absurd maps unmapped

end Founded

/-- A thread on the frame set aside for it can leave to the outermost frame. -/
theorem Stacked.exists_of_home {stackOf : Nat → List FrameId} (h : Stacked stackOf block)
    {tid : Nat} {top : FrameId} (bound : tid < block.layout.size)
    (stands : (block.state.thread tid).top = some top)
    (reserved : (block.state.thread tid).home = some top) :
    ∃ frame, block.state.arena.get? top = some frame ∧ frame.parent = some baseId := by
  have own : top = homeId tid := h.eq_homeId reserved
  have same : top = (stackOf tid).headD baseId := h.eq_headD stands
  have linked := h.linked tid bound
  cases stack : stackOf tid with
  | nil =>
    rw [stack, own] at same
    exact absurd same (BlockState.homeId_ne_baseId tid)
  | cons id ids =>
    rw [stack] at same linked
    obtain ⟨frame, stored, parent, -⟩ := FrameArena.linkOf_eq_some.1 linked.1
    obtain ⟨parent', depth, link, only⟩ := h.reserved tid bound
    rw [← own, same, List.headD_cons, FrameArena.linkOf_of_get? stored, Option.some.injEq,
      Prod.mk.injEq] at link
    rw [only _ (link.1.symm.trans parent)] at parent
    exact ⟨frame, same ▸ stored, parent⟩

/-- A thread whose stack was topped by entering a serialized region can leave it. -/
theorem Stacked.closes_of_stack {stackOf : Nat → List FrameId} (h : Stacked stackOf block)
    {tid : Nat} {top : FrameId} {ids : List FrameId} {frame below : Frame}
    (owns : block.Owns lane tid)
    (stack : stackOf tid = top :: ids) (away : top ≠ homeId tid)
    (stored : block.state.arena.get? top = some frame)
    (next : block.state.arena.get? (ids.headD baseId) = some below)
    (serialized : frame.serializedOn below = true) :
    block.Closes lane tid top (ids.headD baseId) frame below := by
  have bound := h.lt_of_owns owns
  have linked := h.linked tid bound
  rw [stack] at linked
  have link := linked.1
  rw [FrameArena.linkOf_of_get? stored, Option.some.injEq, Prod.mk.injEq] at link
  refine ⟨owns, (h.tops tid bound).trans (by rw [stack]; rfl), ?_, stored, link.1, next, serialized⟩
  rw [h.homes tid bound]
  exact fun same => away (Option.some.inj same).symm

/-! ## Turned away for a reason -/

/-- What stopping means for a call that crosses the border of a region: a refusal has a reason and
changed nothing. -/
def Stops (block : Block) (op : Operation) (failure : Failure) (after : Block) : Prop :=
  ∀ error, failure = .rejected error → block.TurnsAway op error ∧ after = block

theorem TurnsAway.stops (reason : block.TurnsAway op error) :
    block.Stops op (.rejected error) block := by
  rintro _ ⟨rfl⟩
  exact ⟨reason, rfl⟩

theorem stops_halted {fault : Fault} {after : Block} : block.Stops op (.halted fault) after := nofun

/-- Looking up the thread of a lane turns it away from outside the block only. -/
theorem ends_threadOf_stops (looks : op.lookup? = some lane) :
    Ends (threadOf lane) block (fun tid t => t = block ∧ block.Owns lane tid) (block.Stops op) := by
  refine (ends_threadOf lane).mono (fun _ _ found => found) ?_
  rintro failure _ ⟨rfl, ⟨rfl, beyond⟩ | ⟨⟨fault, rfl⟩, -⟩⟩
  · exact (TurnsAway.outside looks beyond).stops
  · exact stops_halted

namespace Founded

variable (h : Founded block)

include h

theorem ends_enterRegion (fullRuntime : Bool) :
    Ends (enterRegion lane fullRuntime) block (fun _ _ => True)
      (block.Stops (.enterRegion lane fullRuntime)) := by
  simp only [enterRegion, ends_bind, ends_requireInitialized, ends_get]
  refine ⟨fun lacks => (TurnsAway.bare lacks).stops, ?_⟩
  rintro ⟨rfl, full⟩
  cases posted : block.board.posted with
  | none => trivial
  | some work =>
    simp only [requireMaster, ends_bind, ends_get, ends_refuseIf, ends_checked, not_not, Nat.not_le]
    refine ⟨fun spmd => (TurnsAway.stranger full posted (.inl spmd)).stops, fun generic =>
      ⟨fun master found => ⟨fun above => ?_, fun worker => ?_⟩, fun _ _ => stops_halted⟩⟩
    · exact (TurnsAway.stranger full posted (.inr ⟨generic, master, found, above⟩)).stops
    split
    · trivial
    -- the frame set aside for the worker is stored, so that only the counter can stop it
    have maps : block.layout.MapsLanes := fun _ => BlockLayout.pos_of_masterLane found
    obtain ⟨stackOf, stacked⟩ := h.exists_stacked full maps
    have bound : lane < block.layout.size := by
      rw [BlockLayout.masterLane_eq (maps generic), Except.ok.injEq] at found
      exact Nat.lt_of_lt_of_le (found ▸ worker) block.layout.master_le_size
    have rank : checkedMod lane master = .ok lane := by
      rw [checkedMod_of_pos (Nat.zero_lt_of_lt worker), Nat.mod_eq_of_lt worker]
    simp only [activate, stacked.homes lane bound, rank, stacked.isLive_homeId bound, ends_bind,
      ends_get, ends_checked, ends_refuseIf, BlockState.overwrite_fst, onState, ends_modify, tally,
      ends_pure]
    exact ⟨fun _ _ => ⟨nofun, fun _ => ⟨fun _ _ => trivial, fun _ _ => stops_halted⟩⟩,
      fun _ _ => stops_halted⟩

theorem ends_exitRegion :
    Ends (exitRegion lane) block (fun _ _ => True) (block.Stops (.exitRegion lane)) := by
  rw [exitRegion, ends_bind]
  refine (ends_threadOf_stops rfl).mono ?_ fun _ _ stops => stops
  rintro tid block ⟨rfl, owns⟩
  simp only [ends_bind, ends_get]
  cases stands : (block.state.thread tid).top with
  | none =>
    simp only [BlockState.top, stands, granted_error, ends_reject]
    exact (TurnsAway.fallen owns stands).stops
  | some top =>
    simp only [BlockState.top_eq_ok.2 stands, granted_ok, ends_pure, ends_refuseIf, not_not]
    refine ⟨fun away => (TurnsAway.abroad owns stands away).stops, fun reserved => ?_⟩
    -- the frame set aside for the thread stands on another while the thread stands on it
    obtain ⟨stackOf, stacked⟩ := h.exists_stacked_of_top owns.maps stands
    obtain ⟨frame, stored, linked⟩ :=
      stacked.exists_of_home (stacked.lt_of_owns owns) stands reserved
    simp only [BlockState.pop_eq_ok stands stored linked, granted_ok, ends_pure, onState,
      ends_modify]

theorem ends_beginSerial :
    Ends (beginSerial lane) block (fun _ _ => True) (block.Stops (.beginSerial lane)) := by
  rw [beginSerial, ends_bind]
  refine (ends_threadOf_stops rfl).mono ?_ fun _ _ stops => stops
  rintro tid block ⟨rfl, owns⟩
  simp only [tally, ends_bind, ends_get, ends_checked, ends_modify]
  refine ⟨fun counters _ => ?_, fun _ _ => stops_halted⟩
  split
  · next full =>
    obtain ⟨stackOf, stacked⟩ := h.exists_stacked full owns.maps
    have bound := stacked.lt_of_owns owns
    have stands := stacked.tops tid bound
    obtain ⟨frame, stored, -⟩ := stacked.exists_top bound
    simp only [BlockState.top_eq_ok.2 stands, (BlockState.topFrame_eq_ok stands).2 stored,
      granted_ok, ends_bind, ends_pure, onState, ends_modify]
  · simp only [ends_bind, ends_checked, onState, ends_modify]
    exact ⟨fun _ _ => trivial, fun _ _ => stops_halted⟩

theorem ends_endSerial :
    Ends (endSerial lane) block (fun _ _ => True) (block.Stops (.endSerial lane)) := by
  have looked : Ends (threadOf lane) block _ (block.Stops (.endSerial lane)) :=
    ends_threadOf_stops rfl
  rcases found : threadOf lane block with ⟨tid, t⟩ | ⟨failure, t⟩
  · obtain ⟨rfl, owns⟩ := (ends_of_ok found).1 looked
    cases full : t.initialized with
    | true =>
      obtain ⟨stackOf, stacked⟩ := h.exists_stacked full owns.maps
      rcases stacked.endSerial_cases owns.inside owns.owner (stacked.lt_of_owns owns) with
        ⟨refused, none⟩ | ⟨_, _, _, _, _, _, _, _, _, _, _, left⟩
      · rw [ends_of_error refused]
        refine (TurnsAway.unopened full owns fun top parent frame below closes => ?_).stops
        obtain ⟨ids, stack, rfl, away⟩ := stacked.stack_of_closes closes
        exact nomatch (none top ids frame below stack away closes.stored closes.next).symm.trans
          closes.serialized
      · rw [ends_of_ok left]
        trivial
    | false =>
      simp only [endSerial, ends_bind, ends_of_ok found, ends_get, full, Bool.false_eq_true,
        if_false, ends_refuseIf, onState, ends_modify]
      exact ⟨fun none => (TurnsAway.uncounted full owns none).stops, fun _ => trivial⟩
  · have stops := (ends_of_error found).1 looked
    rw [endSerial, ends_bind, ends_of_error found]
    exact stops

/-- **A refused crossing** has a reason and leaves the block as it was. -/
theorem ends_perform (crosses : op.crosses = true) :
    Ends op.perform block (fun _ _ => True) (block.Stops op) := by
  cases op with
  | enterRegion lane fullRuntime =>
    rw [Operation.perform, ends_bind]
    exact (h.ends_enterRegion fullRuntime).mono (fun _ _ _ => trivial) fun _ _ stops => stops
  | exitRegion lane => exact h.ends_exitRegion
  | beginSerial lane => exact h.ends_beginSerial
  | endSerial lane => exact h.ends_endSerial
  | _ => cases crosses

end Founded

/-- Where there is a reason, the lane is turned away. -/
theorem TurnsAway.perform_eq (h : Founded block) (reason : block.TurnsAway op error) :
    op.perform block = .error (.rejected error) block := by
  cases reason with
  | bare lacks =>
    refine eq_error_of_ends ?_
    simp only [Operation.perform, enterRegion, ends_bind, ends_requireInitialized]
    exact ⟨fun _ => ⟨trivial, trivial⟩, fun full => absurd full lacks⟩
  | stranger full posted other =>
    refine eq_error_of_ends ?_
    rcases other with spmd | ⟨generic, master, found, above⟩
    · simp [Operation.perform, enterRegion, ends_requireInitialized_of full, posted, requireMaster,
        spmd]
    · simp [Operation.perform, enterRegion, ends_requireInitialized_of full, posted, requireMaster,
        generic, found, above]
  | @outside op lane looks beyond =>
    cases op with
    | exitRegion | beginSerial | endSerial =>
      cases looks
      exact bind_of_error (threadOf_of_size_le beyond) _
    | _ => cases looks
  | fallen owns none =>
    refine eq_error_of_ends ?_
    simp [Operation.perform, exitRegion, ends_of_ok (threadOf_of_lt owns.inside owns.owner),
      BlockState.top, none]
  | abroad owns stands away =>
    refine eq_error_of_ends ?_
    simp [Operation.perform, exitRegion, ends_of_ok (threadOf_of_lt owns.inside owns.owner),
      BlockState.top_eq_ok.2 stands, away]
  | unopened full owns none =>
    obtain ⟨stackOf, stacked⟩ := h.exists_stacked full owns.maps
    rcases stacked.endSerial_cases owns.inside owns.owner (stacked.lt_of_owns owns) with
      ⟨refused, -⟩ | ⟨top, below, frame, next, loop, stack, away, stored, under, serialized, -, -⟩
    · exact refused
    · exact absurd (stacked.closes_of_stack owns stack away stored under serialized)
        (none _ _ _ _)
  | uncounted bare owns none =>
    refine eq_error_of_ends ?_
    simp [Operation.perform, endSerial, ends_of_ok (threadOf_of_lt owns.inside owns.owner), bare,
      none]

/-- **Turned away and untouched.** Whatever was called before, on whatever lanes, with or without
the full runtime: a call that enters or leaves a region is refused exactly for one of the reasons,
and leaves the whole block as it was; and so does a worker that is told to stay out. -/
theorem rejected_iff_turnsAway {arch : Arch} {mode : ExecMode} {config : LaunchConfig}
    (created : create arch mode config = .ok block) (operations : List Operation) :
    (∀ (op : Operation) (error : DispatchError) (after : Block), op.crosses = true →
      (op.perform (run operations block).2 = .error (.rejected error) after ↔
        TurnsAway (run operations block).2 op error ∧ after = (run operations block).2)) ∧
    ∀ (lane : Nat) (fullRuntime : Bool) (answer : Activation) (after : Block),
      enterRegion lane fullRuntime (run operations block).2 = .ok answer after →
      answer.isActive = false → after = (run operations block).2 := by
  have founded := run_of_keeps Founded.keeps_perform operations (.of_create created)
  refine ⟨fun op error after crosses => ⟨fun refused => ?_, ?_⟩,
    fun lane full answer after told => ?_⟩
  · have ends := founded.ends_perform crosses
    rw [ends_of_error refused] at ends
    exact ends error rfl
  · rintro ⟨reason, rfl⟩
    exact reason.perform_eq founded
  · intro out
    have ends : Ends (enterRegion lane full) (run operations block).2 _ _ := effect_enterRegion full
    rw [ends_of_ok told] at ends
    cases ends.1 with
    | dismissed | idle => rfl
    | active => cases out

/-- A worker that has entered a serialized region can leave no first-level region. -/
theorem rejected_iff_turnsAway_twoWarps :
    exitRegion 5 (run [.beginSerial 5] twoWarps).2 =
      .error (.rejected (.unbalancedExit 5)) (run [.beginSerial 5] twoWarps).2 := by
  have owns : (run [.beginSerial 5] twoWarps).2.Owns 5 5 := ⟨by decide +kernel, by decide +kernel⟩
  have stands : ((run [.beginSerial 5] twoWarps).2.state.thread 5).top = some ⟨65⟩ := by
    decide +kernel
  have away : ((run [.beginSerial 5] twoWarps).2.state.thread 5).home ≠ some ⟨65⟩ := by
    decide +kernel
  exact ((rejected_iff_turnsAway create_twoWarps [.beginSerial 5]).1 (.exitRegion 5) _ _ rfl).2
    ⟨.abroad owns stands away, rfl⟩

end Block

end RegionDispatch
