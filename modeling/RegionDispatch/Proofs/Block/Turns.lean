import Mathlib.Data.Finset.Card
import RegionDispatch.Proofs.Block.Reachable
import RegionDispatch.Proofs.TeamSize

/-! # Workers taking turns

Once a region is posted, every worker looks at the board and, if it is a member of the team, leaves
again when its part is done. The workers share one arena, one board and one set of counters, and
nothing orders their steps. It does not matter: what a worker writes is its own, and the counter of
activations does not see who adds to it.

* **`Crew`**, **`Crew.turn`** — a block with its workers, and the next step of one of them.
* `Block.staffed` — the block after each worker has come as far as it has, as one equation.
* `Crew.turns_reached` — after any turns the block is the staffed one, unless a counter filled up.
* `Crew.turns_of_prepareRegion` — what that says of every block that can be reached. -/

namespace RegionDispatch

open Dispatch
open BlockState (baseId homeId)

/-- How far a worker has come with the posted region. -/
inductive Worker where
  /-- It has not looked at the board. -/
  | waiting
  /-- It is a member of the team and works. -/
  | running (told : Activation)
  /-- It is done, or was never a member. -/
  | through (told : Activation)
  deriving DecidableEq

namespace Worker

/-- Whether the worker has joined the team. -/
def hasJoined : Worker → Bool
  | waiting => false
  | running _ => true
  | through told => told.isActive

@[simp] theorem hasJoined_waiting : waiting.hasJoined = false := rfl

@[simp] theorem hasJoined_running (told : Activation) : (running told).hasJoined = true := rfl

@[simp] theorem hasJoined_through (told : Activation) :
    (through told).hasJoined = told.isActive := rfl

/-- What a worker makes of the frame set aside for it. -/
def ownFrame (board : WorkBoard) (lane : Nat) (worker : Worker) (frame : Frame) : Frame :=
  if worker.hasJoined then board.memberFrame lane else frame

/-- What a worker makes of its thread. -/
def ownThread (board : WorkBoard) (lane : Nat) (thread : Thread) : Worker → Thread
  | waiting => thread
  | running _ => { thread with top := some (homeId lane), event := board.events.next }
  | through told => if told.isActive then { thread with event := board.events.next } else thread

/-- What a worker of the lane is told if the team has `size` members. -/
def answer (work : WorkHandle) (size lane : Nat) : Activation :=
  if lane < size then .active work else .idle work

/-- How far a worker has come after some turns, if the team has `size` members. -/
def after (work : WorkHandle) (size lane : Nat) : Nat → Worker
  | 0 => waiting
  | 1 => if lane < size then running (answer work size lane) else through (answer work size lane)
  | _ + 2 => through (answer work size lane)

variable {work : WorkHandle} {size lane : Nat}

@[simp] theorem isActive_answer : (answer work size lane).isActive = decide (lane < size) := by
  unfold answer
  split <;> simp [Activation.isActive, *]

/-- The members join with their first turn. -/
theorem hasJoined_after (turns : Nat) :
    (after work size lane turns).hasJoined = decide (0 < turns ∧ lane < size) := by
  rcases turns with _ | _ | turns
  · simp [after]
  · by_cases member : lane < size <;> simp [after, member]
  · simp [after]

end Worker

/-- A block with its workers. -/
structure Crew where
  /-- The block. -/
  block : Block
  /-- How far each worker has come. -/
  workers : Nat → Worker := fun _ => .waiting

namespace Crew

/-- A step on the block. -/
def onBlock {α : Type} : Dispatch Block α → Dispatch Crew α :=
  zoom (fun crew => (crew.block, crew.workers)) fun block workers => ⟨block, workers⟩

/-- Notes how far a worker has come. -/
def note (lane : Nat) (worker : Worker) : Dispatch Crew Unit :=
  modify fun crew => { crew with workers := Function.update crew.workers lane worker }

/-- The next step of a worker: it looks at the board, and leaves if it has joined. -/
def turn (lane : Nat) : Dispatch Crew Unit := do
  match (← get).workers lane with
  | .waiting =>
    let told ← onBlock (Block.enterRegion lane)
    note lane (if told.isActive then .running told else .through told)
  | .running told =>
    onBlock (Block.exitRegion lane)
    note lane (.through told)
  | .through _ => pure ()

/-- Steps of workers, each of the lane that is named. -/
def turns (schedule : List Nat) : Dispatch Crew Unit := schedule.forM turn

end Crew

namespace Block

variable {block : Block} {workers : Nat → Worker} {work : WorkHandle} {lane tid : Nat}
  {told : Activation}

/-- The members that have joined. -/
def joinedMembers (block : Block) (workers : Nat → Worker) : Finset Nat :=
  (Finset.range block.layout.master).filter fun lane => (workers lane).hasJoined

/-- The frames and threads when each worker has come as far as it has. -/
def staffedState (block : Block) (workers : Nat → Worker) : BlockState where
  arena := { block.state.arena with
    slots := block.state.arena.slots.mapIdx fun
      | 0, slot => slot
      | lane + 1, slot => slot.map ((workers lane).ownFrame block.board lane) }
  threads := block.state.threads.mapIdx fun tid thread =>
    (workers tid).ownThread block.board tid thread

/-- **The block when each worker has come as far as it has.** -/
def staffed (block : Block) (workers : Nat → Worker) : Block :=
  { block with
    state := block.staffedState workers
    counters := { block.counters with
      activations := block.counters.activations + (block.joinedMembers workers).card } }

/-- A block on which a region is posted and the workers stand on the outermost frame. -/
structure Manned (work : WorkHandle) (block : Block) : Prop where
  maps : block.layout.MapsLanes
  generic : block.layout.mode = .generic
  initialized : block.initialized = true
  posted : block.board.posted = some work
  le_master : block.board.teamSize ≤ block.layout.master
  parent : block.board.template.parent = some baseId
  sized : block.state.threads.size = block.layout.size
  homes : ∀ lane, lane < block.layout.master →
    (block.state.thread lane).home = some (homeId lane)
  live : ∀ lane, lane < block.layout.master → block.state.arena.isLive (homeId lane) = true
  tops : ∀ lane, lane < block.layout.master → (block.state.thread lane).top = some baseId

/-! ## The staffed block, thread by thread and frame by frame -/

@[simp] theorem size_staffedState :
    (block.staffedState workers).threads.size = block.state.threads.size := Array.size_mapIdx

theorem thread_staffedState (bound : tid < block.state.threads.size) :
    (block.staffedState workers).thread tid =
      (workers tid).ownThread block.board tid (block.state.thread tid) := by
  simp [staffedState, BlockState.thread, bound]

theorem get?_staffedState_homeId (lane : Nat) :
    (block.staffedState workers).arena.get? (homeId lane) =
      (block.state.arena.get? (homeId lane)).map ((workers lane).ownFrame block.board lane) := by
  simp only [staffedState, FrameArena.get?, homeId, Array.getElem?_mapIdx]
  rcases block.state.arena.slots[lane + 1]? with _ | _ | frame <;> rfl

theorem get?_staffedState_baseId :
    (block.staffedState workers).arena.get? baseId = block.state.arena.get? baseId := by
  simp [staffedState, FrameArena.get?, baseId]

@[simp] theorem isLive_staffedState_homeId (lane : Nat) :
    (block.staffedState workers).arena.isLive (homeId lane) =
      block.state.arena.isLive (homeId lane) := by
  rw [FrameArena.isLive, get?_staffedState_homeId, Option.isSome_map, FrameArena.isLive]

/-- A frame is the outermost one or set aside for a thread. -/
theorem forall_frameId {P : FrameId → Prop} : (∀ id, P id) ↔ P baseId ∧ ∀ tid, P (homeId tid) := by
  constructor
  · exact fun all => ⟨all _, fun _ => all _⟩
  · rintro ⟨base, homes⟩ ⟨_ | tid⟩
    · exact base
    · exact homes tid

/-! ## One worker further -/

/-- Which members have joined decides about the frames. -/
theorem arena_staffedState_congr {workers' : Nat → Worker}
    (same : ∀ lane, (workers lane).hasJoined = (workers' lane).hasJoined) :
    (block.staffedState workers).arena = (block.staffedState workers').arena := by
  refine FrameArena.ext_get? (by simp [staffedState]) rfl (forall_frameId.2 ⟨?_, fun lane => ?_⟩)
  · rw [get?_staffedState_baseId, get?_staffedState_baseId]
  · rw [get?_staffedState_homeId, get?_staffedState_homeId]
    refine congrArg (Option.map · _) (funext fun frame => ?_)
    rw [Worker.ownFrame, Worker.ownFrame, same]

theorem hasJoined_update {worker : Worker} (same : worker.hasJoined = (workers lane).hasJoined)
    (other : Nat) :
    (Function.update workers lane worker other).hasJoined = (workers other).hasJoined := by
  by_cases here : other = lane
  · rw [here, Function.update_self, same]
  · rw [Function.update_of_ne here]

/-- A worker that does not join changes its own thread at most. -/
theorem staffed_update_of_same {worker : Worker} {state : BlockState}
    (same : worker.hasJoined = (workers lane).hasJoined)
    (arena : state.arena = (block.staffedState workers).arena)
    (size : state.threads.size = block.state.threads.size)
    (others : ∀ other, other ≠ lane →
      state.thread other = (block.staffedState workers).thread other)
    (own : lane < block.state.threads.size →
      state.thread lane = worker.ownThread block.board lane (block.state.thread lane)) :
    block.staffed (Function.update workers lane worker) =
      { block.staffed workers with state } := by
  have joined (other : Nat) : (Function.update workers lane worker other).hasJoined =
      (workers other).hasJoined := hasJoined_update same other
  have reached : block.staffedState (Function.update workers lane worker) = state := by
    refine BlockState.ext_thread ((arena_staffedState_congr joined).trans arena.symm) ?_ ?_
    · rw [size_staffedState, size]
    · intro other inside
      rw [size_staffedState] at inside
      rw [thread_staffedState inside]
      by_cases here : other = lane
      · subst here
        rw [Function.update_self, own inside]
      · rw [Function.update_of_ne here, others other here, thread_staffedState inside]
  unfold staffed joinedMembers
  simp only [joined, reached]

/-- A worker that is not a member. -/
theorem staffed_idle (fresh : workers lane = .waiting) (idle : told.isActive = false) :
    block.staffed (Function.update workers lane (.through told)) = block.staffed workers := by
  refine staffed_update_of_same ?_ rfl size_staffedState (fun _ _ => rfl) ?_
  · rw [fresh, Worker.hasJoined_through, idle, Worker.hasJoined_waiting]
  · intro inside
    simp [thread_staffedState inside, fresh, Worker.ownThread, idle]

section Member

variable (manned : Manned work block) (worker : lane < block.layout.master)

include worker

theorem card_joinedMembers_running (fresh : workers lane = .waiting) :
    (block.joinedMembers (Function.update workers lane (.running told))).card =
      (block.joinedMembers workers).card + 1 := by
  have apart : lane ∉ block.joinedMembers workers := by
    simp [joinedMembers, fresh]
  rw [← Finset.card_insert_of_notMem apart]
  congr 1
  ext other
  by_cases here : other = lane
  · subst here
    simp [joinedMembers, worker]
  · simp [joinedMembers, here]

include manned

theorem lt_threads_of_worker : lane < block.state.threads.size :=
  manned.sized ▸ Nat.lt_of_lt_of_le worker block.layout.master_le_size

theorem staffedState_running (fresh : workers lane = .waiting) :
    block.staffedState (Function.update workers lane (.running told)) =
      (block.staffedState workers).joinTeam lane (homeId lane) (block.board.memberFrame lane)
        block.board.events.next := by
  have bound := lt_threads_of_worker manned worker
  have live := manned.live lane worker
  have stored : (block.staffedState workers).arena.isLive (homeId lane) = true := by
    rw [isLive_staffedState_homeId, live]
  refine BlockState.ext_thread (FrameArena.ext_get? ?_ ?_ ?_) ?_ ?_
  · simp [staffedState, FrameArena.overwrite, apply_ite]
  · simp [staffedState, FrameArena.overwrite, apply_ite]
  · -- of the frames only the one set aside for the lane is another
    refine forall_frameId.2 ⟨?_, fun other => ?_⟩
    · rw [BlockState.get?_joinTeam stored, if_neg (BlockState.homeId_ne_baseId lane).symm,
        get?_staffedState_baseId, get?_staffedState_baseId]
    · rw [BlockState.get?_joinTeam stored, get?_staffedState_homeId, get?_staffedState_homeId]
      by_cases here : other = lane
      · subst here
        obtain ⟨frame, hframe⟩ := FrameArena.isLive_iff.1 live
        simp [hframe, Worker.ownFrame]
      · rw [if_neg (mt BlockState.homeId_inj.1 here), Function.update_of_ne here]
  · simp
  · -- and of the threads only the lane's own
    intro other inside
    rw [size_staffedState] at inside
    rw [thread_staffedState inside]
    by_cases here : other = lane
    · subst here
      rw [BlockState.thread_joinTeam_self (by simpa using bound), thread_staffedState bound, fresh]
      simp [Worker.ownThread]
    · rw [BlockState.thread_joinTeam_of_ne here, thread_staffedState inside,
        Function.update_of_ne here]

/-- A member that looks at the board. -/
theorem staffed_running (fresh : workers lane = .waiting) :
    block.staffed (Function.update workers lane (.running told)) =
      { (block.staffed workers).joined lane (homeId lane) with
        counters := { (block.staffed workers).counters with
          activations := (block.staffed workers).counters.activations + 1 } } := by
  unfold staffed joined
  rw [staffedState_running manned worker fresh, card_joinedMembers_running worker fresh,
    Nat.add_assoc]

/-- A member that leaves. -/
theorem staffed_through (joined : workers lane = .running told)
    (active : told.isActive = true) :
    block.staffed (Function.update workers lane (.through told)) =
      { block.staffed workers with state := (block.staffed workers).state.setTop lane baseId } := by
  refine staffed_update_of_same ?_ rfl ?_ ?_ ?_
  · rw [joined, Worker.hasJoined_through, active, Worker.hasJoined_running]
  · exact BlockState.size_setTop.trans size_staffedState
  · exact fun other ne => BlockState.thread_setTop_of_ne ne
  · -- it goes back to where it stood
    intro inside
    have stored : lane < (block.staffedState workers).threads.size := by rwa [size_staffedState]
    refine (BlockState.thread_setTop_self stored).trans ?_
    simp [thread_staffedState inside, joined, Worker.ownThread, active,
      manned.tops lane worker]

end Member

/-! ## The workers' steps on a staffed block -/

section Steps

variable (manned : Manned work block) (worker : lane < block.layout.master)

include manned worker

/-- Whatever the workers have done, a worker's own frame is set aside for it and stored. -/
theorem home_staffed :
    ((block.staffed workers).state.thread lane).home = some (homeId lane) := by
  rw [staffed, thread_staffedState (lt_threads_of_worker manned worker),
    ← manned.homes lane worker]
  cases workers lane with
  | waiting => rfl
  | running told => rfl
  | through told => cases htold : told.isActive <;> simp [Worker.ownThread, htold]

theorem isLive_staffed : (block.staffed workers).state.arena.isLive (homeId lane) = true :=
  (isLive_staffedState_homeId lane).trans (manned.live lane worker)

theorem enterRegion_staffed_of_room (waits : workers lane = .waiting)
    (member : lane < block.board.teamSize)
    (room : block.counters.activations + (block.joinedMembers workers).card + 1 < UInt32.size) :
    enterRegion lane true (block.staffed workers) = .ok (.active work)
      (block.staffed (Function.update workers lane (.running (.active work)))) := by
  rw [staffed_running manned worker waits]
  exact enterRegion_of_room manned.maps manned.generic manned.initialized manned.posted worker
    member (home_staffed manned worker) (isLive_staffed manned worker) room

theorem enterRegion_staffed_of_full (member : lane < block.board.teamSize)
    (full : UInt32.size ≤ block.counters.activations + (block.joinedMembers workers).card + 1) :
    ∃ stopped, enterRegion lane true (block.staffed workers) =
      .error (.halted .addOverflow) stopped :=
  ⟨_, enterRegion_of_full manned.maps manned.generic manned.initialized manned.posted worker
    member (home_staffed manned worker) (isLive_staffed manned worker) full⟩

theorem enterRegion_staffed_of_teamSize_le (waits : workers lane = .waiting)
    (beyond : block.board.teamSize ≤ lane) :
    enterRegion lane true (block.staffed workers) = .ok (.idle work)
      (block.staffed (Function.update workers lane (.through (.idle work)))) := by
  rw [staffed_idle waits rfl]
  exact enterRegion_of_teamSize_le manned.maps manned.generic manned.initialized manned.posted
    worker beyond

theorem exitRegion_staffed (works : workers lane = .running told)
    (active : told.isActive = true) :
    exitRegion lane (block.staffed workers) = .ok ()
      (block.staffed (Function.update workers lane (.through told))) := by
  have inside : lane < block.layout.size :=
    Nat.lt_of_lt_of_le worker block.layout.master_le_size
  have owner : block.layout.threadOf lane = .ok lane := by
    rw [manned.maps.threadOf_eq, BlockLayout.owner_of_lt_master worker]
  have top : ((block.staffed workers).state.thread lane).top = some (homeId lane) := by
    rw [staffed, thread_staffedState (lt_threads_of_worker manned worker), works,
      Worker.ownThread]
  -- it works on a copy of the posted frame, which stands on the outermost one
  obtain ⟨old, hold⟩ := FrameArena.isLive_iff.1 (manned.live lane worker)
  have frame : (block.staffed workers).state.arena.get? (homeId lane) =
      some (block.board.memberFrame lane) := by
    rw [staffed, get?_staffedState_homeId, hold, works]
    rfl
  rw [staffed_through manned worker works active]
  exact exitRegion_of_home inside owner top (home_staffed manned worker) frame manned.parent

end Steps

/-! ## The counter of activations -/

/-- Whether the counter of activations can count the members that have joined. -/
def Countable (block : Block) (workers : Nat → Worker) : Prop :=
  (block.joinedMembers workers).card = 0 ∨
    block.counters.activations + (block.joinedMembers workers).card < UInt32.size

theorem Countable.mono {workers' : Nat → Worker}
    (subset : block.joinedMembers workers' ⊆ block.joinedMembers workers)
    (countable : block.Countable workers) : block.Countable workers' := by
  have le := Finset.card_le_card subset
  unfold Countable at countable ⊢
  omega

theorem staffed_waiting : block.staffed (fun _ => .waiting) = block := by
  have none : block.joinedMembers (fun _ => .waiting) = ∅ := by
    simp [joinedMembers]
  have state : block.staffedState (fun _ => .waiting) = block.state := by
    refine BlockState.ext_thread (FrameArena.ext_get? (by simp [staffedState]) rfl ?_)
      size_staffedState ?_
    · refine forall_frameId.2 ⟨get?_staffedState_baseId, fun lane => ?_⟩
      rw [get?_staffedState_homeId]
      exact Option.map_id'
    · intro tid inside
      rw [size_staffedState] at inside
      rw [thread_staffedState inside, Worker.ownThread]
  rw [staffed, none, state, Finset.card_empty, Nat.add_zero]

end Block

namespace Crew

variable {crew : Crew} {block : Block} {work : WorkHandle} {lane : Nat} {told : Activation}
  {counts : Nat → Nat}

/-! ## One turn -/

theorem turn_of_active {after : Block} (waits : crew.workers lane = .waiting)
    (looked : Block.enterRegion lane true crew.block = .ok told after)
    (active : told.isActive = true) :
    turn lane crew = .ok () ⟨after, Function.update crew.workers lane (.running told)⟩ := by
  apply eq_ok_of_ends
  simp [turn, waits, onBlock, note, ends_of_ok looked, active]

theorem turn_of_idle {after : Block} (waits : crew.workers lane = .waiting)
    (looked : Block.enterRegion lane true crew.block = .ok told after)
    (idle : told.isActive = false) :
    turn lane crew = .ok () ⟨after, Function.update crew.workers lane (.through told)⟩ := by
  apply eq_ok_of_ends
  simp [turn, waits, onBlock, note, ends_of_ok looked, idle]

theorem turn_of_refused {failure : Failure} {after : Block}
    (waits : crew.workers lane = .waiting)
    (looked : Block.enterRegion lane true crew.block = .error failure after) :
    turn lane crew = .error failure ⟨after, crew.workers⟩ := by
  apply eq_error_of_ends
  simp [turn, waits, onBlock, ends_of_error looked]

theorem turn_of_running {after : Block} (works : crew.workers lane = .running told)
    (left : Block.exitRegion lane crew.block = .ok () after) :
    turn lane crew = .ok () ⟨after, Function.update crew.workers lane (.through told)⟩ := by
  apply eq_ok_of_ends
  simp [turn, works, onBlock, note, ends_of_ok left]

theorem turn_of_through (done : crew.workers lane = .through told) :
    turn lane crew = .ok () crew := by
  apply eq_ok_of_ends
  simp [turn, done]

/-- How far the workers have come after some turns each. -/
def workersAfter (work : WorkHandle) (block : Block) (counts : Nat → Nat) (lane : Nat) : Worker :=
  Worker.after work block.board.teamSize lane (counts lane)

/-- The crew after some turns each. -/
def reached (work : WorkHandle) (block : Block) (counts : Nat → Nat) : Crew where
  block := block.staffed (workersAfter work block counts)
  workers := workersAfter work block counts

theorem workersAfter_update (lane turns : Nat) :
    workersAfter work block (Function.update counts lane turns) =
      Function.update (workersAfter work block counts) lane
        (Worker.after work block.board.teamSize lane turns) := by
  funext other
  by_cases here : other = lane
  · subst here
    rw [workersAfter, Function.update_self, Function.update_self]
  · rw [workersAfter, Function.update_of_ne here, Function.update_of_ne here, workersAfter]

theorem hasJoined_workersAfter (lane : Nat) :
    (workersAfter work block counts lane).hasJoined =
      decide (0 < counts lane ∧ lane < block.board.teamSize) :=
  Worker.hasJoined_after (counts lane)

theorem mem_joinedMembers :
    lane ∈ block.joinedMembers (workersAfter work block counts) ↔
      lane < block.layout.master ∧ 0 < counts lane ∧ lane < block.board.teamSize := by
  rw [Block.joinedMembers, Finset.mem_filter, Finset.mem_range, hasJoined_workersAfter,
    decide_eq_true_eq]

/-- More turns let more members join. -/
theorem joinedMembers_mono {counts' : Nat → Nat} (le : ∀ lane, counts lane ≤ counts' lane) :
    block.joinedMembers (workersAfter work block counts) ⊆
      block.joinedMembers (workersAfter work block counts') := by
  intro lane member
  obtain ⟨worker, taken, member⟩ := mem_joinedMembers.1 member
  exact mem_joinedMembers.2 ⟨worker, Nat.lt_of_lt_of_le taken (le lane), member⟩

/-- Only members join. -/
theorem card_joinedMembers_le :
    (block.joinedMembers (workersAfter work block counts)).card ≤ block.board.teamSize := by
  rw [← Finset.card_range block.board.teamSize]
  apply Finset.card_le_card
  intro lane member
  exact Finset.mem_range.2 (mem_joinedMembers.1 member).2.2

/-- Turns from `crew` on come to `counts` turns of the workers, unless the members that join cannot
be counted. -/
def ComesTo (work : WorkHandle) (block : Block) (counts : Nat → Nat) (step : Dispatch Crew Unit)
    (crew : Crew) : Prop :=
  (block.Countable (workersAfter work block counts) ∧
    step crew = .ok () (reached work block counts)) ∨
  (¬block.Countable (workersAfter work block counts) ∧
    ∃ stopped, step crew = .error (.halted .addOverflow) stopped)

section Turn

variable (manned : Block.Manned work block) (worker : lane < block.layout.master)

include manned worker

/-- With its first turn a member joins, if it can be counted. -/
theorem turn_reached_of_joins (fresh : counts lane = 0) (member : lane < block.board.teamSize) :
    ComesTo work block (Function.update counts lane 1) (turn lane) (reached work block counts) := by
  have waits : workersAfter work block counts lane = .waiting := by
    rw [workersAfter, fresh, Worker.after]
  have further : workersAfter work block (Function.update counts lane 1) =
      Function.update (workersAfter work block counts) lane (.running (.active work)) := by
    rw [workersAfter_update, Worker.after, if_pos member, Worker.answer, if_pos member]
  rw [ComesTo, Block.Countable, reached, reached, further,
    Block.card_joinedMembers_running worker waits]
  by_cases room : block.counters.activations +
      (block.joinedMembers (workersAfter work block counts)).card + 1 < UInt32.size
  · exact .inl ⟨.inr room, turn_of_active waits
      (Block.enterRegion_staffed_of_room manned worker waits member room) rfl⟩
  · obtain ⟨stopped, refused⟩ := Block.enterRegion_staffed_of_full manned worker member
      (Nat.le_of_not_lt room)
    refine .inr ⟨?_, _, turn_of_refused waits refused⟩
    omega

/-- Any other turn succeeds, and no one joins with it. -/
theorem turn_reached_of_not_joins (other : ¬(counts lane = 0 ∧ lane < block.board.teamSize)) :
    turn lane (reached work block counts) =
      .ok () (reached work block (Function.update counts lane (counts lane + 1))) := by
  rw [reached, reached, workersAfter_update]
  rcases taken : counts lane with _ | _ | turns
  · -- the first turn of a worker beyond the team
    have beyond : ¬lane < block.board.teamSize := fun member => other ⟨taken, member⟩
    have waits : workersAfter work block counts lane = .waiting := by
      rw [workersAfter, taken, Worker.after]
    rw [Worker.after, if_neg beyond, Worker.answer, if_neg beyond]
    exact turn_of_idle waits (Block.enterRegion_staffed_of_teamSize_le manned worker waits
      (Nat.le_of_not_lt beyond)) rfl
  · by_cases member : lane < block.board.teamSize
    · -- the second turn of a member
      have works : workersAfter work block counts lane = .running (.active work) := by
        rw [workersAfter, taken, Worker.after, if_pos member, Worker.answer, if_pos member]
      rw [Worker.after, Worker.answer, if_pos member]
      exact turn_of_running works (Block.exitRegion_staffed manned worker works rfl)
    · have done : workersAfter work block counts lane = .through (.idle work) := by
        rw [workersAfter, taken, Worker.after, if_neg member, Worker.answer, if_neg member]
      rw [Worker.after, Worker.answer, if_neg member, ← done, Function.update_eq_self]
      exact turn_of_through done
  · -- nothing is left to do
    have done : workersAfter work block counts lane =
        .through (Worker.answer work block.board.teamSize lane) := by
      rw [workersAfter, taken, Worker.after]
    rw [Worker.after, ← done, Function.update_eq_self]
    exact turn_of_through done

/-- **One turn** takes the crew one turn further, unless a member cannot be counted. -/
theorem turn_reached (countable : block.Countable (workersAfter work block counts)) :
    ComesTo work block (Function.update counts lane (counts lane + 1)) (turn lane)
      (reached work block counts) := by
  by_cases joins : counts lane = 0 ∧ lane < block.board.teamSize
  · rw [joins.1]
    exact turn_reached_of_joins manned worker joins.1 joins.2
  · refine .inl ⟨?_, turn_reached_of_not_joins manned worker joins⟩
    refine countable.mono fun other member => ?_
    rw [mem_joinedMembers] at member ⊢
    by_cases here : other = lane
    · subst here
      rw [Function.update_self] at member
      exact ⟨member.1, by omega, member.2.2⟩
    · rwa [Function.update_of_ne here] at member

end Turn

/-! ## Turns in any order -/

/-- **Any turns** take the crew as far as the turns of each worker, whatever their order, unless
the members that join cannot be counted. -/
theorem turns_reached (manned : Block.Manned work block) (schedule : List Nat) :
    ∀ counts, block.Countable (workersAfter work block counts) →
      (∀ lane ∈ schedule, lane < block.layout.master) →
      ComesTo work block (fun lane => counts lane + schedule.count lane) (turns schedule)
        (reached work block counts) := by
  -- by induction on the schedule; what the first turn adds, the rest does not count any more
  induction schedule with
  | nil => exact fun counts countable _ => .inl ⟨countable, rfl⟩
  | cons lane rest ih =>
    intro counts countable workers
    obtain ⟨worker, workers⟩ := List.forall_mem_cons.1 workers
    have last : (fun other => counts other + (lane :: rest).count other) =
        fun other => Function.update counts lane (counts lane + 1) other + rest.count other := by
      funext other
      by_cases here : other = lane
      · subst here
        rw [Function.update_self, List.count_cons_self]
        omega
      · rw [Function.update_of_ne here, List.count_cons_of_ne (Ne.symm here)]
    rw [last, ComesTo, turns, forM_cons]
    obtain ⟨countable, taken⟩ | ⟨full, stopped, halted⟩ := turn_reached manned worker countable
    · rw [bind_of_ok taken]
      exact ih _ countable workers
    · refine .inr ⟨fun countable => full (countable.mono (joinedMembers_mono fun _ => ?_)), _,
        bind_of_error halted _⟩
      exact Nat.le_add_right _ _

end Crew

/-! ## Regions that were posted -/

namespace Block

variable {before block : Block} {work : WorkHandle} {lane : Nat} {fullRuntime : Bool}
  {decision : TeamDecision} {stackOf : Nat → List FrameId}

/-- What the workers find after the master's step. -/
theorem ends_prepareRegion_posted (maps : before.layout.MapsLanes) :
    Ends (prepareRegion lane work fullRuntime) before
      (fun decision t => before.layout.mode = .generic ∧ t.layout = before.layout ∧
        t.board.posted = some work ∧ t.board.teamSize = decision.size ∧
        decision.size ≤ before.layout.master) fun _ _ => True := by
  rw [prepareRegion, ends_bind, ends_requireInitialized]
  refine ⟨fun _ => trivial, fun _ => ?_⟩
  rw [ends_bind, ends_requireMaster maps]
  refine ⟨fun _ => trivial, fun generic => ?_⟩
  have available : before.layout.available = .ok before.layout.master := by
    rw [BlockLayout.available, generic]
    exact BlockLayout.masterLane_eq (maps generic)
  simp only [ends_bind, ends_get, ends_refuseIf, ends_granted, ends_checked, onState, ends_modify,
    tally, ends_pure, available, implies_true, true_and, and_true, Except.ok.injEq, forall_eq']
  intro _ top _ frame _ _ decision sized _ counters _
  exact ⟨generic, rfl, rfl, Arch.sizeTeam_le sized⟩

/-- **A posted region is manned** as soon as the workers stand on the outermost frame. -/
theorem Stacked.manned_of_prepareRegion (stacked : Stacked stackOf before)
    (prepared : prepareRegion lane work fullRuntime before = .ok decision block)
    (outside : ∀ lane, lane < block.layout.master →
      (block.state.thread lane).top = some baseId) :
    Manned work block ∧ block.board.teamSize = decision.size := by
  obtain ⟨generic, layout, posted, size, le⟩ :=
    (ends_of_ok prepared).1 (ends_prepareRegion_posted stacked.maps)
  obtain ⟨stackOf', later, -⟩ :=
    (stacked.paid ((ends_of_ok prepared).1 (effect_prepareRegion work fullRuntime)).2).stacked
  have inside {lane : Nat} (worker : lane < block.layout.master) : lane < block.layout.size :=
    Nat.lt_of_lt_of_le worker block.layout.master_le_size
  refine ⟨?_, size⟩
  exact
    { maps := later.maps
      generic := layout ▸ generic
      initialized := later.initialized
      posted
      le_master := by rw [size, layout]; exact le
      parent := (later.template work posted).1
      sized := later.sized
      homes := fun lane worker => later.homes lane (inside worker)
      live := fun lane worker => later.isLive_homeId (inside worker)
      tops := outside }

/-- **What a region leaves behind** when its team has come and gone: every thread stands where it
stood, the frames set aside for the members are copies of the posted one, and the members were
counted. -/
structure Settled (block after : Block) : Prop where
  rest : after = { block with
    state := after.state
    counters := { block.counters with
      activations := block.counters.activations + block.board.teamSize } }
  thread : ∀ tid, after.state.thread tid =
    if tid < block.board.teamSize then
      { block.state.thread tid with event := block.board.events.next }
    else block.state.thread tid
  threads : after.state.threads.size = block.state.threads.size
  member : ∀ rank, rank < block.board.teamSize →
    after.state.arena.get? (homeId rank) = some (block.board.memberFrame rank)
  frame : ∀ id, (∀ rank, rank < block.board.teamSize → id ≠ homeId rank) →
    after.state.arena.get? id = block.state.arena.get? id
  slots : after.state.arena.slots.size = block.state.arena.slots.size
  free : after.state.arena.free = block.state.arena.free

/-- The workers when all are through. -/
def workersThrough (block : Block) (work : WorkHandle) (lane : Nat) : Worker :=
  if lane < block.layout.master then .through (Worker.answer work block.board.teamSize lane)
  else .waiting

theorem hasJoined_workersThrough (manned : Manned work block) :
    (block.workersThrough work lane).hasJoined = decide (lane < block.board.teamSize) := by
  unfold workersThrough
  by_cases worker : lane < block.layout.master
  · rw [if_pos worker, Worker.hasJoined_through, Worker.isActive_answer]
  · have := manned.le_master
    rw [if_neg worker, Worker.hasJoined_waiting, eq_comm, decide_eq_false_iff_not]
    omega

theorem joinedMembers_workersThrough (manned : Manned work block) :
    block.joinedMembers (block.workersThrough work) = Finset.range block.board.teamSize := by
  have := manned.le_master
  ext lane
  simp only [joinedMembers, Finset.mem_filter, Finset.mem_range, hasJoined_workersThrough manned,
    decide_eq_true_eq]
  omega

theorem Manned.settled (manned : Manned work block) :
    Settled block (block.staffed (block.workersThrough work)) where
  rest := by
    rw [staffed, joinedMembers_workersThrough manned, Finset.card_range]
  thread := by
    intro tid
    have le := manned.le_master
    have le' := block.layout.master_le_size
    have sized := manned.sized
    by_cases inside : tid < block.state.threads.size
    · rw [staffed, thread_staffedState inside, workersThrough]
      by_cases worker : tid < block.layout.master
      · rw [if_pos worker, Worker.ownThread, Worker.isActive_answer]
        by_cases member : tid < block.board.teamSize <;> simp [member]
      · rw [if_neg worker, if_neg (by omega), Worker.ownThread]
    · have outside : (block.staffed (block.workersThrough work)).state.threads.size ≤ tid :=
        Nat.le_trans (Nat.le_of_eq size_staffedState) (Nat.le_of_not_lt inside)
      rw [if_neg (by omega), BlockState.thread_of_size_le outside,
        BlockState.thread_of_size_le (Nat.le_of_not_lt inside)]
  threads := size_staffedState
  member := by
    intro rank member
    have worker := Nat.lt_of_lt_of_le member manned.le_master
    obtain ⟨old, hold⟩ := FrameArena.isLive_iff.1 (manned.live rank worker)
    rw [staffed, get?_staffedState_homeId, hold, Option.map_some, Worker.ownFrame,
      hasJoined_workersThrough manned, if_pos (decide_eq_true member)]
  frame := by
    refine forall_frameId.2 ⟨fun _ => get?_staffedState_baseId, fun tid others => ?_⟩
    have beyond : ¬tid < block.board.teamSize := fun member => others tid member rfl
    rw [staffed, get?_staffedState_homeId]
    have same : (block.workersThrough work tid).ownFrame block.board tid = id := by
      funext frame
      rw [Worker.ownFrame, hasJoined_workersThrough manned, decide_eq_false beyond]
      rfl
    rw [same, Option.map_id, id]
  slots := by simp [staffed, staffedState]
  free := rfl

end Block

namespace Crew

variable {block : Block} {work : WorkHandle} {counts : Nat → Nat}

theorem workersAfter_zero : workersAfter work block (fun _ => 0) = fun _ => .waiting := rfl

theorem reached_zero : reached work block (fun _ => 0) = { block } := by
  rw [reached, workersAfter_zero, Block.staffed_waiting]

theorem countable_zero : block.Countable (workersAfter work block fun _ => 0) := by
  rw [workersAfter_zero]
  exact .inl (by simp [Block.joinedMembers])

/-- Turns enough for every worker. -/
theorem workersAfter_of_enough (none : ∀ lane, block.layout.master ≤ lane → counts lane = 0)
    (enough : ∀ lane, lane < block.layout.master →
      (if lane < block.board.teamSize then 2 else 1) ≤ counts lane) :
    workersAfter work block counts = block.workersThrough work := by
  funext lane
  rw [workersAfter, Block.workersThrough]
  by_cases worker : lane < block.layout.master
  · rw [if_pos worker]
    have enough := enough lane worker
    rcases taken : counts lane with _ | _ | turns
    · rw [taken] at enough
      split at enough <;> omega
    · rw [taken] at enough
      by_cases member : lane < block.board.teamSize
      · rw [if_pos member] at enough
        omega
      · rw [Worker.after, if_neg member]
    · rw [Worker.after]
  · rw [if_neg worker, none lane (Nat.le_of_not_lt worker), Worker.after]

/-- **Workers may take turns in any order.** The master of a block that can be reached has posted a
region, and all workers stand on the outermost frame. Then whatever turns the workers take, they
come to the same in every order; and once every worker is through, the members of the team were
told to work, the others were told to stay idle, and the block is settled. Only a counter of
activations without room for the team can stop them. -/
theorem turns_of_prepareRegion {arch : Arch} {config : LaunchConfig} {new : Block} {lane : Nat}
    {fullRuntime : Bool} {decision : TeamDecision} (valid : arch.isValid = true)
    (created : Block.create arch .generic config = .ok new) (ops : List Operation)
    (prepared : Block.prepareRegion lane work fullRuntime (Block.run ops new).2 =
      .ok decision block)
    (outside : ∀ lane, lane < block.layout.master →
      (block.state.thread lane).top = some baseId) :
    block.board.teamSize = decision.size ∧ decision.size ≤ block.layout.master ∧
    ∃ after, Block.Settled block after ∧
      ∀ schedule : List Nat, (∀ lane ∈ schedule, lane < block.layout.master) →
        (∃ crew, turns schedule { block } = .ok () crew ∧
          (∀ schedule', schedule.Perm schedule' → turns schedule' { block } = .ok () crew) ∧
          ((∀ lane, lane < block.layout.master →
              (if lane < decision.size then 2 else 1) ≤ schedule.count lane) →
            crew.block = after ∧ ∀ lane, lane < block.layout.master → crew.workers lane =
              .through (if lane < decision.size then .active work else .idle work))) ∨
        (UInt32.size ≤ block.counters.activations + decision.size ∧
          ∃ stopped, turns schedule { block } = .error (.halted .addOverflow) stopped) := by
  have initialized := Block.initialized_of_create_generic created
  obtain ⟨stackOf, stacked⟩ :=
    (Block.reaches_run ops (Block.stacked_of_create (fun _ => valid) created initialized)).stacked
  obtain ⟨manned, size⟩ := stacked.manned_of_prepareRegion prepared outside
  rw [← size]
  refine ⟨rfl, manned.le_master, _, manned.settled, fun schedule workers => ?_⟩
  have run {schedule : List Nat} (workers : ∀ lane ∈ schedule, lane < block.layout.master) :=
    turns_reached manned schedule (fun _ => 0) countable_zero workers
  simp only [ComesTo, Nat.zero_add, reached_zero] at run
  obtain ⟨countable, taken⟩ | ⟨full, halted⟩ := run workers
  · refine .inl ⟨_, taken, fun schedule' same => ?_, fun enough => ?_⟩
    · -- the turns of each worker are as many in both orders
      have counts : (fun lane => schedule.count lane) = fun lane => schedule'.count lane :=
        funext fun lane => same.count_eq lane
      have workers' : ∀ lane ∈ schedule', lane < block.layout.master :=
        fun lane member => workers lane (same.mem_iff.2 member)
      rw [counts] at countable ⊢
      obtain ⟨-, taken'⟩ | ⟨full, -⟩ := run workers'
      · exact taken'
      · exact absurd countable full
    · have through : workersAfter work block (fun lane => schedule.count lane) =
          block.workersThrough work := workersAfter_of_enough
        (fun lane beyond => List.count_eq_zero.2 fun member =>
          absurd (workers lane member) (Nat.not_lt.2 beyond)) enough
      refine ⟨congrArg block.staffed through, fun lane worker => ?_⟩
      exact (congrFun through lane).trans (if_pos worker)
  · -- no more than the team can have joined
    refine .inr ⟨?_, halted⟩
    have le : (block.joinedMembers
        (workersAfter work block fun lane => schedule.count lane)).card ≤ block.board.teamSize :=
      card_joinedMembers_le
    unfold Block.Countable at full
    omega

/-- Three groups of two lanes with a region of two workers posted; the third group is the
master's. -/
def twoMembers : Block where
  arch := ⟨"pairs", 2, true⟩
  layout := ⟨6, 2, .generic⟩
  initialized := true
  state := .withStacks 6 (.initial 0)
  board := .post ⟨1, Nat.one_pos⟩ ((Frame.initial 0).teamTemplate baseId 2)
  counters := { regions := 1 }

/-- The two members take their turns one within the other, and one after the other. -/
theorem turns_twoMembers : ∃ after, Block.Settled twoMembers after ∧
    ∃ crew, turns [1, 0, 2, 1, 3, 0] { block := twoMembers } = .ok () crew ∧
      turns [0, 0, 1, 1, 2, 3] { block := twoMembers } = .ok () crew ∧ crew.block = after ∧
      (crew.workers 0, crew.workers 1) =
        (.through (.active ⟨1, Nat.one_pos⟩), .through (.active ⟨1, Nat.one_pos⟩)) := by
  have created : Block.create ⟨"pairs", 2, true⟩ .generic { grid := .line 1, block := .line 6 } =
      .ok { twoMembers with board := {}, counters := {} } := rfl
  have prepared : Block.prepareRegion 4 ⟨1, Nat.one_pos⟩ true
      (Block.run [.pushThreads 4 2] { twoMembers with board := {}, counters := {} }).2 =
        .ok ⟨2, .request⟩ twoMembers := by with_unfolding_all rfl
  obtain ⟨-, -, after, settled, all⟩ :=
    turns_of_prepareRegion (by decide) created [.pushThreads 4 2] prepared
      (by decide +kernel)
  refine ⟨after, settled, ?_⟩
  obtain ⟨crew, taken, perm, through⟩ | ⟨full, -⟩ := all [1, 0, 2, 1, 3, 0] (by decide)
  · obtain ⟨same, workers⟩ := through (by decide)
    have members := congrArg₂ Prod.mk (workers 0 (by decide)) (workers 1 (by decide))
    exact ⟨crew, taken, perm _ (by decide), same, members⟩
  · exact absurd full (by decide)

end Crew

end RegionDispatch
