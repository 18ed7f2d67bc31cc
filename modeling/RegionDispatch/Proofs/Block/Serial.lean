import RegionDispatch.Block.Serial
import RegionDispatch.Proofs.Block.Layout
import RegionDispatch.Proofs.Block.State
import RegionDispatch.Proofs.Dispatch.Ends

/-! # What entering and leaving a serialized region does

Each of the two steps is refused, is halted by a full counter, or makes one change of the block's
frames and threads: `BlockState.openSerial` parks the loop state of the thread in its top frame and
pushes a frame, `BlockState.closeSerial` releases that frame and brings the loop state back. The
lemmas on these two functions describe the change through `get?` and `thread`. -/

namespace RegionDispatch

/-- Whether a frame was pushed by entering a serialized region on the frame `below`. -/
def Frame.serializedOn (frame below : Frame) : Bool :=
  frame.rank = 0 && frame.teamSize = 1 && frame.depth = below.depth.deeper &&
    below.parkedLoop.isSome

/-- The frame below such a frame holds parked loop state. -/
theorem Frame.exists_of_serializedOn {frame below : Frame} (h : frame.serializedOn below = true) :
    ∃ loop, below.parkedLoop = some loop := by
  rw [Frame.serializedOn, Bool.and_eq_true] at h
  exact Option.isSome_iff_exists.1 h.2

/-- Such a frame belongs to a team of one. -/
theorem Frame.of_serializedOn {frame below : Frame} (h : frame.serializedOn below = true) :
    frame.rank = 0 ∧ frame.teamSize = 1 := by
  simp only [Frame.serializedOn, Bool.and_eq_true, decide_eq_true_eq] at h
  exact h.1.1

namespace BlockState

variable {state : BlockState} {tid other : Nat} {top parent id : FrameId} {frame below : Frame}
  {loop : LoopState}

/-- Parks the loop state of a thread in its top frame and pushes the frame of a serialized region.
-/
def openSerial (state : BlockState) (tid : Nat) (top : FrameId) (frame : Frame) : BlockState :=
  ((state.modifyFrame top ({ · with parkedLoop := some (state.thread tid).loop })).push tid
    (frame.serialized top)).2

/-- Releases the top frame of a thread and brings back the loop state parked in its parent. -/
def closeSerial (state : BlockState) (tid : Nat) (top parent : FrameId) (loop : LoopState) :
    BlockState :=
  (((state.setTop tid parent).release top).modifyFrame parent
    ({ · with parkedLoop := none })).modifyThread tid ({ · with loop })

/-! ## Opening -/

@[simp] theorem size_openSerial :
    (state.openSerial tid top frame).threads.size = state.threads.size := by
  rw [openSerial, size_push, size_modifyFrame]

theorem thread_openSerial_of_ne (h : other ≠ tid) :
    (state.openSerial tid top frame).thread other = state.thread other := by
  rw [openSerial, thread_push_of_ne h, thread_modifyFrame]

theorem thread_openSerial_self (h : tid < state.threads.size) :
    (state.openSerial tid top frame).thread tid =
      { state.thread tid with top := some state.arena.nextId } := by
  rw [openSerial, thread_push_self (by simpa using h), thread_modifyFrame, arena_modifyFrame,
    FrameArena.nextId_modify]

theorem sound_openSerial (sound : state.arena.Sound) :
    (state.openSerial tid top frame).arena.Sound :=
  (sound.modify _ _).alloc _

/-- The new frame stands on the old top, in which the loop state is parked; no other frame
changes. -/
theorem get?_openSerial (sound : state.arena.Sound) :
    (state.openSerial tid top frame).arena.get? id =
      if id = state.arena.nextId then some (frame.serialized top)
      else if id = top then
        (state.arena.get? id).map ({ · with parkedLoop := some (state.thread tid).loop })
      else state.arena.get? id := by
  rw [openSerial, arena_push, arena_modifyFrame, (sound.modify _ _).get?_alloc,
    FrameArena.nextId_modify, FrameArena.get?_modify]

theorem live_openSerial (sound : state.arena.Sound) :
    (state.openSerial tid top frame).arena.live = state.arena.live + 1 := by
  rw [openSerial, arena_push, arena_modifyFrame, (sound.modify _ _).live_alloc,
    FrameArena.live_modify]

/-! ## Closing -/

@[simp] theorem size_closeSerial :
    (state.closeSerial tid top parent loop).threads.size = state.threads.size := by
  rw [closeSerial, size_modifyThread, size_modifyFrame, size_release, size_setTop]

theorem thread_closeSerial_of_ne (h : other ≠ tid) :
    (state.closeSerial tid top parent loop).thread other = state.thread other := by
  rw [closeSerial, thread_modifyThread_of_ne h, thread_modifyFrame, thread_release,
    thread_setTop_of_ne h]

theorem thread_closeSerial_self (h : tid < state.threads.size) :
    (state.closeSerial tid top parent loop).thread tid =
      { state.thread tid with top := some parent, loop } := by
  rw [closeSerial, thread_modifyThread_self (by simpa using h), thread_modifyFrame, thread_release,
    thread_setTop_self h]

theorem sound_closeSerial (sound : state.arena.Sound) :
    (state.closeSerial tid top parent loop).arena.Sound :=
  (sound.release top).modify _ _

/-- The old top is gone and its parent holds no loop state; no other frame changes. -/
theorem get?_closeSerial :
    (state.closeSerial tid top parent loop).arena.get? id =
      if id = parent then
        ((state.arena.release top).2.get? id).map ({ · with parkedLoop := none })
      else if id = top then none
      else state.arena.get? id := by
  rw [closeSerial, arena_modifyThread, arena_modifyFrame, arena_release, arena_setTop,
    FrameArena.get?_modify, FrameArena.get?_release]

theorem live_closeSerial (sound : state.arena.Sound) (hlive : state.arena.isLive top = true) :
    (state.closeSerial tid top parent loop).arena.live + 1 = state.arena.live := by
  rw [closeSerial, arena_modifyThread, arena_modifyFrame, FrameArena.live_modify, arena_release,
    arena_setTop, sound.live_release hlive]

/-! ## Recognizing a serialized region -/

/-- A thread's own first-level frame is not a serialized region. -/
theorem topIsSerialized_of_home (htop : (state.thread tid).top = some top)
    (home : (state.thread tid).home = some top) : state.topIsSerialized tid = .ok false := by
  simp only [topIsSerialized, top_eq_ok.2 htop, home, bind, Except.bind, pure, Except.pure, if_true]

/-- A frame without parent is not a serialized region. -/
theorem topIsSerialized_of_parent_eq_none (htop : (state.thread tid).top = some top)
    (hframe : state.arena.get? top = some frame) (hparent : frame.parent = none) :
    state.topIsSerialized tid = .ok false := by
  simp only [topIsSerialized, top_eq_ok.2 htop, frame_eq_ok.2 hframe, hparent, bind, Except.bind,
    pure, Except.pure]
  split <;> rfl

theorem topIsSerialized_of_parent (htop : (state.thread tid).top = some top)
    (home : (state.thread tid).home ≠ some top) (hframe : state.arena.get? top = some frame)
    (hparent : frame.parent = some parent) (hbelow : state.arena.get? parent = some below) :
    state.topIsSerialized tid = .ok (frame.serializedOn below) := by
  simp only [topIsSerialized, top_eq_ok.2 htop, if_neg home, frame_eq_ok.2 hframe, hparent,
    frame_eq_ok.2 hbelow, bind, Except.bind, pure, Except.pure, Frame.serializedOn]

/-- What is recognized as a serialized region. -/
theorem of_topIsSerialized (h : state.topIsSerialized tid = .ok true) :
    ∃ top parent frame below, (state.thread tid).top = some top ∧
      (state.thread tid).home ≠ some top ∧ state.arena.get? top = some frame ∧
      frame.parent = some parent ∧ state.arena.get? parent = some below ∧
      frame.serializedOn below = true := by
  cases htop : (state.thread tid).top with
  | none => simp [topIsSerialized, top, htop, bind, Except.bind] at h
  | some top =>
    by_cases home : (state.thread tid).home = some top
    · rw [topIsSerialized_of_home htop home] at h
      cases h
    cases hframe : state.arena.get? top with
    | none =>
      simp [topIsSerialized, top_eq_ok.2 htop, home, BlockState.frame, hframe, bind, Except.bind]
        at h
    | some frame =>
      cases hparent : frame.parent with
      | none =>
        rw [topIsSerialized_of_parent_eq_none htop hframe hparent] at h
        cases h
      | some parent =>
        cases hbelow : state.arena.get? parent with
        | none =>
          simp [topIsSerialized, top_eq_ok.2 htop, home, BlockState.frame, hframe, hparent, hbelow,
            bind, Except.bind] at h
        | some below =>
          rw [topIsSerialized_of_parent htop home hframe hparent hbelow, Except.ok.injEq] at h
          exact ⟨top, parent, frame, below, rfl, home, hframe, hparent, hbelow, h⟩

end BlockState

namespace Block

open Dispatch

variable {block : Block} {lane tid : Nat} {top parent : FrameId} {frame below : Frame}
  {loop : LoopState}

/-- A lane of the block has the thread its layout gives it. -/
theorem threadOf_of_lt (inside : lane < block.layout.size)
    (owner : block.layout.threadOf lane = .ok tid) : threadOf lane block = .ok tid block := by
  refine eq_ok_of_ends ?_
  simp [threadOf, owner, inside]

/-- A lane outside the block is refused. -/
theorem threadOf_of_size_le (outside : block.layout.size ≤ lane) :
    threadOf lane block = .error (.rejected (.laneOutOfRange lane block.layout.size)) block := by
  refine eq_error_of_ends ?_
  simp [threadOf, outside]

/-! ## Entering -/

/-- The block after a thread has entered a serialized region. -/
def entered (block : Block) (tid : Nat) (top : FrameId) (frame : Frame) : Block :=
  { block with
    counters := { block.counters with serialized := block.counters.serialized + 1 }
    state := block.state.openSerial tid top frame }

/-- A thread with a live top enters a serialized region, as long as the counter has room. -/
theorem beginSerial_of_room (inside : lane < block.layout.size)
    (owner : block.layout.threadOf lane = .ok tid) (initialized : block.initialized = true)
    (htop : (block.state.thread tid).top = some top)
    (hframe : block.state.arena.get? top = some frame)
    (room : block.counters.serialized + 1 < UInt32.size) :
    beginSerial lane block = .ok () (block.entered tid top frame) := by
  refine eq_ok_of_ends ?_
  simp [entered, beginSerial, tally, onState, ends_of_ok (threadOf_of_lt inside owner), initialized,
    Counters.addSerialized, checkedAdd_of_lt room, Except.map, BlockState.top_eq_ok.2 htop,
    (BlockState.topFrame_eq_ok htop).2 hframe, BlockState.openSerial]

/-- A full counter halts the step before it changes anything. -/
theorem beginSerial_of_full (inside : lane < block.layout.size)
    (owner : block.layout.threadOf lane = .ok tid)
    (full : UInt32.size ≤ block.counters.serialized + 1) :
    beginSerial lane block = .error (.halted .addOverflow) block := by
  refine eq_error_of_ends ?_
  simp [beginSerial, tally, ends_of_ok (threadOf_of_lt inside owner), Counters.addSerialized,
    checkedAdd, Nat.not_lt.2 full, Except.map]

theorem beginSerial_of_size_le (outside : block.layout.size ≤ lane) :
    beginSerial lane block =
      .error (.rejected (.laneOutOfRange lane block.layout.size)) block := by
  refine eq_error_of_ends ?_
  simp [beginSerial, ends_of_error (threadOf_of_size_le outside)]

/-! ## Leaving -/

/-- The parked loop state comes back. -/
theorem unparkLoop_of_parked (htop : (block.state.thread tid).top = some top)
    (hframe : block.state.arena.get? top = some frame) (parked : frame.parkedLoop = some loop) :
    unparkLoop tid block =
      .ok () { block with
        state := (block.state.modifyFrame top ({ · with parkedLoop := none })).modifyThread tid
          ({ · with loop }) } := by
  refine eq_ok_of_ends ?_
  simp [unparkLoop, BlockState.top_eq_ok.2 htop, (BlockState.topFrame_eq_ok htop).2 hframe, parked,
    onState]

/-- There is nothing to bring back from a frame that was released. -/
theorem unparkLoop_of_dead (htop : (block.state.thread tid).top = some top)
    (dead : block.state.arena.get? top = none) :
    unparkLoop tid block = .error (.rejected (.stackUnderflow tid)) block := by
  refine eq_error_of_ends ?_
  simp [unparkLoop, BlockState.top_eq_ok.2 htop, BlockState.topFrame_of_dead htop dead]

/-- A thread whose top was pushed by entering a serialized region leaves it. -/
theorem endSerial_of_serializedOn (inside : lane < block.layout.size)
    (owner : block.layout.threadOf lane = .ok tid) (initialized : block.initialized = true)
    (htop : (block.state.thread tid).top = some top)
    (home : (block.state.thread tid).home ≠ some top)
    (hframe : block.state.arena.get? top = some frame) (hparent : frame.parent = some parent)
    (hbelow : block.state.arena.get? parent = some below) (distinct : parent ≠ top)
    (serialized : frame.serializedOn below = true) (parked : below.parkedLoop = some loop) :
    endSerial lane block =
      .ok () { block with state := block.state.closeSerial tid top parent loop } := by
  have bound := BlockState.lt_size_of_top htop
  have top' : (((block.state.setTop tid parent).release top).thread tid).top = some parent := by
    rw [BlockState.thread_release, BlockState.thread_setTop_self bound]
  have below' : ((block.state.setTop tid parent).release top).arena.get? parent = some below := by
    rw [BlockState.arena_release, BlockState.arena_setTop, FrameArena.get?_release_of_ne distinct,
      hbelow]
  refine eq_ok_of_ends ?_
  simp [endSerial, unparkLoop, onState, ends_of_ok (threadOf_of_lt inside owner), initialized,
    BlockState.topIsSerialized_of_parent htop home hframe hparent hbelow, serialized,
    BlockState.pop_eq_ok htop hframe hparent, BlockState.top_eq_ok.2 top',
    (BlockState.topFrame_eq_ok top').2 below', parked, BlockState.closeSerial]

/-- A thread whose top is no serialized region is refused. -/
theorem endSerial_of_not_serialized (inside : lane < block.layout.size)
    (owner : block.layout.threadOf lane = .ok tid) (initialized : block.initialized = true)
    (serialized : block.state.topIsSerialized tid = .ok false) :
    endSerial lane block = .error (.rejected (.unbalancedExit tid)) block := by
  refine eq_error_of_ends ?_
  simp [endSerial, ends_of_ok (threadOf_of_lt inside owner), initialized, serialized]

theorem endSerial_of_size_le (outside : block.layout.size ≤ lane) :
    endSerial lane block = .error (.rejected (.laneOutOfRange lane block.layout.size)) block := by
  refine eq_error_of_ends ?_
  simp [endSerial, ends_of_error (threadOf_of_size_le outside)]

end Block

end RegionDispatch
