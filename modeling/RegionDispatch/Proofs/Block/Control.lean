import RegionDispatch.Block.Control
import RegionDispatch.Proofs.Block.Serial

/-! # What hints and queries do

A lane outside the block is refused. For a lane of the block each hint is one change of its thread
or of its thread's top frame, and a query reads its answer off the top frame. -/

namespace RegionDispatch

namespace Block

open Dispatch

variable {block : Block} {lane tid count : Nat} {top : FrameId} {frame : Frame} {loop : LoopState}

/-- A lane outside the block asks in vain. -/
theorem query_of_size_le {α : Type} (outside : block.layout.size ≤ lane) (framed : Frame → α)
    (bare : BlockLayout → Nat → Thread → α) :
    query lane framed bare block =
      .error (.rejected (.laneOutOfRange lane block.layout.size)) block := by
  refine eq_error_of_ends ?_
  simp [query, ends_of_error (threadOf_of_size_le outside)]

theorem keeps_threadOf {P : Block → Prop} (lane : Nat) : Keeps P (threadOf lane) :=
  Keeps.get.bind fun _ => (Keeps.refuseIf _ _).bind fun _ => .checked _

/-- A query reads only. -/
theorem keeps_query {α : Type} {P : Block → Prop} (lane : Nat) (framed : Frame → α)
    (bare : BlockLayout → Nat → Thread → α) : Keeps P (query lane framed bare) :=
  (keeps_threadOf lane).bind fun _ => Keeps.get.bind fun _ =>
    ((Keeps.granted _).bind fun _ => .pure _).ite (.pure _)

section Lane

variable (inside : lane < block.layout.size) (owner : block.layout.threadOf lane = .ok tid)

include inside owner

theorem pushThreads_eq_ok :
    pushThreads lane count block =
      .ok () { block with
        state := block.state.modifyThread tid ({ · with pendingThreads := count }) } := by
  refine eq_ok_of_ends ?_
  simp [pushThreads, onState, ends_of_ok (threadOf_of_lt inside owner)]

theorem pushSimd_eq_ok :
    pushSimd lane count block =
      .ok () { block with
        state := block.state.modifyThread tid ({ · with pendingSimd := count }) } := by
  refine eq_ok_of_ends ?_
  simp [pushSimd, onState, ends_of_ok (threadOf_of_lt inside owner)]

theorem setLoop_eq_ok :
    setLoop lane loop block =
      .ok () { block with state := block.state.modifyThread tid ({ · with loop }) } := by
  refine eq_ok_of_ends ?_
  simp [setLoop, onState, ends_of_ok (threadOf_of_lt inside owner)]

theorem thread_eq_ok : thread lane block = .ok (block.state.thread tid) block := by
  refine eq_ok_of_ends ?_
  simp [thread, ends_of_ok (threadOf_of_lt inside owner)]

variable (initialized : block.initialized = true) (htop : (block.state.thread tid).top = some top)
  (hframe : block.state.arena.get? top = some frame)

include initialized htop hframe

theorem setThreads_eq_ok :
    setThreads lane count block =
      .ok () { block with
        state := block.state.modifyFrame top ({ · with nthreads := count }) } := by
  refine eq_ok_of_ends ?_
  simp [setThreads, onState, ends_of_ok (threadOf_of_lt inside owner), initialized,
    BlockState.top_eq_ok.2 htop, (BlockState.topFrame_eq_ok htop).2 hframe]

/-- Every query of a thread with frames is answered from the top one. -/
theorem query_eq_ok {α : Type} (framed : Frame → α) (bare : BlockLayout → Nat → Thread → α) :
    query lane framed bare block = .ok (framed frame) block := by
  refine eq_ok_of_ends ?_
  simp [query, ends_of_ok (threadOf_of_lt inside owner), initialized,
    (BlockState.topFrame_eq_ok htop).2 hframe]

omit initialized in
theorem currentFrame_eq_ok : currentFrame lane block = .ok frame block := by
  refine eq_ok_of_ends ?_
  simp [currentFrame, ends_of_ok (threadOf_of_lt inside owner),
    (BlockState.topFrame_eq_ok htop).2 hframe]

end Lane

end Block

end RegionDispatch
