import RegionDispatch.Proofs.Block.Reachable

/-! # What one SPMD lane can see

In SPMD mode every lane is its own thread, and the calls a lane can make outside convergent regions
act on its own stack and its own record. What they answer depends on a small part of the block, its
*view*: the frames of its stack without their links, its loop state and its pending hints.

* **`LaneCall`**, **`LaneView.step`** — the calls of a lane, and what each does to the lane's view.
* **`Block.Shows size views block`** — each lane of a block sees its view.
* `Block.Acts.shows` — a change by one lane leaves the views of the other lanes alone.
* `Block.Shows.attempt_eq_ok` — a call does to the block what it does to the view of its lane, and
  is answered from that view. -/

namespace RegionDispatch

open Dispatch
open BlockState (baseId homeId)

/-- What a lane can ask. -/
inductive Question where
  /-- How deep it is nested. -/
  | level
  /-- Its rank. -/
  | threadNum
  /-- The size of its team. -/
  | teamSize
  /-- The thread limit. -/
  | threadLimit
  /-- The requested threads of its current frame. -/
  | nthreads
  /-- The loop state parked in its current frame. -/
  | parkedLoop
  /-- Its loop state. -/
  | loopState
  /-- Its pending clause. -/
  | pendingThreads
  /-- Its pending simd limit. -/
  | pendingSimd
  deriving DecidableEq

/-- What a call of a lane gives back. -/
inductive Answer where
  /-- Nothing. -/
  | done
  /-- A number. -/
  | number (n : Nat)
  /-- A loop state. -/
  | loop (loop : LoopState)
  /-- A parked loop state, if there is one. -/
  | parked (loop : Option LoopState)
  deriving DecidableEq

/-- A call of a lane. -/
inductive LaneCall where
  /-- It enters a serialized region. -/
  | beginSerial
  /-- It leaves one. -/
  | endSerial
  /-- The requested threads of its current frame. -/
  | setThreads (count : Nat)
  /-- Its loop state. -/
  | setLoop (loop : LoopState)
  /-- Its `num_threads` clause. -/
  | pushThreads (count : Nat)
  /-- Its simd limit. -/
  | pushSimd (limit : Nat)
  /-- A question. -/
  | ask (question : Question)
  deriving DecidableEq

namespace Question

/-- What the block answers. -/
def perform (lane : Nat) : Question → Dispatch Block Answer
  | level => do return .number (← Block.level lane)
  | threadNum => do return .number (← Block.threadNum lane)
  | teamSize => do return .number (← Block.teamSize lane)
  | threadLimit => do return .number (← Block.threadLimit lane)
  | nthreads => do return .number (← Block.currentFrame lane).nthreads
  | parkedLoop => do return .parked (← Block.currentFrame lane).parkedLoop
  | loopState => do return .loop (← Block.loopState lane)
  | pendingThreads => do return .number (← Block.pendingThreads lane)
  | pendingSimd => do return .number (← Block.pendingSimd lane)

end Question

namespace LaneCall

/-- What a call does. -/
def perform (lane : Nat) : LaneCall → Dispatch Block Answer
  | beginSerial => do
    Block.beginSerial lane
    return .done
  | endSerial => do
    Block.endSerial lane
    return .done
  | setThreads count => do
    Block.setThreads lane count
    return .done
  | setLoop loop => do
    Block.setLoop lane loop
    return .done
  | pushThreads count => do
    Block.pushThreads lane count
    return .done
  | pushSimd limit => do
    Block.pushSimd lane limit
    return .done
  | ask question => question.perform lane

/-- How many serialized regions a call is counted for, in a block of `size` lanes. -/
def entries (size lane : Nat) : LaneCall → Nat
  | beginSerial => if lane < size then 1 else 0
  | _ => 0

end LaneCall

/-- A frame without its link. -/
def Frame.unlinked (frame : Frame) : Frame := { frame with parent := none }

/-- What a lane sees of a block. -/
structure LaneView where
  /-- The frame it stands on. -/
  top : Frame
  /-- The frames of its stack below that. -/
  below : List Frame
  /-- Its loop state. -/
  loop : LoopState
  /-- Its pending clause. -/
  pendingThreads : Nat
  /-- Its pending simd limit. -/
  pendingSimd : Nat

namespace LaneView

/-- The answer to a question. -/
def answer (view : LaneView) : Question → Answer
  | .level => .number view.top.depth.level
  | .threadNum => .number view.top.rank
  | .teamSize => .number view.top.teamSize
  | .threadLimit => .number view.top.threadLimit
  | .nthreads => .number view.top.nthreads
  | .parkedLoop => .parked view.top.parkedLoop
  | .loopState => .loop view.loop
  | .pendingThreads => .number view.pendingThreads
  | .pendingSimd => .number view.pendingSimd

/-- Entering a serialized region parks the loop state and adds a frame. -/
def enter (view : LaneView) : LaneView :=
  { view with
    top := (view.top.serialized baseId).unlinked
    below := { view.top with parkedLoop := some view.loop } :: view.below }

/-- Leaving a serialized region, with its result. -/
def leave (lane : Nat) (view : LaneView) : Except DispatchError Answer × LaneView :=
  match view.below with
  | [] => (.error (.unbalancedExit lane), view)
  | next :: below =>
    if view.top.serializedOn next then
      (.ok .done, { view with
        top := { next with parkedLoop := none }, below, loop := next.parkedLoop.getD view.loop })
    else
      (.error (.unbalancedExit lane), view)

/-- What a call of a lane of the block gives back and does to the view of the lane. -/
def act (lane : Nat) (view : LaneView) : LaneCall → Except DispatchError Answer × LaneView
  | .beginSerial => (.ok .done, view.enter)
  | .endSerial => view.leave lane
  | .setThreads count => (.ok .done, { view with top := { view.top with nthreads := count } })
  | .setLoop loop => (.ok .done, { view with loop })
  | .pushThreads count => (.ok .done, { view with pendingThreads := count })
  | .pushSimd limit => (.ok .done, { view with pendingSimd := limit })
  | .ask question => (.ok (view.answer question), view)

/-- What a call gives back and does to the view, in a block of `size` lanes. -/
def step (size lane : Nat) (view : LaneView) (call : LaneCall) :
    Except DispatchError Answer × LaneView :=
  if lane < size then view.act lane call else (.error (.laneOutOfRange lane size), view)

end LaneView

/-- The frame stored under an id, without its link. -/
def FrameArena.unlinked? (arena : FrameArena) (id : FrameId) : Option Frame :=
  (arena.get? id).map Frame.unlinked

namespace Block

variable {block after : Block} {stackOf stackOf' : Nat → List FrameId} {size lane other : Nat}
  {view : LaneView} {id : FrameId}

/-- The stack and the record of a lane are those of the view. -/
structure Sees (stackOf : Nat → List FrameId) (lane : Nat) (view : LaneView) (block : Block) :
    Prop where
  frames : (stackOf lane).map block.state.arena.unlinked? = (view.top :: view.below).map some
  /-- At the bottom of the stack is the frame set aside for the lane. -/
  last : (stackOf lane).getLast? = some (homeId lane)
  loop : (block.state.thread lane).loop = view.loop
  pendingThreads : (block.state.thread lane).pendingThreads = view.pendingThreads
  pendingSimd : (block.state.thread lane).pendingSimd = view.pendingSimd

/-- An SPMD block of `size` lanes of which each lane sees its view. -/
def Shows (size : Nat) (views : Nat → LaneView) (block : Block) : Prop :=
  block.layout.mode = .spmd ∧ block.layout.size = size ∧
    ∃ stackOf, Stacked stackOf block ∧ ∀ lane, lane < size → Sees stackOf lane (views lane) block

/-- A view does not see changes of other threads and of frames outside the stack. -/
theorem Sees.congr (h : Sees stackOf lane view block) (stack : stackOf' lane = stackOf lane)
    (thread : after.state.thread lane = block.state.thread lane)
    (frames : ∀ id ∈ stackOf lane, after.state.arena.get? id = block.state.arena.get? id) :
    Sees stackOf' lane view after where
  frames := by
    rw [stack, ← h.frames]
    refine List.map_congr_left fun id member => ?_
    rw [FrameArena.unlinked?, frames id member]
    rfl
  last := by rw [stack]; exact h.last
  loop := by rw [thread]; exact h.loop
  pendingThreads := by rw [thread]; exact h.pendingThreads
  pendingSimd := by rw [thread]; exact h.pendingSimd

/-- The frame a lane stands on is the top one of its view. -/
theorem Sees.exists_top (h : Sees stackOf lane view block) :
    ∃ id ids frame, stackOf lane = id :: ids ∧ block.state.arena.get? id = some frame ∧
      frame.unlinked = view.top ∧ ids.map block.state.arena.unlinked? = view.below.map some := by
  have frames := h.frames
  cases stack : stackOf lane with
  | nil =>
    rw [stack] at frames
    cases frames
  | cons id ids =>
    rw [stack, List.map_cons, List.map_cons, List.cons.injEq] at frames
    obtain ⟨frame, hframe, unlinked⟩ := Option.map_eq_some_iff.1 frames.1
    exact ⟨id, ids, frame, rfl, hframe, unlinked, frames.2⟩

/-- The frames of a lane that stands on at least two. -/
theorem Sees.exists_below {next : Frame} {below : List Frame} (h : Sees stackOf lane view block)
    (views : view.below = next :: below) :
    ∃ top parent ids frame nextFrame, stackOf lane = top :: parent :: ids ∧
      block.state.arena.get? top = some frame ∧ frame.unlinked = view.top ∧
      block.state.arena.get? parent = some nextFrame ∧ nextFrame.unlinked = next := by
  obtain ⟨top, ids, frame, stack, hframe, unlinked, frames⟩ := h.exists_top
  rw [views] at frames
  cases ids with
  | nil => cases frames
  | cons parent ids =>
    rw [List.map_cons, List.map_cons, List.cons.injEq] at frames
    obtain ⟨nextFrame, hnext, unlinked'⟩ := Option.map_eq_some_iff.1 frames.1
    exact ⟨top, parent, ids, frame, nextFrame, stack, hframe, unlinked, hnext, unlinked'⟩

/-! ## Calls that are refused or answered -/

/-- Any call on a lane outside the block is refused. -/
theorem perform_of_size_le (outside : block.layout.size ≤ lane) (call : LaneCall) :
    call.perform lane block =
      .error (.rejected (.laneOutOfRange lane block.layout.size)) block := by
  have refused := threadOf_of_size_le outside
  refine eq_error_of_ends ?_
  cases call with
  | beginSerial => simp [LaneCall.perform, beginSerial, ends_of_error refused]
  | endSerial => simp [LaneCall.perform, endSerial, ends_of_error refused]
  | setThreads count => simp [LaneCall.perform, setThreads, ends_of_error refused]
  | setLoop loop => simp [LaneCall.perform, setLoop, ends_of_error refused]
  | pushThreads count => simp [LaneCall.perform, pushThreads, ends_of_error refused]
  | pushSimd limit => simp [LaneCall.perform, pushSimd, ends_of_error refused]
  | ask question =>
    cases question <;>
      simp [LaneCall.perform, Question.perform, level, threadNum, teamSize, threadLimit, query,
        currentFrame, loopState, pendingThreads, pendingSimd, thread, ends_of_error refused]

/-- Every question is answered from the frame the lane stands on and from its record. -/
theorem ask_eq_ok {tid : Nat} {top : FrameId} {frame : Frame} (inside : lane < block.layout.size)
    (owner : block.layout.threadOf lane = .ok tid) (initialized : block.initialized = true)
    (htop : (block.state.thread tid).top = some top)
    (hframe : block.state.arena.get? top = some frame) (below : List Frame) (question : Question) :
    question.perform lane block = .ok (LaneView.answer ⟨frame.unlinked, below,
      (block.state.thread tid).loop, (block.state.thread tid).pendingThreads,
      (block.state.thread tid).pendingSimd⟩ question) block := by
  have framed {α : Type} (read : Frame → α) (bare : BlockLayout → Nat → Thread → α) :=
    query_eq_ok inside owner initialized htop hframe read bare
  have current := currentFrame_eq_ok inside owner htop hframe
  have record := thread_eq_ok inside owner
  refine eq_ok_of_ends ?_
  cases question with
  | level =>
    simp [Question.perform, level, ends_of_ok (framed _ _), LaneView.answer, Frame.unlinked]
  | threadNum =>
    simp [Question.perform, threadNum, ends_of_ok (framed _ _), LaneView.answer, Frame.unlinked]
  | teamSize =>
    simp [Question.perform, teamSize, ends_of_ok (framed _ _), LaneView.answer, Frame.unlinked]
  | threadLimit =>
    simp [Question.perform, threadLimit, ends_of_ok (framed _ _), LaneView.answer, Frame.unlinked]
  | nthreads => simp [Question.perform, ends_of_ok current, LaneView.answer, Frame.unlinked]
  | parkedLoop => simp [Question.perform, ends_of_ok current, LaneView.answer, Frame.unlinked]
  | loopState => simp [Question.perform, loopState, ends_of_ok record, LaneView.answer]
  | pendingThreads => simp [Question.perform, pendingThreads, ends_of_ok record, LaneView.answer]
  | pendingSimd => simp [Question.perform, pendingSimd, ends_of_ok record, LaneView.answer]

/-! ## What a call of one lane changes -/

/-- A change by which `lane` gets the view `view` and the other lanes keep their stacks, frames and
records. -/
structure Acts (stackOf : Nat → List FrameId) (lane : Nat) (view : LaneView)
  (before after : Block) :
    Prop where
  layout : after.layout = before.layout
  others : ∀ other, other ≠ lane → after.state.thread other = before.state.thread other
  frames : ∀ other, other < before.layout.size → other ≠ lane → ∀ id ∈ stackOf other,
    after.state.arena.get? id = before.state.arena.get? id
  seen : ∃ stack, Stacked (Function.update stackOf lane stack) after ∧
    Sees (Function.update stackOf lane stack) lane view after

/-- **A change by one lane** is a change of its view. -/
theorem Acts.shows {views : Nat → LaneView} (change : Acts stackOf lane view block after)
    (spmd : block.layout.mode = .spmd) (sized : block.layout.size = size)
    (seen : ∀ other, other < size → Sees stackOf other (views other) block) :
    Shows size (Function.update views lane view) after := by
  obtain ⟨stack, stacked, own⟩ := change.seen
  refine ⟨by rw [change.layout]; exact spmd, by rw [change.layout]; exact sized, _, stacked, ?_⟩
  intro other inside
  by_cases same : other = lane
  · subst same
    rw [Function.update_self]
    exact own
  · rw [Function.update_of_ne same]
    exact (seen other inside).congr (Function.update_of_ne same _ _) (change.others other same)
      (change.frames other (sized ▸ inside) same)

section Own

variable (h : Stacked stackOf block) (inside : lane < block.layout.size)
  (sees : Sees stackOf lane view block)

include h inside sees

/-- A change of the lane's record that keeps its stack. -/
theorem acts_modifyThread {f : Thread → Thread} {view' : LaneView}
    (kept : ∀ thread, (f thread).top = thread.top ∧ (f thread).home = thread.home)
    (top : view'.top = view.top) (below : view'.below = view.below)
    (record : ∀ thread, thread.loop = view.loop → thread.pendingThreads = view.pendingThreads →
      thread.pendingSimd = view.pendingSimd → (f thread).loop = view'.loop ∧
        (f thread).pendingThreads = view'.pendingThreads ∧
          (f thread).pendingSimd = view'.pendingSimd) :
    Acts stackOf lane view' block { block with state := block.state.modifyThread lane f } := by
  have bound := h.lt_threads inside
  have self : (block.state.modifyThread lane f).thread lane = f (block.state.thread lane) :=
    BlockState.thread_modifyThread_self bound
  obtain ⟨loop, pendingThreads, pendingSimd⟩ :=
    record _ sees.loop sees.pendingThreads sees.pendingSimd
  refine ⟨rfl, fun _ ne => BlockState.thread_modifyThread_of_ne ne, fun _ _ _ _ _ => rfl,
    stackOf lane, ?_⟩
  rw [Function.update_eq_self]
  refine ⟨h.congr (.modifyThread h.sound f kept lane) h.template, ?_, sees.last, ?_, ?_, ?_⟩
  · rw [top, below]
    exact sees.frames
  · exact (congrArg Thread.loop self).trans loop
  · exact (congrArg Thread.pendingThreads self).trans pendingThreads
  · exact (congrArg Thread.pendingSimd self).trans pendingSimd

omit sees in
/-- The frames below the top of a lane are other frames. -/
theorem ne_of_mem_below {top : FrameId} {ids : List FrameId} (stack : stackOf lane = top :: ids)
    (member : id ∈ ids) : id ≠ top := by
  have nodup := h.nodup lane inside
  rw [stack] at nodup
  rintro rfl
  exact (List.nodup_cons.1 nodup).1 member

/-- The requested threads of the frame the lane stands on. -/
theorem acts_setThreads {top : FrameId} {ids : List FrameId} (stack : stackOf lane = top :: ids)
    (count : Nat) :
    Acts stackOf lane { view with top := { view.top with nthreads := count } } block
      { block with state := block.state.modifyFrame top ({ · with nthreads := count }) } := by
  have frames := sees.frames
  rw [stack, List.map_cons, List.map_cons, List.cons.injEq] at frames
  refine ⟨rfl, fun _ _ => rfl, fun other bound ne id member => ?_, stackOf lane, ?_⟩
  · have mine : top ∈ stackOf lane := stack ▸ List.mem_cons_self
    refine (FrameArena.get?_modify ..).trans (if_neg ?_)
    rintro rfl
    exact h.disjoint other bound lane inside ne member mine
  rw [Function.update_eq_self]
  refine ⟨h.congr (.modifyFrame h.sound _ (fun _ => by constructor <;> rfl) top) h.template, ?_,
    sees.last, sees.loop, sees.pendingThreads, sees.pendingSimd⟩
  rw [stack, List.map_cons, List.map_cons, List.cons.injEq]
  constructor
  · have changed : (block.state.modifyFrame top ({ · with nthreads := count })).arena.get? top =
        (block.state.arena.get? top).map ({ · with nthreads := count }) :=
      (FrameArena.get?_modify ..).trans (if_pos rfl)
    obtain ⟨frame, hframe, unlinked⟩ := Option.map_eq_some_iff.1 frames.1
    rw [FrameArena.unlinked?, changed, hframe, ← unlinked]
    rfl
  · rw [← frames.2]
    refine List.map_congr_left fun id member => ?_
    have kept : (block.state.modifyFrame top ({ · with nthreads := count })).arena.get? id =
        block.state.arena.get? id :=
      (FrameArena.get?_modify ..).trans (if_neg (ne_of_mem_below h inside stack member))
    rw [FrameArena.unlinked?, kept]
    rfl

/-- Entering a serialized region. -/
theorem acts_entered {top : FrameId} {ids : List FrameId} {frame : Frame}
    (stack : stackOf lane = top :: ids) (hframe : block.state.arena.get? top = some frame)
    (unlinked : frame.unlinked = view.top) :
    Acts stackOf lane view.enter block (block.entered lane top frame) := by
  have bound := h.lt_threads inside
  have head : (stackOf lane).headD baseId = top := by rw [stack]; rfl
  have opened : Restacked stackOf lane (block.state.arena.nextId :: stackOf lane) block
      (block.entered lane top frame) := by
    have step := h.opened inside (head.symm ▸ hframe)
    rwa [head] at step
  have self : (block.entered lane top frame).state.thread lane =
      { block.state.thread lane with top := some block.state.arena.nextId } :=
    BlockState.thread_openSerial_self bound
  have get (id : FrameId) : (block.entered lane top frame).state.arena.get? id =
      if id = block.state.arena.nextId then some (frame.serialized top)
      else if id = top then
        (block.state.arena.get? id).map
          ({ · with parkedLoop := some (block.state.thread lane).loop })
      else block.state.arena.get? id := BlockState.get?_openSerial h.sound
  have old {other : Nat} (inside : other < block.layout.size) {id : FrameId}
      (member : id ∈ stackOf other) : id ≠ block.state.arena.nextId :=
    h.sound.ne_nextId (h.isLive_of_mem inside member)
  have mine : top ∈ stackOf lane := stack ▸ List.mem_cons_self
  refine ⟨rfl, opened.others, fun other bound ne id member => ?_, _, h.replace inside opened, ?_⟩
  · -- the frames of another lane are neither the new one nor this lane's top
    rw [get, if_neg (old bound member), if_neg]
    rintro rfl
    exact h.disjoint other bound lane inside ne member mine
  have frames := sees.frames
  have last := sees.last
  rw [stack] at frames last
  rw [List.map_cons, List.map_cons, List.cons.injEq] at frames
  refine ⟨?_, ?_, ?_, ?_, ?_⟩
  · -- the new top, the frame it stands on with the loop state parked in it, and those below
    rw [Function.update_self, stack, List.map_cons, List.map_cons]
    refine congr (congrArg List.cons ?_) (congr (congrArg List.cons ?_) ?_)
    · rw [FrameArena.unlinked?, get, if_pos rfl, LaneView.enter, ← unlinked]
      rfl
    · rw [FrameArena.unlinked?, get, if_neg (old inside mine), if_pos rfl, hframe, ← unlinked,
        ← sees.loop]
      rfl
    · refine Eq.trans (List.map_congr_left fun id member => ?_) frames.2
      have below : id ∈ stackOf lane := stack ▸ List.mem_cons_of_mem top member
      rw [FrameArena.unlinked?, get, if_neg (old inside below),
        if_neg (ne_of_mem_below h inside stack member)]
      rfl
  · rw [Function.update_self, stack]
    exact last
  · exact (congrArg Thread.loop self).trans sees.loop
  · exact (congrArg Thread.pendingThreads self).trans sees.pendingThreads
  · exact (congrArg Thread.pendingSimd self).trans sees.pendingSimd

/-- Leaving a serialized region. -/
theorem acts_left {top parent : FrameId} {ids : List FrameId} {next : Frame} {below : List Frame}
    {loop : LoopState} (stack : stackOf lane = top :: parent :: ids) (notHome : top ≠ homeId lane)
    (views : view.below = next.unlinked :: below) :
    Acts stackOf lane
      { view with top := { next.unlinked with parkedLoop := none }, below, loop } block
      { block with state := block.state.closeSerial lane top parent loop } := by
  have bound := h.lt_threads inside
  have closed : Restacked stackOf lane (parent :: ids) block
      { block with state := block.state.closeSerial lane top parent loop } :=
    h.closed inside stack notHome
  have distinct : parent ≠ top := h.headD_ne inside stack
  have self : (block.state.closeSerial lane top parent loop).thread lane =
      { block.state.thread lane with top := some parent, loop } :=
    BlockState.thread_closeSerial_self bound
  have get {id : FrameId} (ne : id ≠ top) :
      (block.state.closeSerial lane top parent loop).arena.get? id =
        if id = parent then (block.state.arena.get? id).map ({ · with parkedLoop := none })
        else block.state.arena.get? id := by
    rw [BlockState.get?_closeSerial, FrameArena.get?_release_of_ne ne, if_neg ne]
  have mine : top ∈ stackOf lane := stack ▸ List.mem_cons_self
  have mine' : parent ∈ stackOf lane := stack ▸ List.mem_cons_of_mem top List.mem_cons_self
  refine ⟨rfl, closed.others, fun other bound ne id member => ?_, _, h.replace inside closed, ?_⟩
  · -- closing changes two frames of this lane, and stacks are disjoint
    have foreign {own : FrameId} (mine : own ∈ stackOf lane) : id ≠ own := by
      rintro rfl
      exact h.disjoint other bound lane inside ne member mine
    exact (get (foreign mine)).trans (if_neg (foreign mine'))
  have frames := sees.frames
  have last := sees.last
  have nodup := h.nodup lane inside
  rw [stack] at frames last nodup
  rw [views] at frames
  simp only [List.map_cons, List.cons.injEq] at frames
  have nodup' := (List.nodup_cons.1 nodup).2
  refine ⟨?_, ?_, congrArg Thread.loop self, ?_, ?_⟩
  · -- the old parent, which gave its loop state back, and the frames below it
    rw [Function.update_self, List.map_cons, List.map_cons]
    refine congr (congrArg List.cons ?_) ?_
    · obtain ⟨frame, hframe, unlinked⟩ := Option.map_eq_some_iff.1 frames.2.1
      rw [FrameArena.unlinked?, get distinct, if_pos rfl, hframe, ← unlinked]
      rfl
    · refine Eq.trans (List.map_congr_left fun id member => ?_) frames.2.2
      have notTop := ne_of_mem_below h inside stack (List.mem_cons_of_mem parent member)
      have notParent : id ≠ parent := by
        rintro rfl
        exact (List.nodup_cons.1 nodup').1 member
      rw [FrameArena.unlinked?, get notTop, if_neg notParent]
      rfl
  · rw [Function.update_self]
    exact last
  · exact (congrArg Thread.pendingThreads self).trans sees.pendingThreads
  · exact (congrArg Thread.pendingSimd self).trans sees.pendingSimd

/-- Only the bottom of a stack is the frame set aside for its lane. -/
theorem ne_homeId {top parent : FrameId} {ids : List FrameId}
    (stack : stackOf lane = top :: parent :: ids) : top ≠ homeId lane := by
  have last := sees.last
  rw [stack, List.getLast?_cons_cons] at last
  exact (ne_of_mem_below h inside stack (List.mem_of_getLast? last)).symm

/-- **Leaving** is refused or granted as the view says. -/
theorem endSerial_of_sees (owner : block.layout.threadOf lane = .ok lane) :
    (∃ error, endSerial lane block = .error (.rejected error) block ∧
      view.leave lane = (.error error, view)) ∨
    ∃ view' after, endSerial lane block = .ok () after ∧ view.leave lane = (.ok .done, view') ∧
      Acts stackOf lane view' block after ∧ after.counters = block.counters := by
  obtain ⟨refused, unserialized⟩ |
    ⟨top, ids, frame, next, loop, stack, notHome, hframe, hnext, serialized, parked, left⟩ :=
    h.endSerial_cases inside owner inside
  · -- if the block refuses, the view has nothing below or its top was not pushed by entering
    refine .inl ⟨_, refused, ?_⟩
    rw [LaneView.leave]
    split
    · rfl
    · next views =>
      obtain ⟨top, parent, ids, frame, nextFrame, stack, hframe, unlinked, hnext, rfl⟩ :=
        sees.exists_below views
      have refuse : frame.serializedOn nextFrame = false :=
        unserialized _ _ _ _ stack (ne_homeId h inside sees stack) hframe hnext
      rw [if_neg]
      rw [← unlinked]
      exact ne_true_of_eq_false refuse
  · cases views : view.below with
    | nil =>
      -- a lane on its last frame stands on the frame set aside for it
      obtain ⟨top', ids', frame', stack', -, -, frames⟩ := sees.exists_top
      have last := sees.last
      rw [views] at frames
      rw [stack', List.map_eq_nil_iff.1 frames] at last
      rw [stack', List.cons.injEq] at stack
      exact absurd (stack.1 ▸ Option.some.inj last) notHome
    | cons below belows =>
      obtain ⟨top', parent, ids', frame', nextFrame, stack', hframe', unlinked, hnext', rfl⟩ :=
        sees.exists_below views
      obtain ⟨rfl, rfl⟩ : top = top' ∧ ids = parent :: ids' := by
        rw [stack', List.cons.injEq] at stack
        exact ⟨stack.1.symm, stack.2.symm⟩
      obtain rfl : frame = frame' := Option.some.inj (hframe.symm.trans hframe')
      obtain rfl : next = nextFrame := Option.some.inj (hnext.symm.trans hnext')
      refine .inr ⟨_, _, left, ?_, acts_left h inside sees stack notHome views, rfl⟩
      have serialized' : view.top.serializedOn next.unlinked = true := unlinked ▸ serialized
      have parked' : next.unlinked.parkedLoop = some loop := parked
      simp only [LaneView.leave, views, if_pos serialized', parked', Option.getD_some]

end Own

/-! ## Any call -/

/-- A call that a full counter halts. -/
def Overflows (lane : Nat) (call : LaneCall) (block : Block) : Prop :=
  call.entries block.layout.size lane = 1 ∧ UInt32.size ≤ block.counters.serialized + 1

/-- Entering is halted by a full counter. -/
theorem attempt_of_overflows {call : LaneCall} (maps : block.layout.MapsLanes)
    (full : Overflows lane call block) :
    attempt (call.perform lane) block = .error (.halted .addOverflow) block := by
  obtain ⟨enters, full⟩ := full
  cases call with
  | beginSerial =>
    have inside : lane < block.layout.size := by
      by_contra outside
      rw [LaneCall.entries, if_neg outside] at enters
      cases enters
    exact attempt_of_halted
      (bind_of_error (beginSerial_of_full inside (maps.threadOf_eq lane) full) _)
  | _ => cases enters

/-- A call on a lane outside the block is refused and changes no view. -/
theorem Shows.attempt_of_size_le {views : Nat → LaneView} (shows' : Shows size views block)
    (outside : size ≤ lane) (call : LaneCall) :
    attempt (call.perform lane) block = .ok ((views lane).step size lane call).1 block ∧
      Function.update views lane ((views lane).step size lane call).2 = views ∧
      call.entries size lane = 0 := by
  have beyond := Nat.not_lt.2 outside
  obtain ⟨-, sized, -⟩ := shows'
  refine ⟨?_, ?_, ?_⟩
  · rw [attempt_of_rejected (perform_of_size_le (sized ▸ outside) call), LaneView.step,
      if_neg beyond, sized]
  · rw [LaneView.step, if_neg beyond, Function.update_eq_self]
  · cases call with
    | beginSerial => exact if_neg beyond
    | _ => rfl

/-- **A block is made of the views of its lanes.** Any call does to the block what it does to the
view of its lane, and is answered as that view says. -/
theorem Shows.attempt_eq_ok {views : Nat → LaneView} (shows' : Shows size views block)
    {call : LaneCall} (room : ¬Overflows lane call block) :
    ∃ after, attempt (call.perform lane) block = .ok ((views lane).step size lane call).1 after ∧
      Shows size (Function.update views lane ((views lane).step size lane call).2) after ∧
      after.counters.serialized = block.counters.serialized + call.entries size lane := by
  by_cases inside : lane < size
  swap
  · obtain ⟨refused, same, none⟩ := shows'.attempt_of_size_le (Nat.le_of_not_lt inside) call
    refine ⟨block, refused, ?_, ?_⟩
    · rw [same]
      exact shows'
    · rw [none]
      rfl
  obtain ⟨spmd, sized, stackOf, h, seen⟩ := shows'
  have bound : lane < block.layout.size := sized ▸ inside
  have owner : block.layout.threadOf lane = .ok lane := by
    rw [h.maps.threadOf_eq, BlockLayout.owner_of_spmd spmd]
  have sees := seen lane inside
  obtain ⟨top, ids, frame, stack, hframe, unlinked, -⟩ := sees.exists_top
  have htop : (block.state.thread lane).top = some top := by
    rw [h.tops lane bound, stack]
    rfl
  rw [LaneView.step, if_pos inside]
  -- every call but leaving returns, with one change of the block
  have returns {view' : LaneView} {after : Block} {answer : Answer} (entries : Nat)
      (run : call.perform lane block = .ok answer after)
      (acts : Acts stackOf lane view' block after)
      (counted : after.counters.serialized = block.counters.serialized + entries) :
      ∃ after, attempt (call.perform lane) block = .ok (.ok answer) after ∧
        Shows size (Function.update views lane view') after ∧
        after.counters.serialized = block.counters.serialized + entries :=
    ⟨after, attempt_of_ok run, acts.shows spmd sized seen, counted⟩
  cases call with
  | beginSerial =>
    have entries : LaneCall.beginSerial.entries size lane = 1 := if_pos inside
    have room' : block.counters.serialized + 1 < UInt32.size :=
      Nat.lt_of_not_le fun full => room ⟨sized ▸ entries, full⟩
    rw [entries]
    exact returns 1 (bind_of_ok (beginSerial_of_room bound owner h.initialized htop hframe room') _)
      (acts_entered h bound sees stack hframe unlinked) rfl
  | endSerial =>
    obtain ⟨error, refused, same⟩ | ⟨view', after, left, same, acts, counters⟩ :=
      endSerial_of_sees h bound sees owner
    · rw [LaneView.act, same]
      refine ⟨block, attempt_of_rejected (bind_of_error refused _), ?_, rfl⟩
      rw [Function.update_eq_self]
      exact ⟨spmd, sized, stackOf, h, seen⟩
    · rw [LaneView.act, same]
      exact returns 0 (bind_of_ok left _) acts (congrArg Counters.serialized counters)
  | setThreads count =>
    exact returns 0 (bind_of_ok (setThreads_eq_ok bound owner h.initialized htop hframe) _)
      (acts_setThreads h bound sees stack count) rfl
  | setLoop loop =>
    refine returns 0 (bind_of_ok (setLoop_eq_ok bound owner) _) ?_ rfl
    exact acts_modifyThread h bound sees (fun _ => by constructor <;> rfl) rfl rfl
      fun _ _ pendingThreads pendingSimd => ⟨rfl, pendingThreads, pendingSimd⟩
  | pushThreads count =>
    refine returns 0 (bind_of_ok (pushThreads_eq_ok bound owner) _) ?_ rfl
    exact acts_modifyThread h bound sees (fun _ => by constructor <;> rfl) rfl rfl
      fun _ loop _ pendingSimd => ⟨loop, rfl, pendingSimd⟩
  | pushSimd limit =>
    refine returns 0 (bind_of_ok (pushSimd_eq_ok bound owner) _) ?_ rfl
    exact acts_modifyThread h bound sees (fun _ => by constructor <;> rfl) rfl rfl
      fun _ loop pendingThreads _ => ⟨loop, pendingThreads, rfl⟩
  | ask question =>
    have answered := ask_eq_ok bound owner h.initialized htop hframe (views lane).below question
    rw [unlinked, sees.loop, sees.pendingThreads, sees.pendingSimd] at answered
    refine ⟨block, attempt_of_ok answered, ?_, rfl⟩
    rw [show ((views lane).act lane (.ask question)).2 = views lane from rfl,
      Function.update_eq_self]
    exact ⟨spmd, sized, stackOf, h, seen⟩

end Block

end RegionDispatch
