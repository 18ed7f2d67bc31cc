import RegionDispatch.DispatchError
import RegionDispatch.Frame.Arena

/-!
# Block state

What one block keeps per logical thread for the length of a launch: the top of its frame stack, its
own first-level frame, its pending one-shot hints and its loop state. A thread number outside the
block reads as a fresh thread and is never written.

* `Thread` — the record of one logical thread.
* `BlockState.simple`, `BlockState.withStacks`, `BlockState.spmd` — a block without frame stacks,
  and with them in either mode.
* `BlockState.top`, `BlockState.push`, `BlockState.pop` — the stack of a thread.
-/

namespace RegionDispatch

/-- What a block keeps of one logical thread. -/
structure Thread where
  /-- Top of the frame stack. -/
  top : Option FrameId := none
  /-- The frame set aside for the thread's first-level regions. -/
  home : Option FrameId := none
  /-- Pending `num_threads` clause, 0 if none. -/
  pendingThreads : Nat := 0
  /-- Pending simd limit, 0 if none. -/
  pendingSimd : Nat := 0
  /-- Work-sharing state. -/
  loop : LoopState := {}
  /-- Private event counter of the thread's team. -/
  event : Nat := 0
  /-- Open serialized regions, counted only where there are no frame stacks. -/
  openRegions : Nat := 0
  deriving DecidableEq, Repr

instance : Inhabited Thread := ⟨{}⟩

/-- The frames and threads of one block. -/
structure BlockState where
  /-- Storage of the frames. -/
  arena : FrameArena
  /-- The logical threads, by number. -/
  threads : Array Thread
  deriving DecidableEq, Repr

namespace BlockState

/-- A block of `count` threads without frame stacks. -/
def simple (count : Nat) : BlockState := ⟨{}, Array.replicate count {}⟩

/-- The id of the outermost frame, which all stacks start at. -/
def baseId : FrameId := ⟨0⟩

/-- The id of the frame set aside for a thread. -/
def homeId (tid : Nat) : FrameId := ⟨tid + 1⟩

/-- A block of `count` threads whose stacks all start at one shared frame `initial`. The frames set
aside for the threads are blank. -/
def withStacks (count : Nat) (initial : Frame) : BlockState where
  arena := { slots := #[some initial] ++ Array.replicate count (some {}) }
  threads := (Array.range count).map fun tid => { top := some baseId, home := some (homeId tid) }

/-- A block of `count` threads that are all members of one first-level team: every thread stands on
the frame set aside for it, and below all of them lies the shared frame `initial`. -/
def spmd (count : Nat) (initial : Frame) : BlockState where
  arena :=
    { slots := #[some initial] ++
        (Array.range count).map fun tid => some (initial.spmdMember baseId tid count) }
  threads := (Array.range count).map fun tid =>
    { top := some (homeId tid), home := some (homeId tid) }

/-- The record of a thread; a fresh one for a number outside the block. -/
def thread (state : BlockState) (tid : Nat) : Thread := state.threads[tid]?.getD {}

/-- Changes the record of a thread of the block. -/
def modifyThread (state : BlockState) (tid : Nat) (f : Thread → Thread) : BlockState :=
  { state with threads := state.threads.modify tid f }

/-- Whether `tid` is a thread of the block. -/
def hasThread (state : BlockState) (tid : Nat) : Bool := tid < state.threads.size

/-- The top of a thread's stack. -/
def top (state : BlockState) (tid : Nat) : Except DispatchError FrameId :=
  match (state.thread tid).top with
  | some id => .ok id
  | none => .error (.stackUnderflow tid)

/-- Makes `id` the top of a thread's stack. -/
def setTop (state : BlockState) (tid : Nat) (id : FrameId) : BlockState :=
  state.modifyThread tid ({ · with top := some id })

/-- The frame stored under an id. -/
def frame (state : BlockState) (id : FrameId) : Except DispatchError Frame :=
  match state.arena.get? id with
  | some frame => .ok frame
  | none => .error (.stackUnderflow anyThread)

/-- The frame on top of a thread's stack. -/
def topFrame (state : BlockState) (tid : Nat) : Except DispatchError Frame := do
  let id ← state.top tid
  match state.arena.get? id with
  | some frame => return frame
  | none => throw (.stackUnderflow tid)

/-- Changes the frame stored under an id. -/
def modifyFrame (state : BlockState) (id : FrameId) (f : Frame → Frame) : BlockState :=
  { state with arena := state.arena.modify id f }

/-- Replaces the frame stored under a live id. -/
def overwrite (state : BlockState) (id : FrameId) (frame : Frame) : Bool × BlockState :=
  let (done, arena) := state.arena.overwrite id frame
  (done, { state with arena })

/-- Removes the frame stored under an id. -/
def release (state : BlockState) (id : FrameId) : BlockState :=
  { state with arena := (state.arena.release id).2 }

/-- Stores `frame` and makes it the top of a thread's stack. -/
def push (state : BlockState) (tid : Nat) (frame : Frame) : FrameId × BlockState :=
  let (id, arena) := state.arena.alloc frame
  (id, { state with arena }.setTop tid id)

/-- The top of a thread's stack and the frame below it. -/
def popTarget (state : BlockState) (tid : Nat) : Except DispatchError (FrameId × FrameId) := do
  let id ← state.top tid
  let frame ← state.frame id
  match frame.parent with
  | some parent => return (id, parent)
  | none => throw (.stackUnderflow tid)

/-- Makes the frame below the top the new top, and gives back the old one, still stored. -/
def pop (state : BlockState) (tid : Nat) : Except DispatchError (FrameId × BlockState) := do
  let (id, parent) ← state.popTarget tid
  return (id, state.setTop tid parent)

/-- Takes the pending `num_threads` clause of a thread, leaving none. -/
def takePendingThreads (state : BlockState) (tid : Nat) : Nat × BlockState :=
  ((state.thread tid).pendingThreads, state.modifyThread tid ({ · with pendingThreads := 0 }))

theorem thread_modifyThread (state : BlockState) (tid tid' : Nat) (f : Thread → Thread) :
    (state.modifyThread tid f).thread tid' =
      if tid = tid' ∧ tid < state.threads.size then f (state.thread tid')
      else state.thread tid' := by
  unfold modifyThread thread
  simp only [Array.getElem?_modify]
  by_cases same : tid = tid'
  · subst same
    by_cases inside : tid < state.threads.size <;> simp [inside]
  · simp [same]

end BlockState

end RegionDispatch
