import RegionDispatch.Block.Basic

/-!
# Hints and queries

What a lane can ask for and ask about between regions.

* `Block.pushThreads`, `Block.pushSimd` — one-shot hints for the calling thread's next region.
* `Block.setThreads` — the requested threads of the calling thread's current frame.
* `Block.level`, `Block.threadNum`, `Block.teamSize`, … — queries; none changes the block.
-/

namespace RegionDispatch

namespace Block

open Dispatch

/-! ## Hints -/

/-- The `num_threads` clause of the calling thread's next region. -/
def pushThreads (lane count : Nat) : Dispatch Block Unit := do
  let tid ← threadOf lane
  onState fun state => state.modifyThread tid ({ · with pendingThreads := count })

/-- The simd limit of the calling thread's next convergent region. -/
def pushSimd (lane limit : Nat) : Dispatch Block Unit := do
  let tid ← threadOf lane
  onState fun state => state.modifyThread tid ({ · with pendingSimd := limit })

/-- The grid is fixed at launch, so a kernel that asks for teams is refused. -/
def requestTeams : Dispatch Block Unit := reject .numTeamsUnsupported

/-- Binding follows from the lane mapping; a request is accepted and has no effect. -/
def bindProcs : Dispatch Block Unit := pure ()

/-- Sets the requested threads of the calling thread's current frame; without frames nothing
happens. -/
def setThreads (lane count : Nat) : Dispatch Block Unit := do
  let tid ← threadOf lane
  let block ← get
  if block.initialized then
    let top ← granted (block.state.top tid)
    let _ ← granted (block.state.topFrame tid)
    onState fun state => state.modifyFrame top ({ · with nthreads := count })
  else
    pure ()

/-- Replaces the work-sharing state of the calling thread. -/
def setLoop (lane : Nat) (loop : LoopState) : Dispatch Block Unit := do
  let tid ← threadOf lane
  onState fun state => state.modifyThread tid ({ · with loop })

/-! ## Queries -/

/-- The calling thread's record. -/
def thread (lane : Nat) : Dispatch Block Thread := do
  let tid ← threadOf lane
  return (← get).state.thread tid

/-- The frame on top of the calling thread's stack. -/
def currentFrame (lane : Nat) : Dispatch Block Frame := do
  let tid ← threadOf lane
  granted ((← get).state.topFrame tid)

/-- What a query answers: read off the current frame, or off the thread's number and record where
there are no frames. -/
def query {α : Type} (lane : Nat) (framed : Frame → α) (bare : BlockLayout → Nat → Thread → α) :
    Dispatch Block α := do
  let tid ← threadOf lane
  let block ← get
  if block.initialized then
    let frame ← granted (block.state.topFrame tid)
    return framed frame
  else
    return bare block.layout tid (block.state.thread tid)

/-- 0 outside parallel regions, 1 directly inside one, 2 deeper. -/
def level (lane : Nat) : Dispatch Block Nat :=
  query lane (·.depth.level) fun _ _ thread => min thread.openRegions 2

/-- The logical thread number in the block. -/
def globalThread (lane : Nat) : Dispatch Block Nat := threadOf lane

/-- The calling thread's rank in its team. -/
def threadNum (lane : Nat) : Dispatch Block Nat :=
  query lane (·.rank) fun _ tid thread => if 0 < thread.openRegions then 0 else tid

/-- The size of the calling thread's team. -/
def teamSize (lane : Nat) : Dispatch Block Nat :=
  query lane (·.teamSize) fun layout _ thread => if 0 < thread.openRegions then 1 else layout.size

/-- The thread limit of the calling thread's team. -/
def threadLimit (lane : Nat) : Dispatch Block Nat :=
  query lane (·.threadLimit) fun layout _ _ => layout.size

/-- The pending `num_threads` clause of the calling thread. -/
def pendingThreads (lane : Nat) : Dispatch Block Nat := return (← thread lane).pendingThreads

/-- The pending simd limit of the calling thread. -/
def pendingSimd (lane : Nat) : Dispatch Block Nat := return (← thread lane).pendingSimd

/-- The work-sharing state of the calling thread. -/
def loopState (lane : Nat) : Dispatch Block LoopState := return (← thread lane).loop

end Block

end RegionDispatch
