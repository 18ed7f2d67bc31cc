import RegionDispatch.Block.Basic

/-!
# First-level regions

The generic-mode protocol. The master sizes the team of the next region and posts it; every worker
then learns whether it belongs to the team, and the workers that do leave the region again when its
body is done. At the end of the kernel the master posts nothing, which shuts the workers down.

* `Block.prepareRegion` — the master's sizing decision.
* `Block.enterRegion`, `Block.exitRegion` — the workers' side.
* `Block.signalShutdown` — the end of the kernel.
-/

namespace RegionDispatch

/-- What a worker learns when it looks at the board. -/
inductive Activation where
  /-- The team shuts down. -/
  | terminate
  /-- The region runs without this worker. -/
  | idle (work : WorkHandle)
  /-- This worker runs the region. -/
  | active (work : WorkHandle)
  deriving DecidableEq

namespace Activation

/-- Whether the worker runs the region. -/
def isActive : Activation → Bool
  | .active _ => true
  | _ => false

/-- The region on the board. -/
def work? : Activation → Option WorkHandle
  | .terminate => none
  | .idle work => some work
  | .active work => some work

end Activation

namespace Block

open Dispatch

/-- Decides the team size of the master's next region and posts the region with the frame its
members copy. The pending clause of the master's thread, logical thread 0, is spent even when no
lane is available. -/
def prepareRegion (lane : Nat) (work : WorkHandle) (fullRuntime : Bool := true) :
    Dispatch Block TeamDecision := do
  requireInitialized fullRuntime
  let master ← requireMaster (.notMaster lane)
  refuseIf (lane ≠ master) (.notMaster lane)
  let block ← get
  let top ← granted (block.state.top 0)
  let frame ← granted (block.state.frame top)
  refuseIf (frame.depth.inParallel) .alreadyInParallel
  let available ← checked block.layout.available
  let request : TeamRequest :=
    { clause := (block.state.thread 0).pendingThreads, nthreads := frame.nthreads,
      limit := frame.threadLimit, available }
  onState fun state => (state.takePendingThreads 0).2
  let decision ← checked (block.arch.sizeTeam request)
  refuseIf (decision.size = 0) (.invalidTeamSize decision.size)
  modify ({ · with board := WorkBoard.post work (frame.teamTemplate top decision.size) })
  tally Counters.addRegion
  return decision

/-- Puts a worker on its own first-level frame, a copy of the posted template with the worker's
rank, and starts its private event counter. Workers lie below the master warp, so the lane number
is the thread number and the rank. -/
def activate (lane master : Nat) : Dispatch Block Unit := do
  let block ← get
  match (block.state.thread lane).home with
  | none => reject (.stackUnderflow lane)
  | some home =>
    let rank ← checked (checkedMod lane master)
    let (stored, state) := block.state.overwrite home { block.board.template with rank }
    refuseIf (!stored) (.stackUnderflow lane)
    onState fun _ =>
      (state.setTop lane home).modifyThread lane ({ · with event := block.board.events.next })
    tally Counters.addActivation

/-- A worker looks at the board after the barrier that follows `prepareRegion`, and joins the team
if it belongs to it. -/
def enterRegion (lane : Nat) (fullRuntime : Bool := true) : Dispatch Block Activation := do
  requireInitialized fullRuntime
  let board := (← get).board
  match board.posted with
  | none => return .terminate
  | some work =>
    let master ← requireMaster (.notWorker lane)
    refuseIf (master ≤ lane) (.notWorker lane)
    if board.teamSize ≤ lane then
      return .idle work
    else
      activate lane master
      return .active work

/-- A worker leaves the region. It has to stand on its own first-level frame. -/
def exitRegion (lane : Nat) : Dispatch Block Unit := do
  let tid ← threadOf lane
  let state := (← get).state
  let top ← granted (state.top tid)
  refuseIf ((state.thread tid).home ≠ some top) (.unbalancedExit tid)
  let (_, popped) ← granted (state.pop tid)
  onState fun _ => popped

/-- The master shuts the workers down. -/
def signalShutdown (lane : Nat) : Dispatch Block Unit := do
  let master ← checked (← get).layout.masterLane
  refuseIf (lane ≠ master) (.notMaster lane)
  modify fun block => { block with board := block.board.retire }

end Block

end RegionDispatch
