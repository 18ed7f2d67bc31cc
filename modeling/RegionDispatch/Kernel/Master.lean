import RegionDispatch.Block.Barrier
import RegionDispatch.Kernel.Region

/-!
# The master

In generic mode one lane, the master, runs the sequential part of a kernel and hands parallel
regions to the worker lanes. Master and workers meet at block-wide barriers: one after a region is
posted and one after it is done.

* `Master ω`, `MasterM ω` — the block, its barrier and the regions so far; the master's steps.
* `Master.parallel` — runs a region on the workers.
* `Master.asThread` — runs a body on the master's own lane.
-/

namespace RegionDispatch

/-- What one first-level region looked like. -/
structure RegionRecord where
  /-- Lanes of the team. -/
  size : Nat
  /-- Why there were not more. -/
  bound : SizeBound
  /-- The lanes of the team, in order. -/
  lanes : List Nat
  deriving DecidableEq, Repr

/-- The state the master works on. -/
structure Master (ω : Type) where
  /-- The block and the program's own data. -/
  hosted : Hosted ω
  /-- The block's barrier. -/
  barrier : Barrier
  /-- Regions that were run to their end, the last one first. -/
  regions : List RegionRecord := []
  /-- Regions begun so far. -/
  begun : Nat := 0
  /-- Whether the launch asks for the full runtime. -/
  fullRuntime : Bool

/-- The steps of the sequential part of a generic kernel. -/
abbrev MasterM (ω : Type) := Dispatch (Master ω)

namespace Master

open Dispatch

variable {ω α : Type}

/-- A step on the block and the program's own data. -/
def onHosted : RegionM ω α → MasterM ω α :=
  zoom (fun s => (s.hosted, s.barrier, s.regions, s.begun, s.fullRuntime))
    fun hosted (barrier, regions, begun, fullRuntime) =>
      ⟨hosted, barrier, regions, begun, fullRuntime⟩

/-- A step on the block. -/
def onBlock (step : Dispatch Block α) : MasterM ω α := onHosted (Hosted.onBlock step)

/-- A step on the program's own data. -/
def onHost (step : Dispatch ω α) : MasterM ω α := onHosted (Hosted.onHost step)

/-- The master's lane. -/
def lane : MasterM ω Nat := do checked (← get).hosted.block.layout.masterLane

/-- Every participating lane arrives at the barrier. -/
def sync : MasterM ω Unit := modify fun s => { s with barrier := s.barrier.syncAll }

/-- The `num_threads` clause of the next region. -/
def pushThreads (count : Nat) : MasterM ω Unit := do onBlock (Block.pushThreads (← lane) count)

/-- The requested threads of the regions from here on. -/
def setThreads (count : Nat) : MasterM ω Unit := do onBlock (Block.setThreads (← lane) count)

/-- How deep the master is nested in parallel regions. -/
def level : MasterM ω Nat := do onBlock (Block.level (← lane))

/-- Runs a body on the master's own lane, as an ordinary thread. -/
def asThread (body : RegionBody ω) : MasterM ω Unit := do onHosted (body (← lane))

/-- The handle of the next region: regions are numbered from 1. -/
def nextWork : MasterM ω WorkHandle := do
  let id ← checked (checkedAdd UInt32.size (← get).begun 1)
  modify ({ · with begun := id })
  match WorkHandle.ofId? id with
  | some work => return work
  | none => reject .unknownWork

/-- Every worker looks at the board, and those of the team are collected. -/
def assemble (work : WorkHandle) (fullRuntime : Bool) : List Nat → Dispatch Block (List Nat)
  | [] => return []
  | lane :: lanes => do
    match ← Block.enterRegion lane fullRuntime with
    | .active posted =>
      refuseIf (posted ≠ work) .unknownWork
      let others ← assemble work fullRuntime lanes
      return lane :: others
    | .idle posted =>
      refuseIf (posted ≠ work) .unknownWork
      assemble work fullRuntime lanes
    | .terminate => reject .unknownWork

/-- Runs `body` as a first-level region on the worker lanes and gives back the team size. -/
def parallel (body : RegionBody ω) : MasterM ω Nat := do
  let master ← lane
  let work ← nextWork
  let fullRuntime := (← get).fullRuntime
  let decision ← onBlock (Block.prepareRegion master work fullRuntime)
  sync
  let team ← onBlock (assemble work fullRuntime (List.range master))
  team.forM fun lane => onHosted (body lane)
  team.forM fun lane => onBlock (Block.exitRegion lane)
  sync
  let record : RegionRecord := ⟨decision.size, decision.bound, team⟩
  modify fun s => { s with regions := record :: s.regions }
  return decision.size

end Master

end RegionDispatch
