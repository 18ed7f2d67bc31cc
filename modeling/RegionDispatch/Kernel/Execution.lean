import RegionDispatch.Kernel.Master

/-!
# Running one block

A kernel is a named target region, with one body per mode. Running it on a block builds the block,
runs the body, shuts the workers down, and checks that all lanes arrived equally often at the
barrier.

* `Kernel` — a kernel.
* `Kernel.runBlock` — runs it on one block, with the program's own data carried through.
* `BlockOutcome` — what a finished block leaves behind.
-/

namespace RegionDispatch

/-- What a kernel does on one block. -/
inductive KernelBody (ω : Type) where
  /-- The sequential part, run by the master. -/
  | generic (main : MasterM ω Unit)
  /-- The region body, run by every lane. -/
  | spmd (body : RegionBody ω)

/-- A target region that every block of the grid runs. -/
structure Kernel (ω : Type) where
  /-- Name of the kernel. -/
  name : String
  /-- What it does. -/
  body : KernelBody ω

/-- The mode a kernel runs in. -/
def Kernel.mode {ω : Type} (kernel : Kernel ω) : ExecMode :=
  match kernel.body with
  | .generic _ => .generic
  | .spmd _ => .spmd

/-- What a finished block leaves behind. -/
structure BlockOutcome where
  /-- The block. -/
  block : Block
  /-- The barrier. -/
  barrier : Barrier
  /-- First-level regions, the last one first. -/
  regions : List RegionRecord
  /-- Arrivals every participating lane has. -/
  phases : Nat

namespace Kernel

open Dispatch

variable {ω : Type}

/-- The workers look at the board once more and have to find that the team shuts down. -/
def dismiss (fullRuntime : Bool) (lane : Nat) : Dispatch Block Unit := do
  let activation ← Block.enterRegion lane fullRuntime
  refuseIf (activation ≠ .terminate) .unknownWork

/-- The generic state machine around the sequential part. -/
def runGeneric (main : MasterM ω Unit) (master : Nat) : MasterM ω BlockOutcome := do
  main
  Master.onBlock (Block.signalShutdown master)
  Master.sync
  let fullRuntime := (← get).fullRuntime
  (List.range master).forM fun lane => Master.onBlock (dismiss fullRuntime lane)
  let s ← get
  let phases ← granted s.barrier.aligned
  return ⟨s.hosted.block, s.barrier, s.regions, phases⟩

/-- The SPMD state machine: every lane in turn, then one barrier. -/
def runSpmd (body : RegionBody ω) (size : Nat) : RegionM ω BlockOutcome := do
  (List.range size).forM body
  let barrier := (Barrier.ofParticipants size (List.range size)).syncAll
  let phases ← granted barrier.aligned
  return ⟨(← get).block, barrier, [], phases⟩

/-- Runs a kernel on one new block. In generic mode the lanes of the master warp other than the
master take no part in the barrier. -/
def runBlock (kernel : Kernel ω) (arch : Arch) (config : LaunchConfig) :
    Dispatch ω BlockOutcome := do
  let block ← checked (Block.create arch kernel.mode config)
  let size := block.layout.size
  match kernel.body with
  | .generic main =>
    let master ← checked block.layout.masterLane
    let barrier := Barrier.ofParticipants size (List.range (master + 1))
    embed (fun host => { hosted := ⟨block, host⟩, barrier, fullRuntime := config.fullRuntime })
      (·.hosted.host) (runGeneric main master)
  | .spmd body => embed (⟨block, ·⟩) (·.host) (runSpmd body size)

end Kernel

end RegionDispatch
