import RegionDispatch.Kernel.Execution
import RegionDispatch.Metrics.Snapshot

/-!
# Launches

A launch runs a kernel on every block of the grid in turn and adds up what the blocks dispatched. A
block that is rejected or faults ends the launch. A device with live metrics publishes a snapshot
after every block.

* `Device`, `Device.launch` — a launch.
* `LaunchTotals` — its statistics.
* `Launch.snapshot` — what is published after a block.
-/

namespace RegionDispatch

/-- A device kernels are launched on. -/
structure Device where
  /-- Its architecture. -/
  arch : Arch
  /-- Whether launches publish a snapshot after every block. -/
  liveMetrics : Bool := false
  deriving DecidableEq, Repr

/-- Totals over the blocks of a launch; each is a 32-bit word. -/
structure LaunchTotals where
  /-- Blocks that are done. -/
  blocks : Nat := 0
  /-- First-level regions. -/
  regions : Nat := 0
  /-- Workers that joined a region. -/
  activations : Nat := 0
  /-- Serialized regions. -/
  serialized : Nat := 0
  /-- Convergent teams. -/
  convergentTeams : Nat := 0
  /-- Barrier phases of the last block. -/
  phases : Nat := 0
  deriving DecidableEq, Repr

namespace LaunchTotals

/-- The totals with one more block. -/
def add (totals : LaunchTotals) (outcome : BlockOutcome) : Except Fault LaunchTotals := do
  let counters := outcome.block.counters
  let blocks ← checkedAdd UInt32.size totals.blocks 1
  let regions ← checkedAdd UInt32.size totals.regions counters.regions
  let activations ← checkedAdd UInt32.size totals.activations counters.activations
  let serialized ← checkedAdd UInt32.size totals.serialized counters.serialized
  let convergentTeams ← checkedAdd UInt32.size totals.convergentTeams counters.convergentTeams
  return { blocks, regions, activations, serialized, convergentTeams, phases := outcome.phases }

end LaunchTotals

/-- The state of a launch: the program's own data and what was published. -/
structure Launch (ω : Type) where
  /-- The program's own data. -/
  host : ω
  /-- The published snapshots, the last one first. -/
  published : List Snapshot := []

namespace Launch

open Dispatch

variable {ω α : Type}

/-- A step on the program's own data. -/
def onHost : Dispatch ω α → Dispatch (Launch ω) α :=
  zoom (fun launch => (launch.host, launch.published)) Launch.mk

/-- Which of `size` lanes are in `lanes`. -/
def laneFlags (size : Nat) (lanes : List Nat) : List Bool :=
  let off := Array.replicate size false
  (lanes.foldl (fun flags lane => flags.setIfInBounds lane true) off).toList

/-- The snapshot after a block; the clock is not read here, so its time stays 0. -/
def snapshot (device : Device) (kernel : Kernel ω) (config : LaunchConfig) (totals : LaunchTotals)
    (outcome : BlockOutcome) : Except Fault Snapshot := do
  let size ← config.blockSize
  let blocksTotal ← config.blockCount
  let available ← outcome.block.layout.available
  let last : Option RegionRecord := outcome.regions.head?
  return {
    status := if totals.blocks = blocksTotal then "complete" else "running"
    kernelName := kernel.name
    arch := device.arch.name
    mode := kernel.mode.text
    grid := #v[config.grid.x, config.grid.y, config.grid.z]
    block := #v[config.block.x, config.block.y, config.block.z]
    blocksTotal := blocksTotal.toUInt32
    blocksExecuted := totals.blocks.toUInt32
    groupWidth := device.arch.groupWidth
    availableLanes := available.toUInt32
    regions := totals.regions.toUInt32
    activations := totals.activations.toUInt32
    serializedRegions := totals.serialized.toUInt32
    convergentTeams := totals.convergentTeams.toUInt32
    lastTeamSize := (last.elim 0 (·.size)).toUInt32
    lastLimiter := last.elim "" (·.bound.text)
    laneActive := laneFlags size (last.elim [] (·.lanes))
    barrierArrivals := outcome.barrier.counts.map (·.toUInt64)
    timestampMs := 0 }

/-- Publishes the snapshot after a block, on a device with live metrics. -/
def publish (device : Device) (kernel : Kernel ω) (config : LaunchConfig) (totals : LaunchTotals)
    (outcome : BlockOutcome) : Dispatch (Launch ω) Unit :=
  if device.liveMetrics then do
    let snapshot ← checked (snapshot device kernel config totals outcome)
    modify fun launch => { launch with published := snapshot :: launch.published }
  else
    pure ()

/-- Runs so many more blocks. -/
def blocks (device : Device) (kernel : Kernel ω) (config : LaunchConfig) :
    (count : Nat) → LaunchTotals → Dispatch (Launch ω) LaunchTotals
  | 0, totals => return totals
  | left + 1, totals => do
    let outcome ← onHost (kernel.runBlock device.arch config)
    let totals ← checked (totals.add outcome)
    publish device kernel config totals outcome
    blocks device kernel config left totals

end Launch

/-- Runs a kernel on every block of the grid. -/
def Device.launch {ω : Type} (device : Device) (kernel : Kernel ω) (config : LaunchConfig) :
    Dispatch (Launch ω) LaunchTotals :=
  Launch.blocks device kernel config
    (config.grid.z.toNat * (config.grid.y.toNat * config.grid.x.toNat)) {}

end RegionDispatch
