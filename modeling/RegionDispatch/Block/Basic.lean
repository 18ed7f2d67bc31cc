import RegionDispatch.Block.Layout
import RegionDispatch.Block.State
import RegionDispatch.Block.WorkBoard
import RegionDispatch.Dispatch
import RegionDispatch.TeamSize

/-!
# Blocks

The dispatch state of one block for the length of a launch. The operations on it are dispatch steps;
each names the calling lane by its hardware index, and the logical thread is found from the lane on
every call.

* `Block.create` — the block at kernel entry.
* `Block.threadOf` — the logical thread of a lane of the block.
* `Counters` — totals of what was dispatched; each is a 32-bit word.
-/

namespace RegionDispatch

/-- Totals of what one block dispatched. -/
structure Counters where
  /-- First-level regions posted by the master. -/
  regions : Nat := 0
  /-- Workers that joined a region. -/
  activations : Nat := 0
  /-- Serialized regions begun. -/
  serialized : Nat := 0
  /-- Convergent teams formed. -/
  convergentTeams : Nat := 0
  /-- Warp fences. -/
  fences : Nat := 0
  deriving DecidableEq, Repr

namespace Counters

/-- One more region. -/
def addRegion (c : Counters) : Except Fault Counters :=
  (checkedAdd UInt32.size c.regions 1).map ({ c with regions := · })

/-- One more activation. -/
def addActivation (c : Counters) : Except Fault Counters :=
  (checkedAdd UInt32.size c.activations 1).map ({ c with activations := · })

/-- One more serialized region. -/
def addSerialized (c : Counters) : Except Fault Counters :=
  (checkedAdd UInt32.size c.serialized 1).map ({ c with serialized := · })

/-- One more convergent team. -/
def addTeam (c : Counters) : Except Fault Counters :=
  (checkedAdd UInt32.size c.convergentTeams 1).map ({ c with convergentTeams := · })

/-- One more fence. -/
def addFence (c : Counters) : Except Fault Counters :=
  (checkedAdd UInt32.size c.fences 1).map ({ c with fences := · })

end Counters

/-- The dispatch state of one block. -/
structure Block where
  /-- The device the block runs on. -/
  arch : Arch
  /-- How lanes map onto master, workers and threads. -/
  layout : BlockLayout
  /-- Whether the block has the full runtime: frame stacks and teams. -/
  initialized : Bool
  /-- Frames and threads. -/
  state : BlockState
  /-- What the master posted last. -/
  board : WorkBoard := {}
  /-- What was dispatched so far. -/
  counters : Counters := {}
  deriving DecidableEq

namespace Block

open Dispatch

/-- The block at kernel entry. In generic mode every thread's stack starts at one outermost frame;
in SPMD mode every lane stands on a first-level frame of a team spanning the block. Only an SPMD
block can lack the full runtime. -/
def create (arch : Arch) (mode : ExecMode) (config : LaunchConfig) : Except Fault Block := do
  let size ← config.blockSize
  let initialized := config.fullRuntime || mode == .generic
  let initial := Frame.initial config.threadLimit.toNat
  let state :=
    if initialized then
      match mode with
      | .generic => BlockState.withStacks size initial
      | .spmd => BlockState.spmd size initial
    else BlockState.simple size
  return { arch, layout := ⟨size, arch.width, mode⟩, initialized, state }

/-- The number of stored frames. -/
def liveFrames (block : Block) : Nat := block.state.arena.live

/-- Changes the frames and threads. -/
def onState (f : BlockState → BlockState) : Dispatch Block Unit :=
  modify fun block => { block with state := f block.state }

/-- Counts an event. -/
def tally (count : Counters → Except Fault Counters) : Dispatch Block Unit := do
  let counters ← checked (count (← get).counters)
  modify ({ · with counters })

/-- The logical thread of a hardware lane of the block. -/
def threadOf (lane : Nat) : Dispatch Block Nat := do
  let layout := (← get).layout
  refuseIf (layout.size ≤ lane) (.laneOutOfRange lane layout.size)
  checked (layout.threadOf lane)

/-- Refuses unless the caller promises the full runtime and the block has it. -/
def requireInitialized (fullRuntime : Bool) : Dispatch Block Unit := do
  refuseIf (!fullRuntime || !(← get).initialized) .runtimeUninitialized

/-- The master lane; an SPMD block has none, and `error` says who asked for it. -/
def requireMaster (error : DispatchError) : Dispatch Block Nat := do
  let layout := (← get).layout
  refuseIf (layout.mode ≠ .generic) error
  checked layout.masterLane

end Block

end RegionDispatch
