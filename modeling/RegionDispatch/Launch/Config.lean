import RegionDispatch.Fault

/-!
# Launch configurations

A kernel is launched on a three-dimensional grid of three-dimensional blocks. All extents are
32-bit words, and so are their volumes: a volume that does not fit faults.

* `Extent`, `Extent.volume` — sizes of a grid or block.
* `ExecMode` — generic (a master lane drives worker lanes) or SPMD (every lane runs the body).
* `LaunchConfig` — what the host asks for.
-/

namespace RegionDispatch

/-- A size in three dimensions. -/
structure Extent where
  /-- First dimension. -/
  x : UInt32
  /-- Second dimension. -/
  y : UInt32
  /-- Third dimension. -/
  z : UInt32
  deriving DecidableEq, Repr

namespace Extent

/-- A size in one dimension. -/
def line (x : UInt32) : Extent := ⟨x, 1, 1⟩

/-- The number of elements, multiplied up dimension by dimension. -/
def volume (e : Extent) : Except Fault Nat := do
  let area ← checkedMul UInt32.size e.x.toNat e.y.toNat
  checkedMul UInt32.size area e.z.toNat

/-- The extent as the list of its dimensions. -/
def toList (e : Extent) : List UInt32 := [e.x, e.y, e.z]

end Extent

/-- How a target region runs on a block. -/
inductive ExecMode where
  /-- One master lane runs the sequential part and hands regions to the worker lanes. -/
  | generic
  /-- Every lane runs the body from the start. -/
  | spmd
  deriving DecidableEq, Repr

/-- The name a mode is shown with. -/
def ExecMode.text : ExecMode → String
  | .generic => "generic"
  | .spmd => "SPMD"

/-- The host's configuration of one kernel launch. -/
structure LaunchConfig where
  /-- Blocks of the grid. -/
  grid : Extent
  /-- Threads of one block. -/
  block : Extent
  /-- False only for SPMD kernels built without the full runtime. -/
  fullRuntime : Bool := true
  /-- Thread limit of the enclosing teams construct, 0 if unset. -/
  threadLimit : UInt32 := 0
  deriving DecidableEq, Repr

namespace LaunchConfig

/-- Blocks of the launch. -/
def blockCount (config : LaunchConfig) : Except Fault Nat := config.grid.volume

/-- Threads of one block. -/
def blockSize (config : LaunchConfig) : Except Fault Nat := config.block.volume

end LaunchConfig

end RegionDispatch
