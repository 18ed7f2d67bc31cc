import RegionDispatch.Fault
import RegionDispatch.Launch.Config

/-!
# Block layout

How the hardware lanes of one block map onto the master, the workers and the logical threads. The
team master is the first lane of the last warp. In generic mode the whole last warp stands for
logical thread 0 and the lanes below it are the workers; in SPMD mode every lane is its own thread.

* `BlockLayout.masterLane`, `BlockLayout.available`, `BlockLayout.threadOf` — the three maps. A
  group width of 0 has no last warp, and asking for it faults.
-/

namespace RegionDispatch

/-- The shape of one block. -/
structure BlockLayout where
  /-- Hardware lanes of the block. -/
  size : Nat
  /-- Lanes of one SIMD group. -/
  groupWidth : Nat
  /-- How the target region runs. -/
  mode : ExecMode
  deriving DecidableEq, Repr

namespace BlockLayout

/-- The team master: the first lane of the last warp. -/
def masterLane (layout : BlockLayout) : Except Fault Nat := do
  let low ← checkedSub layout.groupWidth 1
  return clearBits (layout.size - 1) low

/-- The lanes a parallel region can use. -/
def available (layout : BlockLayout) : Except Fault Nat :=
  match layout.mode with
  | .generic => layout.masterLane
  | .spmd => .ok layout.size

/-- The logical thread of a hardware lane. -/
def threadOf (layout : BlockLayout) (lane : Nat) : Except Fault Nat :=
  match layout.mode with
  | .generic => do
    let master ← layout.masterLane
    return if master ≤ lane then 0 else lane
  | .spmd => .ok lane

theorem masterLane_of_pos {layout : BlockLayout} (h : 0 < layout.groupWidth) :
    layout.masterLane = .ok (clearBits (layout.size - 1) (layout.groupWidth - 1)) := by
  simp only [masterLane, checkedSub_of_le h, bind, Except.bind, pure, Except.pure]

end BlockLayout

end RegionDispatch
