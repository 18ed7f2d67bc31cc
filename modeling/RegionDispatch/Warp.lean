import RegionDispatch.Fault
import RegionDispatch.LaneMask

/-!
# Warps

A block's hardware lanes are cut into SIMD groups of one width; a `Warp` names one group by its
index within the block. Hardware lane numbers are 32-bit words, so the lane numbers of a warp far
outside any block overflow.

* `Warp.containing` — the warp of a hardware lane.
* `Warp.hwLane` — the hardware lane of a lane of the warp.
* `Warp.shuffle` — the intra-group broadcast.
-/

namespace RegionDispatch

/-- One SIMD group of a block. -/
structure Warp where
  /-- Index of the group within the block. -/
  id : Nat
  /-- Lanes of the group. -/
  width : Nat
  deriving DecidableEq, Repr

namespace Warp

/-- The warp that has hardware lane `hwLane` of the block. -/
def containing (hwLane width : Nat) : Except Fault Warp := do
  let id ← checkedDiv hwLane width
  return ⟨id, width⟩

/-- The hardware lane of the warp's lane 0. -/
def firstLane (w : Warp) : Except Fault Nat := checkedMul UInt32.size w.id w.width

/-- The hardware lane of the warp's lane `lane`. -/
def hwLane (w : Warp) (lane : Nat) : Except Fault Nat := do
  let first ← w.firstLane
  checkedAdd UInt32.size first lane

/-- The value lane `source` broadcasts to the lanes of `mask`; `values` is indexed by lane. Reading
from a lane outside the mask has no value. -/
def shuffle (mask : LaneMask) (values : List Nat) (source : Nat) : Option Nat :=
  if mask.contains source then values[source]? else none

/-- Hardware lane numbers that fit a word are computed exactly. -/
theorem hwLane_of_lt {w : Warp} {lane : Nat} (h : w.id * w.width + lane < UInt32.size) :
    w.hwLane lane = .ok (w.id * w.width + lane) := by
  have first : w.firstLane = .ok (w.id * w.width) := checkedMul_of_lt (by omega)
  simp only [hwLane, first, checkedAdd_of_lt h, bind, Except.bind]

end Warp

end RegionDispatch
