/-!
# Device architectures

The SIMD-group rules of a device: how many lanes one group has, and whether a team may leave part
of a group unused.

* `Arch.volta`, `Arch.pascal`, `Arch.wave64` — the known devices.
* `Arch.isValid` — the widths the lane masks can describe.
-/

namespace RegionDispatch

/-- The SIMD-group rules of one device architecture. -/
structure Arch where
  /-- Name of the architecture. -/
  name : String
  /-- Lanes of one SIMD group. -/
  groupWidth : UInt32
  /-- Whether a team smaller than the launch consists of whole groups. -/
  wholeGroups : Bool
  deriving DecidableEq, Repr

namespace Arch

/-- Independent thread scheduling, teams of whole warps. -/
def volta : Arch := ⟨"sm_70", 32, true⟩

/-- Warps of 32 lanes, any team size. -/
def pascal : Arch := ⟨"sm_60", 32, false⟩

/-- Wavefronts of 64 lanes, any team size. -/
def wave64 : Arch := ⟨"gfx90a", 64, false⟩

/-- Lanes of one SIMD group, as a number. -/
def width (arch : Arch) : Nat := arch.groupWidth.toNat

/-- Whether the group width is a power of two that a lane mask can describe. -/
def isValid (arch : Arch) : Bool :=
  arch.width != 0 && arch.width &&& (arch.width - 1) == 0 && arch.width ≤ 64

theorem width_pos_of_isValid {arch : Arch} (h : arch.isValid = true) : 0 < arch.width := by
  simp only [isValid, Bool.and_eq_true, bne_iff_ne] at h
  omega

end Arch

end RegionDispatch
