/-!
# Lane masks

The lanes of one SIMD group that execute the current control-flow path, as the bits of a 64-bit
word: lane `l` is in the mask iff bit `l` is set. No lane number of 64 or more is ever in a mask.

* `LaneMask.contains`, `LaneMask.lanes` — the membership test, and the members in ascending order.
* `LaneMask.rankOf`, `LaneMask.lowestFrom` — rank and select: how many members lie below a lane,
  and the least member at or above one.
* `LaneMask.full`, `LaneMask.below`, `LaneMask.remainingFrom` — the masks the partition arithmetic
  uses.
-/

namespace RegionDispatch

/-- The most lanes one SIMD group has. -/
def maxGroupWidth : Nat := 64

/-- A set of lanes of one SIMD group. -/
structure LaneMask where
  /-- Bit `l` is set iff lane `l` is in the set. -/
  bits : BitVec 64
  deriving DecidableEq, Repr

namespace LaneMask

/-- The mask without lanes. -/
def empty : LaneMask := ⟨0⟩

instance : Inhabited LaneMask := ⟨empty⟩

/-- The mask whose word has the value `n`, reduced to 64 bits. -/
def ofNat (n : Nat) : LaneMask := ⟨BitVec.ofNat 64 n⟩

/-- The value of the mask's word. -/
def toNat (m : LaneMask) : Nat := m.bits.toNat

/-- The word with bit `lane` alone; no bit at all from lane 64 on. -/
def bit (lane : Nat) : BitVec 64 := if lane < maxGroupWidth then 1#64 <<< lane else 0#64

/-- Whether `lane` is in the mask. -/
def contains (m : LaneMask) (lane : Nat) : Bool := m.bits.getLsbD lane

/-- The mask with `lane` added; a lane of 64 or more adds nothing. -/
def insert (m : LaneMask) (lane : Nat) : LaneMask := ⟨m.bits ||| bit lane⟩

/-- The lanes common to both masks. -/
def inter (m n : LaneMask) : LaneMask := ⟨m.bits &&& n.bits⟩

/-- The mask of a list of lanes; lanes of 64 or more are left out. -/
def ofLanes (lanes : List Nat) : LaneMask :=
  (lanes.filter (· < maxGroupWidth)).foldl insert empty

/-- All lanes of a group of `width` lanes. -/
def full (width : Nat) : LaneMask :=
  if width < maxGroupWidth then ⟨(1#64 <<< width) - 1⟩ else ⟨BitVec.allOnes 64⟩

/-- The lanes strictly below `lane`. -/
def below (lane : Nat) : LaneMask :=
  if lane < maxGroupWidth then ⟨bit lane - 1⟩ else ⟨BitVec.allOnes 64⟩

/-- The lanes of the mask at or above `lane`. -/
def remainingFrom (m : LaneMask) (lane : Nat) : LaneMask := ⟨m.bits &&& ~~~(below lane).bits⟩

/-- Whether the mask has no lane. -/
def isEmpty (m : LaneMask) : Bool := m.bits == 0

/-- How many lanes the mask has. -/
def count (m : LaneMask) : Nat := m.bits.cpop.toNat

/-- The least lane of the mask at or above `lane`. -/
def lowestFrom (m : LaneMask) (lane : Nat) : Option Nat :=
  let rest := m.remainingFrom lane
  if rest.isEmpty then none else some rest.bits.ctz.toNat

/-- How many lanes of the mask lie below `lane`. -/
def rankOf (m : LaneMask) (lane : Nat) : Nat := (m.inter (below lane)).count

/-- The lanes of the mask in ascending order. -/
def lanes (m : LaneMask) : List Nat := (List.range maxGroupWidth).filter m.contains

/-- The mask in binary, as `0b1011`; the empty mask is `0b0`. -/
def text (m : LaneMask) : String := "0b" ++ String.ofList (Nat.toDigits 2 m.toNat)

@[simp] theorem contains_empty (lane : Nat) : empty.contains lane = false := by
  simp [empty, contains]

@[simp] theorem contains_inter (m n : LaneMask) (lane : Nat) :
    (m.inter n).contains lane = (m.contains lane && n.contains lane) := by
  simp [inter, contains]

/-- Membership in `lanes` is membership in the mask. -/
@[simp] theorem mem_lanes {m : LaneMask} {lane : Nat} :
    lane ∈ m.lanes ↔ m.contains lane = true := by
  simp only [lanes, List.mem_filter, List.mem_range, and_iff_right_iff_imp]
  intro h
  exact BitVec.lt_of_getLsbD h

end LaneMask

end RegionDispatch
