import RegionDispatch.Arch
import RegionDispatch.Block.Layout
import RegionDispatch.Proofs.Fault
import RegionDispatch.Warp

/-! # The lanes of a block and their threads

The maps of a block layout as total functions. A layout *maps its lanes* when they do not fault: an
SPMD layout always does, a generic one as soon as its groups have a lane. The master lane and the
thread of a lane of the block then lie inside the block. -/

namespace RegionDispatch

/-- The group width of a valid device is a power of two. -/
theorem Arch.exists_two_pow {arch : Arch} (valid : arch.isValid = true) :
    ∃ k, arch.width = 2 ^ k := by
  simp only [isValid, Bool.and_eq_true, bne_iff_ne, beq_iff_eq, decide_eq_true_eq] at valid
  obtain ⟨⟨pos, power⟩, le⟩ := valid
  have small : ∀ width ≤ 64, width ≠ 0 → width &&& (width - 1) = 0 → ∃ k ≤ 6, width = 2 ^ k := by
    decide +kernel
  obtain ⟨k, -, power⟩ := small arch.width le pos power
  exact ⟨k, power⟩

namespace BlockLayout

variable {layout : BlockLayout} {lane : Nat}

/-- The team master. -/
def master (layout : BlockLayout) : Nat := clearBits (layout.size - 1) (layout.groupWidth - 1)

/-- The logical thread of a lane. -/
def owner (layout : BlockLayout) (lane : Nat) : Nat :=
  match layout.mode with
  | .generic => if layout.master ≤ lane then 0 else lane
  | .spmd => lane

/-- No map of the layout faults on the lanes. -/
def MapsLanes (layout : BlockLayout) : Prop := layout.mode = .generic → 0 < layout.groupWidth

theorem masterLane_eq (h : 0 < layout.groupWidth) : layout.masterLane = .ok layout.master :=
  masterLane_of_pos h

/-- Only a device with lanes has a master among them. -/
theorem pos_of_masterLane {lane : Nat} (h : layout.masterLane = .ok lane) :
    0 < layout.groupWidth := by
  refine Nat.pos_of_ne_zero fun none => ?_
  rw [masterLane, none] at h
  cases h

/-- A layout that maps its lanes has a thread for each. -/
theorem MapsLanes.threadOf_eq (maps : layout.MapsLanes) (lane : Nat) :
    layout.threadOf lane = .ok (layout.owner lane) := by
  unfold threadOf owner
  cases hmode : layout.mode with
  | generic =>
    simp only [masterLane_eq (maps hmode), bind, Except.bind, pure, Except.pure]
  | spmd => rfl

/-- And knows how many lanes a region can use. -/
theorem MapsLanes.exists_available (maps : layout.MapsLanes) :
    ∃ available, layout.available = .ok available := by
  unfold available
  split
  · next generic => exact ⟨_, masterLane_eq (maps generic)⟩
  · exact ⟨_, rfl⟩

theorem owner_of_spmd (h : layout.mode = .spmd) (lane : Nat) : layout.owner lane = lane := by
  rw [owner, h]

/-- A worker lane is its own thread. -/
theorem owner_of_lt_master (h : lane < layout.master) : layout.owner lane = lane := by
  unfold owner
  split
  · rw [if_neg (Nat.not_le.2 h)]
  · rfl

/-- The master lane belongs to thread 0. -/
theorem owner_master (h : layout.mode = .generic) : layout.owner layout.master = 0 := by
  rw [owner, h]
  exact if_pos (Nat.le_refl _)

/-- And so do all lanes above it. -/
theorem owner_of_master_le (generic : layout.mode = .generic) (h : layout.master ≤ lane) :
    layout.owner lane = 0 := by
  rw [owner, generic]
  exact if_pos h

theorem master_le_size_sub_one (layout : BlockLayout) : layout.master ≤ layout.size - 1 :=
  clearBits_le _ _

theorem master_le_size (layout : BlockLayout) : layout.master ≤ layout.size :=
  Nat.le_trans layout.master_le_size_sub_one (Nat.sub_le _ _)

/-- The thread of a lane of the block is a thread of the block. -/
theorem owner_lt (h : lane < layout.size) : layout.owner lane < layout.size := by
  unfold owner
  split
  · split
    · exact Nat.zero_lt_of_lt h
    · exact h
  · exact h

/-- Below the master there are whole groups. -/
theorem dvd_master {k : Nat} (power : layout.groupWidth = 2 ^ k) :
    layout.groupWidth ∣ layout.master := by
  rw [master, power]
  exact two_pow_dvd_clearBits _ _

/-! ## The master warp -/

/-- The warp of the master lane. -/
def masterWarp (layout : BlockLayout) : Warp :=
  ⟨layout.master / layout.groupWidth, layout.groupWidth⟩

/-- Its index counts the groups below the master lane. -/
theorem masterWarp_id_mul {k : Nat} (power : layout.groupWidth = 2 ^ k) :
    layout.masterWarp.id * layout.masterWarp.width = layout.master :=
  Nat.div_mul_cancel (dvd_master power)

/-- The master lane is lane 0 of its warp. -/
theorem hwLane_masterWarp {k : Nat} (power : layout.groupWidth = 2 ^ k)
    (fits : layout.master + lane < UInt32.size) :
    layout.masterWarp.hwLane lane = .ok (layout.master + lane) := by
  have fits' : layout.masterWarp.id * layout.masterWarp.width + lane < UInt32.size := by
    rw [masterWarp_id_mul power]
    exact fits
  rw [Warp.hwLane_of_lt fits', masterWarp_id_mul power]

end BlockLayout

end RegionDispatch
