import RegionDispatch.Proofs.Convergent.Refusal

/-! # Warps outside the block

An entry looks up the hardware lane of every lane of its mask before it writes anything. Lane
numbers are computed in 32-bit words, and the block is only asked about a number that fits: on a
warp near the end of the words the product or the sum overflows first, and a fault halts the run
where a lane beyond the block is refused.

* **`Convergent.stop`** — how a single lane of a warp stops an entry, if it does.
* **`Convergent.enter_outside`** — an entry with a lane outside the block stops, at the lowest lane
  that stops it and as that lane does, and changes nothing; it is a refusal where the lane numbers
  fit.
* **`Convergent.not_enter_outside_rejected`** — a warp that halts the run. -/

namespace RegionDispatch

open Dispatch

/-- The fault of a lane number of the warp that does not fit its word. -/
def Warp.overflow (warp : Warp) : Fault :=
  if warp.id * warp.width < UInt32.size then .addOverflow else .mulOverflow

theorem Warp.hwLane_of_size_le {warp : Warp} {lane : Nat} (large : UInt32.size ≤ warp.number lane) :
    warp.hwLane lane = .error warp.overflow := by
  unfold Warp.hwLane Warp.firstLane Warp.overflow
  split
  · next fits =>
    rw [checkedMul_of_lt fits]
    exact checkedAdd_eq_error.2 ⟨large, rfl⟩
  · next overflows =>
    rw [checkedMul, if_neg overflows]
    rfl

/-- Looking for the last warp of a device without lanes faults. -/
theorem BlockLayout.threadOf_of_not_mapsLanes {layout : BlockLayout} (unmapped : ¬layout.MapsLanes)
    (lane : Nat) : layout.threadOf lane = .error .subOverflow := by
  obtain ⟨generic, none⟩ := Classical.not_imp.1 unmapped
  have laneless : layout.groupWidth = 0 := Nat.eq_zero_of_not_pos none
  rw [threadOf, generic]
  simp only [masterLane, laneless]
  rfl

instance BlockLayout.decidableMapsLanes (layout : BlockLayout) : Decidable layout.MapsLanes :=
  inferInstanceAs (Decidable (layout.mode = .generic → 0 < layout.groupWidth))

namespace Convergent

variable {construct : Construct} {warp : Warp} {mask : LaneMask} {entry : Entry} {block : Block}
  {lane : Nat} {lanes : List Nat} {failure : Failure}

/-- **How a lane of the warp stops an entry**: its number overflows, or lies outside the block, or
the device has no lanes to look for the master among. -/
def stop (warp : Warp) (layout : BlockLayout) (lane : Nat) : Option Failure :=
  if UInt32.size ≤ warp.number lane then some (.halted warp.overflow)
  else if layout.size ≤ warp.number lane then
    some (.rejected (.laneOutOfRange (warp.number lane) layout.size))
  else if ¬layout.MapsLanes then some (.halted .subOverflow)
  else none

/-- A lane outside the block stops every entry. -/
theorem isSome_stop_of_size_le {layout : BlockLayout} (outside : layout.size ≤ warp.number lane) :
    (stop warp layout lane).isSome := by
  unfold stop
  rw [if_pos outside]
  split <;> rfl

/-- Where lane numbers fit and the device has lanes, a lane only stops an entry from outside the
block. -/
theorem stop_eq_some_of_fits {layout : BlockLayout} (fits : warp.number lane < UInt32.size)
    (maps : layout.MapsLanes) (stopped : stop warp layout lane = some failure) :
    layout.size ≤ warp.number lane ∧
      failure = .rejected (.laneOutOfRange (warp.number lane) layout.size) := by
  rw [stop, if_neg (Nat.not_le.2 fits), if_neg (not_not_intro maps)] at stopped
  split at stopped
  · next outside => exact ⟨outside, (Option.some.inj stopped).symm⟩
  · cases stopped

/-- A lane takes its seat or stops, and the block is what it was. -/
theorem seat_eq (construct : Construct) (warp : Warp) (lane : Nat) (block : Block) :
    match stop warp block.layout lane with
    | some failure => seat construct warp lane block = .error failure block
    | none => ∃ found, seat construct warp lane block = .ok found block := by
  unfold stop
  by_cases large : UInt32.size ≤ warp.number lane
  · rw [if_pos large]
    exact eq_error_of_ends (by simp [seat, Warp.hwLane_of_size_le large])
  have number := Warp.hwLane_eq_ok.2 ⟨Nat.lt_of_not_le large, rfl⟩
  rw [if_neg large]
  by_cases outside : block.layout.size ≤ warp.number lane
  · rw [if_pos outside]
    refine eq_error_of_ends ?_
    simp [seat, number, ends_of_error (Block.threadOf_of_size_le outside)]
  rw [if_neg outside]
  by_cases maps : block.layout.MapsLanes
  · rw [if_neg (not_not_intro maps)]
    have owner := Block.threadOf_of_lt (Nat.lt_of_not_le outside) (maps.threadOf_eq _)
    exact ⟨_, eq_ok_of_ends (by simp [seat, number, ends_of_ok owner]; rfl)⟩
  · rw [if_pos maps]
    have masterless := BlockLayout.threadOf_of_not_mapsLanes maps (warp.number lane)
    refine eq_error_of_ends ?_
    simp [seat, number, Block.threadOf, Nat.lt_of_not_le outside, masterless]

/-- **Publishing hints stops at the first lane that stops it**, before anything is written. -/
theorem seats_stopped (stopped : lanes.findSome? (stop warp block.layout) = some failure) :
    seats construct warp lanes block = .error failure block := by
  induction lanes with
  | nil => cases stopped
  | cons lane lanes ih =>
    have first := seat_eq construct warp lane block
    rw [List.findSome?_cons] at stopped
    split at first
    · next failure' here =>
      rw [here] at stopped
      cases stopped
      rw [seats, bind_of_error first]
    · next here =>
      rw [here] at stopped
      obtain ⟨found, first⟩ := first
      rw [seats, bind_of_ok first, bind_of_error (ih stopped)]

/-- So does the whole entry: all lanes of the mask publish before the cursor moves. -/
theorem enter_stopped (initialized : entry.block.initialized = true)
    (covered : warp.width ≤ entry.jobs.size) (left : sources warp mask entry.cursor ≠ [])
    (stopped : (activity warp mask).lanes.findSome? (stop warp entry.block.layout) =
      some failure) :
    enter construct warp mask entry = .error failure entry := by
  have named : mask.inter (LaneMask.full warp.width) = activity warp mask := rfl
  have listed : ((activity warp mask).remainingFrom entry.cursor).lanes =
      sources warp mask entry.cursor := LaneMask.lanes_remainingFrom _ _
  obtain ⟨source, rest, among⟩ := List.exists_cons_of_ne_nil left
  have published : seats construct warp (activity warp mask).lanes entry.block = _ :=
    seats_stopped stopped
  refine eq_error_of_ends ?_
  simp only [enter, formTeam, ends_bind, ends_get, ends_refuseIf, onBlock, ends_zoom, named,
    LaneMask.lowestFrom_zero, listed, among, List.head?_cons, ends_of_error published, initialized]
  exact ⟨fun short => absurd short (Nat.not_lt.2 covered), fun _ => ⟨nofun, fun _ => by trivial⟩⟩

/-- **An entry with a lane outside the block stops and changes nothing.** The lowest lane of the
mask that stops it says how: a number that fits is refused, one that overflows its word halts the
run. So where the numbers of the mask all fit, on a device that has lanes, the entry is refused. -/
theorem enter_outside (construct : Construct) (initialized : entry.block.initialized = true)
    (covered : warp.width ≤ entry.jobs.size) (left : sources warp mask entry.cursor ≠ [])
    (outside : ∃ number ∈ numbers warp mask, entry.block.layout.size ≤ number) :
    ∃ failure,
      (activity warp mask).lanes.findSome? (stop warp entry.block.layout) = some failure ∧
      enter construct warp mask entry = .error failure entry ∧
      ((∀ number ∈ numbers warp mask, number < UInt32.size) → entry.block.layout.MapsLanes →
        ∃ number ∈ numbers warp mask, entry.block.layout.size ≤ number ∧
          failure = .rejected (.laneOutOfRange number entry.block.layout.size)) := by
  obtain ⟨_, listed, outside⟩ := outside
  obtain ⟨beyond, member, rfl⟩ := List.mem_map.1 listed
  have stops : ((activity warp mask).lanes.findSome? (stop warp entry.block.layout)).isSome :=
    List.findSome?_isSome_iff.2 ⟨beyond, member, isSome_stop_of_size_le outside⟩
  obtain ⟨failure, stopped⟩ := Option.isSome_iff_exists.1 stops
  refine ⟨failure, stopped, enter_stopped initialized covered left stopped, fun fit maps => ?_⟩
  obtain ⟨lane, among, here⟩ := List.exists_of_findSome?_eq_some stopped
  have number : warp.number lane ∈ numbers warp mask := List.mem_map_of_mem among
  exact ⟨_, number, stop_eq_some_of_fits (fit _ number) maps here⟩

/-- The first warp beyond the words, entered on two lanes: its number does not fit. -/
theorem enter_outside_beyond :
    enter .simd ⟨134217728, 32⟩ ⟨1⟩ ⟨.twoLanes, 0, Array.replicate 32 {}⟩ =
      .error (.halted .mulOverflow) ⟨.twoLanes, 0, Array.replicate 32 {}⟩ := by
  have left : sources ⟨134217728, 32⟩ ⟨1⟩ 0 ≠ [] := by decide +kernel
  have outside : ∃ number ∈ numbers ⟨134217728, 32⟩ ⟨1⟩, Block.twoLanes.layout.size ≤ number := by
    decide +kernel
  have covered : 32 ≤ (Array.replicate 32 ({} : Job)).size := by decide
  obtain ⟨failure, stopped, entered, -⟩ := @enter_outside ⟨134217728, 32⟩ ⟨1⟩
    ⟨.twoLanes, 0, Array.replicate 32 {}⟩ .simd rfl covered left outside
  have halts : failure = .halted .mulOverflow := by
    refine Option.some.inj (stopped.symm.trans ?_)
    decide +kernel
  rw [entered, halts]

/-- **A warp outside the block that is not refused.** Its lane 0 would have the first number that a
word does not hold. -/
theorem not_enter_outside_rejected :
    ¬∀ (construct : Construct) (warp : Warp) (mask : LaneMask) (entry : Entry),
      entry.block.initialized = true → entry.block.Upright →
      warp.id < UInt32.size → warp.width < UInt32.size → warp.width ≤ entry.jobs.size →
      sources warp mask entry.cursor ≠ [] →
      (∃ number ∈ numbers warp mask, entry.block.layout.size ≤ number) →
      ∃ lane size, enter construct warp mask entry =
        .error (.rejected (.laneOutOfRange lane size)) entry := by
  intro rejects
  obtain ⟨lane, size, rejected⟩ :=
    rejects .simd ⟨134217728, 32⟩ ⟨1⟩ ⟨.twoLanes, 0, Array.replicate 32 {}⟩ rfl
      Block.upright_twoLanes (by decide) (by decide) (by decide) (by decide +kernel)
      (by decide +kernel)
  have halted : enter .simd ⟨134217728, 32⟩ ⟨1⟩ ⟨.twoLanes, 0, Array.replicate 32 {}⟩ =
      .error (.halted .mulOverflow) ⟨.twoLanes, 0, Array.replicate 32 {}⟩ :=
    enter_stopped rfl (by decide) (by decide +kernel) (by decide +kernel)
  rw [halted] at rejected
  cases rejected

end Convergent

end RegionDispatch
