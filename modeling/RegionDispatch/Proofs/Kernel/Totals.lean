import Mathlib.Tactic.MkIffOfInductiveProp
import RegionDispatch.Proofs.Kernel.Alignment

/-! # Totals and snapshots of a launch

The statistics that a launch returns and the snapshots that it publishes are put together from
different sources: the former by adding up the counters of the blocks, the latter from these sums
and from the regions and the barrier of the last block. Where every block of a launch ends in the
same way, both say the same.

* **`Kernel.Stateless`** — nothing is carried from block to block.
* `BlockOutcome.times` — the totals of so many blocks, `Snapshot.Reports` — a snapshot that agrees
  with them.
* `Launch.blocks_eq` — the blocks of a launch one after the other.
* `KernelProgram.totals_eq` — what a launch returns, and what it has published. -/

namespace RegionDispatch

open Dispatch

/-! ## Totals of equal blocks -/

/-- Every total fits its word. -/
@[mk_iff]
structure LaunchTotals.Fits (totals : LaunchTotals) : Prop where
  blocks : totals.blocks < UInt32.size
  regions : totals.regions < UInt32.size
  activations : totals.activations < UInt32.size
  serialized : totals.serialized < UInt32.size
  convergentTeams : totals.convergentTeams < UInt32.size

namespace BlockOutcome

variable (outcome : BlockOutcome) {count total : Nat}

/-- The totals of so many blocks that end in this way. -/
def times (count : Nat) : LaunchTotals where
  blocks := count
  regions := count * outcome.block.counters.regions
  activations := count * outcome.block.counters.activations
  serialized := count * outcome.block.counters.serialized
  convergentTeams := count * outcome.block.counters.convergentTeams
  phases := if count = 0 then 0 else outcome.phases

/-- A launch starts from the totals of no block. -/
theorem times_zero : outcome.times 0 = {} := by
  simp [times]

variable {outcome}

/-- The totals of fewer blocks fit as well. -/
theorem fits_times_of_le (room : (outcome.times total).Fits) (fewer : count ≤ total) :
    (outcome.times count).Fits := by
  have below (n : Nat) (fits : total * n < UInt32.size) : count * n < UInt32.size :=
    Nat.lt_of_le_of_lt (Nat.mul_le_mul_right n fewer) fits
  exact
    { blocks := Nat.lt_of_le_of_lt fewer room.blocks
      regions := below _ room.regions
      activations := below _ room.activations
      serialized := below _ room.serialized
      convergentTeams := below _ room.convergentTeams }

/-- One more block. -/
theorem add_times (room : (outcome.times (count + 1)).Fits) :
    (outcome.times count).add outcome = .ok (outcome.times (count + 1)) := by
  simp only [LaunchTotals.fits_iff, times, Nat.succ_mul] at room
  obtain ⟨blocks, regions, activations, serialized, convergentTeams⟩ := room
  simp only [LaunchTotals.add, times, checkedAdd_of_lt blocks, checkedAdd_of_lt regions,
    checkedAdd_of_lt activations, checkedAdd_of_lt serialized, checkedAdd_of_lt convergentTeams,
    bind, Except.bind, pure, Except.pure, Nat.succ_mul, Nat.succ_ne_zero, if_false]

end BlockOutcome

/-! ## Snapshots -/

/-- A snapshot that agrees with the totals of a launch of `total` blocks of this layout. -/
structure Snapshot.Reports (snapshot : Snapshot) (totals : LaunchTotals) (total : Nat)
    (layout : BlockLayout) : Prop where
  /-- It is complete after the last block. -/
  status : snapshot.status = if totals.blocks = total then "complete" else "running"
  blocks : snapshot.blocksExecuted.toNat = totals.blocks
  regions : snapshot.regions.toNat = totals.regions
  activations : snapshot.activations.toNat = totals.activations
  serialized : snapshot.serializedRegions.toNat = totals.serialized
  convergentTeams : snapshot.convergentTeams.toNat = totals.convergentTeams
  /-- The last region ran on the first lanes of the block. -/
  laneActive : snapshot.laneActive =
    (List.range layout.size).map fun lane => decide (lane < snapshot.lastTeamSize.toNat)
  /-- Every participant has been at the barrier in every phase, and nobody else has. -/
  arrivals : snapshot.barrierArrivals = (List.range layout.size).map fun lane =>
    if lane < layout.participants then totals.phases.toUInt64 else 0

namespace Launch

variable {ω : Type} {device : Device} {kernel : Kernel ω} {config : LaunchConfig}
  {outcome : BlockOutcome} {total : Nat}

/-- The flags of the first lanes. -/
theorem laneFlags_range (size count : Nat) :
    laneFlags size (List.range count) =
      (List.range size).map fun lane => decide (lane < count) := by
  refine List.ext_getElem? fun lane => ?_
  rw [laneFlags, Array.getElem?_toList, getElem?_foldl_setIfInBounds, Array.getElem?_replicate,
    List.getElem?_map]
  by_cases inside : lane < size
  · by_cases among : lane < count <;> simp [inside, among]
  · simp [inside]

/-- The lanes of the last region are the first ones of the block. -/
theorem laneFlags_head? {regions : List RegionRecord} {size : Nat} (small : size < UInt32.size)
    (first : ∀ record ∈ regions, record.lanes = List.range record.size ∧ record.size ≤ size) :
    laneFlags size (regions.head?.elim [] (·.lanes)) =
      (List.range size).map fun lane =>
        decide (lane < (regions.head?.elim 0 (·.size)).toUInt32.toNat) := by
  cases regions with
  | nil => exact laneFlags_range size 0
  | cons record regions =>
    obtain ⟨lanes, few⟩ := first record List.mem_cons_self
    rw [List.head?_cons, Option.elim_some, Option.elim_some, lanes, laneFlags_range,
      Nat.toUInt32_eq, UInt32.toNat_ofNat_of_lt' (Nat.lt_of_le_of_lt few small)]

/-- **A snapshot agrees with the totals** of the blocks so far. -/
theorem exists_snapshot {block : Block} {fullRuntime : Bool} {host last : ω}
    {program : KernelProgram ω} {name : String} {count : Nat}
    (done : program.Completes block fullRuntime host last outcome)
    (maps : block.layout.MapsLanes) (lanes : config.blockSize = .ok block.layout.size)
    (blocks : config.blockCount = .ok total)
    (room : (outcome.times (count + 1)).Fits) :
    ∃ shown, snapshot device (program.kernel name) config (outcome.times (count + 1)) outcome =
        .ok shown ∧
      shown.Reports (outcome.times (count + 1)) total block.layout := by
  obtain ⟨available, usable⟩ := maps.exists_available
  have small : block.layout.size < UInt32.size := (Extent.eq_of_volume lanes).2
  have first (record : RegionRecord) (listed : record ∈ outcome.regions) :
      record.lanes = List.range record.size ∧ record.size ≤ block.layout.size :=
    (done.regions record listed).imp_right (Nat.le_trans · block.layout.master_le_size)
  simp only [snapshot, lanes, blocks, done.layout, usable, bind, Except.bind, pure, Except.pure]
  exact
    ⟨_, rfl,
      { status := rfl
        blocks := UInt32.toNat_ofNat_of_lt' room.blocks
        regions := UInt32.toNat_ofNat_of_lt' room.regions
        activations := UInt32.toNat_ofNat_of_lt' room.activations
        serialized := UInt32.toNat_ofNat_of_lt' room.serialized
        convergentTeams := UInt32.toNat_ofNat_of_lt' room.convergentTeams
        laneActive := laneFlags_head? small first
        arrivals := by
          rw [done.barrier, Barrier.counts_level, List.map_map]
          refine List.map_congr_left fun lane _ => ?_
          rw [Function.comp_apply, apply_ite Nat.toUInt64]
          rfl }⟩

/-- So it is after every block of a launch whose totals fit. -/
theorem exists_report {block : Block} {fullRuntime : Bool} {host last : ω}
    {program : KernelProgram ω} {name : String}
    (done : program.Completes block fullRuntime host last outcome)
    (maps : block.layout.MapsLanes) (lanes : config.blockSize = .ok block.layout.size)
    (blocks : config.blockCount = .ok total) (nonempty : 0 < total)
    (room : (outcome.times total).Fits) :
    ∃ report : Nat → Snapshot, ∀ count < total,
      snapshot device (program.kernel name) config (outcome.times (count + 1)) outcome =
        .ok (report count) ∧
      (report count).Reports (outcome.times (count + 1)) total block.layout := by
  have reports (count : Nat) (more : count < total) :
      ∃ shown, snapshot device (program.kernel name) config (outcome.times (count + 1)) outcome =
          .ok shown ∧
        shown.Reports (outcome.times (count + 1)) total block.layout :=
    exists_snapshot done maps lanes blocks (BlockOutcome.fits_times_of_le room more)
  have : Nonempty Snapshot := ⟨(reports 0 nonempty).choose⟩
  choose! report shown using reports
  exact ⟨report, shown⟩

/-- After a block there is one more snapshot, if snapshots are published at all. -/
theorem publish_eq {totals : LaunchTotals} {shown : Snapshot}
    (known : snapshot device kernel config totals outcome = .ok shown) (launch : Launch ω) :
    publish device kernel config totals outcome launch =
      .ok () ⟨launch.host, (if device.liveMetrics then [shown] else []) ++ launch.published⟩ := by
  unfold publish
  split
  · refine eq_ok_of_ends ?_
    simp [known]
  · rfl

/-- **The blocks of a launch**, each of which ends as the others. The totals grow by one block at a
time, and so does the list of the snapshots. -/
theorem blocks_eq {first : ω} {report : Nat → Snapshot}
    (alike : ∀ host, Relation.ReflTransGen (kernel.Leaves device.arch config) first host →
      ∃ next, kernel.runBlock device.arch config host = .ok outcome next)
    (room : (outcome.times total).Fits)
    (reports : ∀ count < total,
      snapshot device kernel config (outcome.times (count + 1)) outcome = .ok (report count))
    (left : Nat) :
    ∀ (count : Nat) (launch : Launch ω), count + left = total →
      Relation.ReflTransGen (kernel.Leaves device.arch config) first launch.host →
      ∃ final, blocks device kernel config left (outcome.times count) launch =
          .ok (outcome.times total) final ∧
        final.published =
          (if device.liveMetrics then ((List.range' count left).map report).reverse else []) ++
            launch.published := by
  -- by induction on the blocks left; the totals are those of the blocks that are done
  induction left with
  | zero =>
    rintro count launch rfl -
    exact ⟨launch, rfl, by simp⟩
  | succ left ih =>
    intro count launch all reached
    obtain ⟨next, ran⟩ := alike launch.host reached
    have more : count + 1 ≤ total := by omega
    have added := BlockOutcome.add_times (BlockOutcome.fits_times_of_le room more)
    obtain ⟨final, rest, published⟩ := ih (count + 1)
      ⟨next, (if device.liveMetrics then [report count] else []) ++ launch.published⟩
      (by omega) (reached.tail ⟨outcome, ran⟩)
    refine ⟨final, eq_ok_of_ends ?_, ?_⟩
    · rw [blocks, ends_bind, onHost, ends_zoom, ends_of_ok ran, ends_bind, added, checked_ok,
        ends_pure, ends_bind, ends_of_ok (publish_eq (reports count more) _), ends_of_ok rest]
      exact ⟨rfl, rfl⟩
    · rw [published, List.range'_succ, List.map_cons, List.reverse_cons]
      split <;> simp

/-- A first block that fails is all there is to a launch. -/
theorem blocks_of_error {totals : LaunchTotals} {left : Nat} {launch : Launch ω}
    {failure : Failure} {last : ω}
    (failed : kernel.runBlock device.arch config launch.host = .error failure last) :
    blocks device kernel config (left + 1) totals launch =
      .error failure ⟨last, launch.published⟩ := by
  refine eq_error_of_ends ?_
  rw [blocks, ends_bind, onHost, ends_zoom, ends_of_error failed]
  exact ⟨rfl, rfl⟩

end Launch

/-! ## Stateless kernels -/

namespace Kernel

variable {ω : Type}

/-- Whatever earlier blocks leave behind, a block comes to the same. -/
def Stateless (kernel : Kernel ω) (arch : Arch) (config : LaunchConfig) (host : ω) : Prop :=
  ∀ later, Relation.ReflTransGen (kernel.Leaves arch config) host later →
    kernel.result arch config later = kernel.result arch config host

/-- A kernel that has no data of its own carries nothing. -/
theorem stateless_of_subsingleton [Subsingleton ω] (kernel : Kernel ω) (arch : Arch)
    (config : LaunchConfig) (host : ω) : kernel.Stateless arch config host :=
  fun later _ => congrArg (kernel.result arch config) (Subsingleton.elim later host)

/-- All blocks end as the first one. -/
theorem Stateless.runBlock_eq {kernel : Kernel ω} {arch : Arch} {config : LaunchConfig}
    {host last later : ω} {outcome : BlockOutcome} (stateless : kernel.Stateless arch config host)
    (ran : kernel.runBlock arch config host = .ok outcome last)
    (reached : Relation.ReflTransGen (kernel.Leaves arch config) host later) :
    ∃ next, kernel.runBlock arch config later = .ok outcome next := by
  have same := stateless later reached
  rw [result, result, ran] at same
  split at same
  · next again =>
    cases same
    exact ⟨_, again⟩
  · cases same

/-- A block that ends has been created. -/
theorem created_of_runBlock {kernel : Kernel ω} {arch : Arch} {config : LaunchConfig}
    {host last : ω} {outcome : BlockOutcome}
    (ran : kernel.runBlock arch config host = .ok outcome last) :
    ∃ block, Block.create arch kernel.mode config = .ok block := by
  cases created : Block.create arch kernel.mode config with
  | ok block => exact ⟨block, rfl⟩
  | error fault =>
    rw [runBlock, created] at ran
    cases ran

end Kernel

namespace KernelProgram

variable {ω : Type} {device : Device} {config : LaunchConfig} {total size : Nat}

/-- **Totals and snapshots agree.** A launch of a kernel that carries nothing from block to block
fails as its first block fails, and has published nothing then. Otherwise it returns the totals of
so many blocks like the first one, and with live metrics it has published one snapshot for each of
them, which reports the totals of the blocks so far. -/
theorem totals_eq {program : KernelProgram ω} {name : String} {launch : Launch ω}
    (stateless : (program.kernel name).Stateless device.arch config launch.host)
    (valid : device.arch.isValid = true) (blocks : config.blockCount = .ok total)
    (nonempty : 0 < total) (lanes : config.blockSize = .ok size)
    (room : ∀ outcome last,
      (program.kernel name).runBlock device.arch config launch.host = .ok outcome last →
        (outcome.times total).Fits) :
    Ends ((program.kernel name).runBlock device.arch config) launch.host
      (fun outcome _ => ∃ (final : Launch ω) (snapshots : List Snapshot),
        device.launch (program.kernel name) config launch = .ok (outcome.times total) final ∧
        final.published = snapshots.reverse ++ launch.published ∧
        snapshots.length = (if device.liveMetrics then total else 0) ∧
        ∀ (k : Nat) (snapshot : Snapshot), snapshots[k]? = some snapshot →
          snapshot.Reports (outcome.times (k + 1)) total ⟨size, device.arch.width, program.mode⟩)
      fun failure last =>
        device.launch (program.kernel name) config launch =
          .error failure ⟨last, launch.published⟩ := by
  have volume := (Extent.eq_of_volume blocks).1
  unfold Device.launch
  rw [← volume]
  unfold Ends
  split
  · next outcome last ran =>
    obtain ⟨block, created⟩ := Kernel.created_of_runBlock ran
    rw [mode_kernel] at created
    have done := (ends_of_ok ran).1 (ends_runBlock valid created name launch.host)
    obtain ⟨_, again, layout⟩ := Block.layout_of_create created
    obtain rfl := Except.ok.inj (lanes.symm.trans again)
    rw [← layout]
    have maps := Block.mapsLanes_of_create (fun _ => valid) created
    have fits := room outcome last ran
    obtain ⟨report, shown⟩ :=
      Launch.exists_report done maps (by rw [layout, lanes]) blocks nonempty fits
    obtain ⟨final, returned, published⟩ := Launch.blocks_eq (fun _ => stateless.runBlock_eq ran)
      fits (fun count more => (shown count more).1) total 0 launch (Nat.zero_add total) .refl
    rw [BlockOutcome.times_zero] at returned
    refine ⟨final, if device.liveMetrics then (List.range total).map report else [], returned,
      ?_, ?_, fun k snapshot listed => ?_⟩
    · rw [published, List.range_eq_range']
      split <;> rfl
    · split <;> simp
    · split at listed
      · rw [List.getElem?_map] at listed
        obtain ⟨count, place, rfl⟩ := Option.map_eq_some_iff.1 listed
        obtain ⟨more, rfl⟩ := List.getElem?_eq_some_iff.1 place
        rw [List.length_range] at more
        rw [List.getElem_range]
        exact (shown k more).2
      · cases listed
  · next failure last failed =>
    obtain ⟨left, rfl⟩ := Nat.exists_eq_succ_of_ne_zero (Nat.ne_of_gt nonempty)
    exact Launch.blocks_of_error failed

/-- A device that publishes a snapshot after every block. -/
def watched : Device := ⟨Master.pairs, true⟩

/-- Two blocks of three groups of its lanes. -/
def twoBlocks : LaunchConfig := { grid := .line 2, block := .line 6 }

theorem totals_eq_stumbling :
    ∃ (final : Launch Unit) (snapshots : List Snapshot),
      watched.launch (stumbling.kernel "stumbling") twoBlocks ⟨(), []⟩ =
        .ok ⟨2, 4, 16, 0, 0, 4⟩ final ∧
      final.published = snapshots.reverse ∧ snapshots.length = 2 ∧
      ∀ snapshot, snapshots[1]? = some snapshot →
        snapshot.Reports ⟨2, 4, 16, 0, 0, 4⟩ 2 ⟨6, 2, .generic⟩ := by
  have known : (match (stumbling.kernel "stumbling").runBlock watched.arch twoBlocks () with
    | .ok outcome _ => outcome.times 2
    | .error _ _ => {}) = ⟨2, 4, 16, 0, 0, 4⟩ := by decide +kernel
  have totals (outcome : BlockOutcome) (last : Unit)
      (ran : (stumbling.kernel "stumbling").runBlock watched.arch twoBlocks () =
        .ok outcome last) : outcome.times 2 = ⟨2, 4, 16, 0, 0, 4⟩ := by
    rwa [ran] at known
  have agree := @totals_eq Unit watched twoBlocks 2 6 stumbling "stumbling" ⟨(), []⟩
    (Kernel.stateless_of_subsingleton _ _ _ _) (by decide) rfl (by decide) rfl
    fun outcome last ran => by
      rw [totals outcome last ran, LaunchTotals.fits_iff]
      decide
  unfold Ends at agree
  split at agree
  · next outcome last ran =>
    obtain ⟨final, snapshots, returned, published, count, reports⟩ := agree
    rw [totals outcome last ran] at returned
    refine ⟨final, snapshots, returned, ?_, count, fun snapshot listed => ?_⟩
    · rw [published, List.append_nil]
    · exact totals outcome last ran ▸ reports 1 snapshot listed
  · next failed =>
    rw [failed] at known
    cases known

end KernelProgram

end RegionDispatch
