import RegionDispatch.Proofs.Kernel.Totals

/-! # What a launch publishes

A launch adds a snapshot for each of its blocks that comes to its end, also when a later block does
not. What holds of the snapshot of every such block holds of all that the launch adds.

* `Launch.Adds` — what was published before is kept, and the rest has a property.
* `Launch.ends_blocks_adds` — the blocks of a launch add the snapshots of blocks.
* `Snapshot.Describes` — what the snapshot of a generic block says of the lanes.
* `KernelProgram.ends_launch_describes` — a launch of a generic kernel adds nothing else. -/

namespace RegionDispatch

open Dispatch

namespace Launch

variable {ω : Type} {P : Snapshot → Prop}

/-- What was published before is kept, and every snapshot added to it has the property. -/
def Adds (P : Snapshot → Prop) (launch final : Launch ω) : Prop :=
  ∃ fresh, final.published = fresh ++ launch.published ∧ ∀ shown ∈ fresh, P shown

theorem adds_of_published_eq {launch final : Launch ω} (same : final.published = launch.published) :
    Adds P launch final :=
  ⟨[], same, fun _ none => absurd none List.not_mem_nil⟩

theorem Adds.mono {Q : Snapshot → Prop} {launch final : Launch ω} (h : Adds P launch final)
    (weaker : ∀ shown, P shown → Q shown) : Adds Q launch final := by
  obtain ⟨fresh, published, all⟩ := h
  exact ⟨fresh, published, fun shown mem => weaker shown (all shown mem)⟩

theorem Adds.trans {launch next final : Launch ω} (h : Adds P launch next)
    (h' : Adds P next final) : Adds P launch final := by
  obtain ⟨fresh, published, all⟩ := h
  obtain ⟨fresh', published', all'⟩ := h'
  refine ⟨fresh' ++ fresh, ?_, List.forall_mem_append.mpr ⟨all', all⟩⟩
  rw [published', published, List.append_assoc]

variable {device : Device} {kernel : Kernel ω} {config : LaunchConfig}

theorem ends_publish_adds {totals : LaunchTotals} {outcome : BlockOutcome}
    (each : ∀ shown, snapshot device kernel config totals outcome = .ok shown → P shown)
    (launch : Launch ω) :
    Ends (publish device kernel config totals outcome) launch (fun _ final => Adds P launch final)
      fun _ final => Adds P launch final := by
  unfold publish
  split
  · simp only [ends_bind, ends_checked, ends_modify]
    refine ⟨fun shown known => ⟨[shown], rfl, ?_⟩, fun _ _ => adds_of_published_eq rfl⟩
    exact List.forall_mem_singleton.mpr (each shown known)
  · exact adds_of_published_eq rfl

/-- **The blocks of a launch** add the snapshots of blocks that have come to their end. -/
theorem ends_blocks_adds
    (each : ∀ host outcome next totals shown,
      kernel.runBlock device.arch config host = .ok outcome next →
      snapshot device kernel config totals outcome = .ok shown → P shown) (count : Nat) :
    ∀ (totals : LaunchTotals) (launch : Launch ω),
      Ends (blocks device kernel config count totals) launch
        (fun _ final => Adds P launch final) fun _ final => Adds P launch final := by
  -- by induction on the blocks left; only publishing touches what is published
  induction count with
  | zero => exact fun _ _ => adds_of_published_eq rfl
  | succ left ih =>
    intro totals launch
    simp only [blocks, ends_bind, onHost, ends_zoom, ends_checked]
    refine (ends_run (kernel.runBlock device.arch config) launch.host).mono ?_ ?_
    · intro outcome next ran
      refine ⟨fun added _ => ?_, fun _ _ => adds_of_published_eq rfl⟩
      refine (ends_publish_adds (each launch.host outcome next added · ran) _).mono ?_ ?_
      · intro _ published adds
        exact (ih added published).mono (fun _ _ more => Adds.trans adds more)
          fun _ _ more => Adds.trans adds more
      · exact fun _ _ adds => adds
    · exact fun _ _ _ => adds_of_published_eq rfl

end Launch

/-- What the snapshot of a generic block with this layout says of the lanes: the last region ran on
the first of them, and the warp of the master took no part. -/
structure Snapshot.Describes (shown : Snapshot) (layout : BlockLayout) : Prop where
  mode : shown.mode = "generic"
  width : shown.groupWidth.toNat = layout.groupWidth
  available : shown.availableLanes.toNat = layout.master
  team : shown.lastTeamSize.toNat ≤ layout.master
  laneActive : shown.laneActive =
    (List.range layout.size).map fun lane => decide (lane < shown.lastTeamSize.toNat)

namespace KernelProgram

variable {ω : Type} {program : KernelProgram ω} {device : Device} {config : LaunchConfig}
  {size : Nat}

theorem Completes.describes {block : Block} {fullRuntime : Bool} {host last : ω}
    {outcome : BlockOutcome} (done : program.Completes block fullRuntime host last outcome)
    (generic : program.mode = .generic) (valid : device.arch.isValid = true)
    (lanes : config.blockSize = .ok block.layout.size)
    (layout : block.layout = ⟨size, device.arch.width, .generic⟩) {name : String}
    {totals : LaunchTotals} {shown : Snapshot}
    (known : Launch.snapshot device (program.kernel name) config totals outcome = .ok shown) :
    shown.Describes block.layout := by
  have width : 0 < block.layout.groupWidth := by
    rw [layout]
    exact Arch.width_pos_of_isValid valid
  have small : block.layout.size < UInt32.size := (Extent.eq_of_volume lanes).2
  have usable : block.layout.master < UInt32.size :=
    Nat.lt_of_le_of_lt block.layout.master_le_size small
  have mode : block.layout.mode = .generic := by rw [layout]
  have available : block.layout.available = .ok block.layout.master := by
    rw [BlockLayout.available, mode]
    exact BlockLayout.masterLane_eq width
  have team : (outcome.regions.head?.elim 0 (·.size)) ≤ block.layout.master := by
    cases regions : outcome.regions with
    | nil => exact Nat.zero_le _
    | cons record others =>
      exact (done.regions record (regions ▸ List.mem_cons_self)).2
  have first (record : RegionRecord) (listed : record ∈ outcome.regions) :
      record.lanes = List.range record.size ∧ record.size ≤ block.layout.size :=
    (done.regions record listed).imp_right (Nat.le_trans · block.layout.master_le_size)
  simp only [Launch.snapshot, lanes, done.layout, available, bind, Except.bind] at known
  cases blocks : config.blockCount with
  | error fault =>
    rw [blocks] at known
    cases known
  | ok total =>
    rw [blocks] at known
    obtain rfl := Except.ok.inj known
    exact
      { mode := by
          rw [mode_kernel, generic]
          rfl
        width := by rw [layout]; rfl
        available := UInt32.toNat_ofNat_of_lt' usable
        team := by
          rw [Nat.toUInt32_eq, UInt32.toNat_ofNat_of_lt' (Nat.lt_of_le_of_lt team usable)]
          exact team
        laneActive := Launch.laneFlags_head? small first }

/-- **What a launch of a generic kernel publishes**, however it ends. -/
theorem ends_launch_describes (generic : program.mode = .generic)
    (valid : device.arch.isValid = true) (lanes : config.blockSize = .ok size) (name : String)
    (launch : Launch ω) :
    Ends (device.launch (program.kernel name) config) launch
      (fun _ final => launch.Adds (·.Describes ⟨size, device.arch.width, .generic⟩) final)
      fun _ final => launch.Adds (·.Describes ⟨size, device.arch.width, .generic⟩) final := by
  refine Launch.ends_blocks_adds (fun host outcome next totals shown ran known => ?_) _ _ launch
  obtain ⟨block, created⟩ := Kernel.created_of_runBlock ran
  rw [mode_kernel] at created
  have done := (ends_of_ok ran).1 (ends_runBlock valid created name host)
  obtain ⟨_, again, layout⟩ := Block.layout_of_create created
  obtain rfl := Except.ok.inj (lanes.symm.trans again)
  rw [generic] at layout
  exact layout ▸ done.describes generic valid (by rw [layout, lanes]) layout known

end KernelProgram

end RegionDispatch
