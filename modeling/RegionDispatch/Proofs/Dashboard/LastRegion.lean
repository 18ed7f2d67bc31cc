import RegionDispatch.Proofs.Dashboard.LaneMap
import RegionDispatch.Proofs.Kernel.Published

/-! # The lane map of a launch

The snapshots that a generic kernel publishes are shown as they are meant: the team of the last
region comes first, the idle workers stand behind it, and the last row ends with the warp of the
master.

* `roles_of_describes` — what the lanes of such a snapshot did.
* `ShowsTeam` — how many cells of each kind there are, and where.
* **`shows_lanes`** — the lane map of every snapshot, and of those that a launch publishes. -/

namespace RegionDispatch.Dashboard

open Dispatch Screen

/-- What the lane map shows of a block of so many lanes. -/
structure ShowsTeam (size : Nat) (s : Snapshot) : Prop where
  lanes : (laneCells s).length = size
  /-- The lanes of the team. -/
  active : (laneCells s).count LaneRole.active.span = s.lastTeamSize.toNat
  /-- The lanes that no region can use. -/
  masterWarp : (laneCells s).count LaneRole.masterWarp.span = size - s.availableLanes.toNat
  available : s.availableLanes.toNat ≤ size
  /-- Only the last row has such lanes. -/
  lastRow : ∀ row ∈ (laneRows s).dropLast, LaneRole.masterWarp.span ∉ row
  /-- The other lanes. -/
  idle : (laneCells s).count LaneRole.idle.span + s.lastTeamSize.toNat = s.availableLanes.toNat

variable {s : Snapshot} {layout : BlockLayout}

/-- The team, the idle workers, and the warp of the master. -/
theorem roles_of_describes (h : s.Describes layout) :
    roles s = List.replicate s.lastTeamSize.toNat .active ++
      (List.replicate (layout.master - s.lastTeamSize.toNat) .idle ++
        List.replicate (layout.size - layout.master) .masterWarp) := by
  have team := h.team
  have inside := layout.master_le_size
  refine List.ext_getElem? fun lane => ?_
  simp only [getElem?_roles, h.laneActive, List.getElem?_map, List.getElem?_append,
    List.length_replicate, List.getElem?_replicate]
  rcases Nat.lt_or_ge lane layout.size with among | outside
  · rw [List.getElem?_range among, Option.map_some, Option.map_some]
    rcases Nat.lt_or_ge lane s.lastTeamSize.toNat with first | later
    · rw [if_pos first, if_pos first, laneRole_eq_active.mpr (decide_eq_true first)]
    · have off := decide_eq_false (Nat.not_lt.mpr later)
      rw [if_neg (Nat.not_lt.mpr later), off]
      rcases Nat.lt_or_ge lane layout.master with worker | warp
      · have idle : laneRole s lane false = .idle :=
          laneRole_eq_idle.mpr ⟨rfl, fun late => Nat.not_le.mpr worker (h.available ▸ late.2)⟩
        have place : lane - s.lastTeamSize.toNat < layout.master - s.lastTeamSize.toNat := by omega
        rw [if_pos place, if_pos place, idle]
      · have masterWarp : laneRole s lane false = .masterWarp :=
          laneRole_eq_masterWarp.mpr ⟨rfl, h.mode, h.available ▸ warp⟩
        rw [if_neg (by omega), if_pos (by omega), masterWarp]
  · rw [List.getElem?_eq_none (by rwa [List.length_range]), if_neg (by omega), if_neg (by omega),
      if_neg (by omega)]
    rfl

/-- A row with lanes of the warp of the master reaches beyond the first of them. -/
theorem available_lt_of_mem {warp : Nat} {row : Line} (found : (laneRows s)[warp]? = some row)
    (mem : LaneRole.masterWarp.span ∈ row) :
    s.availableLanes.toNat < (warp + 1) * rowWidth s := by
  rw [getElem?_laneRows] at found
  obtain ⟨cells, cut, rfl⟩ := Option.map_eq_some_iff.mp found
  obtain label | cell := List.mem_cons.mp mem
  · -- the label has another colour
    simp [LaneRole.span, Span.colored] at label
  · rw [List.mem_map_of_injective LaneRole.span_injective, eq_of_getElem?_rowsOf cut] at cell
    obtain ⟨place, inside, cell⟩ := List.mem_iff_getElem.mp cell
    rw [List.length_take] at inside
    rw [List.getElem_take, List.getElem_drop] at cell
    have role := List.getElem?_eq_some_iff.mpr ⟨_, cell⟩
    rw [getElem?_roles] at role
    obtain ⟨ran, -, role⟩ := Option.map_eq_some_iff.mp role
    have late := (laneRole_eq_masterWarp.mp role).2.2
    rw [Nat.succ_mul]
    omega

/-- Only the last row has lanes of the warp of the master. -/
theorem masterWarp_notMem_of_describes (h : s.Describes layout) {k : Nat}
    (power : layout.groupWidth = 2 ^ k) :
    ∀ row ∈ (laneRows s).dropLast, LaneRole.masterWarp.span ∉ row := by
  intro row mem cell
  obtain ⟨warp, found⟩ := List.mem_iff_getElem?.mp mem
  obtain ⟨early, found⟩ : warp < (laneRows s).length - 1 ∧ (laneRows s)[warp]? = some row := by
    simpa [List.getElem?_dropLast] using found
  have reach := available_lt_of_mem found cell
  have width : rowWidth s = 2 ^ k := by
    rw [rowWidth, h.width, power]
    exact Nat.max_eq_left Nat.one_le_two_pow
  have lanes : (roles s).length = layout.size := by
    rw [length_roles, h.laneActive, List.length_map, List.length_range]
  have rows : (laneRows s).length ≤ (layout.size - 1) / 2 ^ k + 1 := by
    rw [laneRows, List.length_mapIdx, warpRows, length_rowsOf, lanes, width,
      ← Nat.add_div_right _ (Nat.two_pow_pos k)]
    exact Nat.div_le_div_right (by omega)
  -- the master is the first lane of the last row, and the rows before it end there
  have master : (warp + 1) * 2 ^ k ≤ layout.master := by
    rw [BlockLayout.master, power, clearBits_two_pow_sub_one, Nat.mul_comm]
    exact Nat.mul_le_mul_left _ (by omega)
  rw [h.available, width] at reach
  omega

theorem showsTeam_of_describes (h : s.Describes layout) {k : Nat}
    (power : layout.groupWidth = 2 ^ k) : ShowsTeam layout.size s := by
  have team := h.team
  have inside := layout.master_le_size
  have cells : laneCells s = List.replicate s.lastTeamSize.toNat LaneRole.active.span ++
      (List.replicate (layout.master - s.lastTeamSize.toNat) LaneRole.idle.span ++
        List.replicate (layout.size - layout.master) LaneRole.masterWarp.span) := by
    rw [laneCells_eq, roles_of_describes h]
    simp only [List.map_append, List.map_replicate]
  have apart {role role' : LaneRole} (other : role ≠ role') : (role.span == role'.span) = false :=
    beq_false_of_ne (LaneRole.span_injective.ne other)
  rw [← h.available] at inside team cells
  constructor
  · rw [cells]
    simp only [List.length_append, List.length_replicate]
    omega
  · simp [cells, List.count_append, List.count_replicate, apart]
  · simp [cells, List.count_append, List.count_replicate, apart]
  · exact inside
  · exact masterWarp_notMem_of_describes h power
  · have idle : (laneCells s).count LaneRole.idle.span =
        s.availableLanes.toNat - s.lastTeamSize.toNat := by
      simp [cells, List.count_append, List.count_replicate, apart]
    omega

/-- **The lane map shows every lane once**, for every snapshot. Of a snapshot that a launch of a
generic kernel publishes, however the launch ends, it shows the team of the last region, the warp of
the master in the last row, and the other lanes as idle. -/
theorem shows_lanes :
    (∀ s : Snapshot, ShowsLanes s) ∧
      ∀ {ω : Type} (program : KernelProgram ω) (name : String) (device : Device)
        (config : LaunchConfig) (size : Nat) (launch : Launch ω), program.mode = .generic →
        device.arch.isValid = true → config.blockSize = .ok size →
        Ends (device.launch (program.kernel name) config) launch
          (fun _ final => launch.Adds (ShowsTeam size) final)
          fun _ final => launch.Adds (ShowsTeam size) final := by
  refine ⟨showsLanes, fun program name device config size launch generic valid lanes => ?_⟩
  obtain ⟨k, power⟩ := Arch.exists_two_pow valid
  have shown {final : Launch _}
      (adds : Launch.Adds (·.Describes ⟨size, device.arch.width, .generic⟩) launch final) :
      launch.Adds (ShowsTeam size) final :=
    adds.mono fun _ describes => showsTeam_of_describes describes power
  exact (KernelProgram.ends_launch_describes generic valid lanes name launch).mono
    (fun _ _ => shown) fun _ _ => shown

/-- One region, for which three lanes are requested. -/
def threeRequested : KernelProgram Unit :=
  .generic <| .act (.pushThreads 3) fun _ =>
    .act (.parallel _ fun lane => .call (.setThreads lane 1)) fun _ => .finish

/-- Groups of two take part as a whole: the region runs on two lanes, two are idle, and two belong
to the warp of the master. -/
theorem shows_lanes_threeRequested :
    ∃ totals final, KernelProgram.watched.launch (threeRequested.kernel "three")
        KernelProgram.twoBlocks ⟨(), []⟩ = .ok totals final ∧
      final.published.map (·.lastTeamSize) = [2, 2] ∧ ∀ s ∈ final.published, ShowsTeam 6 s := by
  have sizes : (match KernelProgram.watched.launch (threeRequested.kernel "three")
        KernelProgram.twoBlocks ⟨(), []⟩ with
      | .ok _ final => final.published.map (·.lastTeamSize)
      | .error _ _ => []) = [2, 2] := by decide +kernel
  have ends := shows_lanes.2 threeRequested "three" KernelProgram.watched KernelProgram.twoBlocks 6
    ⟨(), []⟩ rfl (by decide) rfl
  unfold Ends at ends
  split at ends
  · next totals final ran =>
    rw [ran] at sizes
    obtain ⟨fresh, published, all⟩ := ends
    rw [List.append_nil] at published
    exact ⟨totals, final, ran, sizes, published ▸ all⟩
  · next failed =>
    rw [failed] at sizes
    cases sizes

end RegionDispatch.Dashboard
