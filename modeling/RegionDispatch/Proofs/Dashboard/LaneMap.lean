import Mathlib.Data.List.Count
import RegionDispatch.Dashboard.Lanes

/-! # The lane map shows every lane once

Whatever stands in a snapshot, the lane map has one cell for each of its lanes, in order, and the
cell tells what the lane did. The line below counts the cells.

* `rowsOf_eq`, `flatten_rowsOf`, `getElem?_rowsOf` — a list cut into rows.
* `laneRows`, `laneCells` — the rows of the lane map, and its cells.
* `ShowsLanes` — what the lane map shows of a snapshot.
* **`showsLanes`** — it does so for every snapshot. -/

namespace RegionDispatch.Dashboard

open Screen

/-! ## Rows -/

section

variable {α : Type} {width : Nat} {items : List α}

theorem rowsOf_eq (width : Nat) (items : List α) :
    rowsOf width items = (List.range ((items.length + width - 1) / width)).map fun row =>
      (items.drop (row * width)).take width := by
  unfold rowsOf
  simp [List.extract_eq_take_drop]

theorem length_rowsOf (width : Nat) (items : List α) :
    (rowsOf width items).length = (items.length + width - 1) / width := by
  rw [rowsOf_eq, List.length_map, List.length_range]

theorem eq_of_getElem?_rowsOf {i : Nat} {row : List α}
    (found : (rowsOf width items)[i]? = some row) : row = (items.drop (i * width)).take width := by
  rw [rowsOf_eq, List.getElem?_map] at found
  obtain ⟨_, place, rfl⟩ := Option.map_eq_some_iff.mp found
  obtain ⟨_, rfl⟩ := List.getElem?_eq_some_iff.mp place
  rw [List.getElem_range]

/-- The rows follow one another without a gap. -/
theorem flatten_rowsOf (nonzero : 0 < width) : (rowsOf width items).flatten = items := by
  have some_rows (count : Nat) :
      ((List.range count).map fun row => (items.drop (row * width)).take width).flatten =
        items.take (count * width) := by
    induction count with
    | zero => simp
    | succ count ih =>
      rw [List.range_succ, List.map_append, List.flatten_append, ih, List.map_singleton,
        List.flatten_singleton, Nat.succ_mul, List.take_add]
  have covered : items.length ≤ (items.length + width - 1) / width * width := by
    have whole := Nat.div_add_mod (items.length + width - 1) width
    have left := Nat.mod_lt (items.length + width - 1) nonzero
    rw [Nat.mul_comm] at whole
    omega
  rw [rowsOf_eq, some_rows, List.take_of_length_le covered]

/-- Where an item stands. -/
theorem getElem?_rowsOf (nonzero : 0 < width) {i : Nat} (h : i < items.length) :
    ∃ row, (rowsOf width items)[i / width]? = some row ∧ row[i % width]? = items[i]? := by
  have among : i / width < (items.length + width - 1) / width := by
    have whole := Nat.div_mul_le_self i width
    rw [← Nat.succ_le_iff, Nat.le_div_iff_mul_le nonzero, Nat.succ_mul]
    omega
  refine ⟨(items.drop (i / width * width)).take width, ?_, ?_⟩
  · rw [rowsOf_eq, List.getElem?_map, List.getElem?_range among]
    rfl
  · rw [List.getElem?_take_of_lt (Nat.mod_lt i nonzero), List.getElem?_drop, Nat.div_add_mod']

end

/-! ## The lane map -/

/-- The rows of the lane map, a label and then the cells. -/
def laneRows (s : Snapshot) : List Line := (warpRows s).mapIdx warpLine

/-- The cells of the lane map. -/
def laneCells (s : Snapshot) : Line := (laneRows s).flatMap List.tail

theorem rowWidth_pos (s : Snapshot) : 0 < rowWidth s :=
  Nat.lt_of_lt_of_le Nat.one_pos (Nat.le_max_right _ _)

theorem length_roles (s : Snapshot) : (roles s).length = s.laneActive.length :=
  List.length_mapIdx

theorem getElem?_roles (s : Snapshot) (lane : Nat) :
    (roles s)[lane]? = s.laneActive[lane]?.map (laneRole s lane) :=
  List.getElem?_mapIdx

theorem getElem?_laneRows (s : Snapshot) (warp : Nat) :
    (laneRows s)[warp]? = (warpRows s)[warp]?.map (warpLine warp) :=
  List.getElem?_mapIdx

/-- The cells are those of the lanes, in order. -/
theorem laneCells_eq (s : Snapshot) : laneCells s = (roles s).map LaneRole.span := by
  have tails : (laneRows s).map List.tail = (warpRows s).map (List.map LaneRole.span) := by
    refine List.ext_getElem? fun warp => ?_
    rw [List.getElem?_map, getElem?_laneRows, Option.map_map, List.getElem?_map]
    rfl
  rw [laneCells, List.flatMap_def, tails, ← List.map_flatten, warpRows,
    flatten_rowsOf (rowWidth_pos s)]

theorem LaneRole.span_injective : Function.Injective LaneRole.span := by
  intro role role' same
  cases role <;> cases role' <;> revert same <;> decide

theorem laneRole_eq_active {s : Snapshot} {lane : Nat} {ran : Bool} :
    laneRole s lane ran = .active ↔ ran = true := by
  unfold laneRole
  split_ifs <;> simp_all

theorem laneRole_eq_masterWarp {s : Snapshot} {lane : Nat} {ran : Bool} :
    laneRole s lane ran = .masterWarp ↔
      ran = false ∧ s.mode = "generic" ∧ s.availableLanes.toNat ≤ lane := by
  unfold laneRole
  split_ifs <;> simp_all

theorem laneRole_eq_idle {s : Snapshot} {lane : Nat} {ran : Bool} :
    laneRole s lane ran = .idle ↔
      ran = false ∧ ¬(s.mode = "generic" ∧ s.availableLanes.toNat ≤ lane) := by
  unfold laneRole
  split_ifs <;> simp_all

/-- What the lane map shows of a snapshot. -/
structure ShowsLanes (s : Snapshot) : Prop where
  /-- Below the legend stand the rows, and below these their cells are counted. -/
  lines : laneLines s = legend :: [] :: (laneRows s ++ [[], [.colored
    s!"  {(laneCells s).count LaneRole.active.span}/{(laneCells s).length} lanes in team"
    .darkGray]])
  /-- Every row starts with a label. -/
  labels {warp : Nat} {row : Line} : (laneRows s)[warp]? = some row →
    row.head? = some (.colored s!"  w{padNumber warp} " .darkGray)
  /-- There is one cell for each lane. -/
  length : (laneCells s).length = s.laneActive.length
  /-- A lane has its cell in the row of its warp. -/
  place {lane : Nat} : lane < s.laneActive.length →
    ∃ row, (laneRows s)[lane / max s.groupWidth.toNat 1]? = some row ∧
      row.tail[lane % max s.groupWidth.toNat 1]? = (laneCells s)[lane]?
  /-- The cell shows what the lane did. -/
  role {lane : Nat} {ran : Bool} : s.laneActive[lane]? = some ran →
    ∃ cell, (laneCells s)[lane]? = some cell ∧
      (cell = LaneRole.active.span ↔ ran = true) ∧
      (cell = LaneRole.masterWarp.span ↔
        ran = false ∧ s.mode = "generic" ∧ s.availableLanes.toNat ≤ lane) ∧
      (cell = LaneRole.idle.span ↔
        ran = false ∧ ¬(s.mode = "generic" ∧ s.availableLanes.toNat ≤ lane))

theorem count_active (s : Snapshot) :
    (laneCells s).count LaneRole.active.span = s.laneActive.count true := by
  have ran : (roles s).map (· == .active) = s.laneActive := by
    refine List.ext_getElem? fun lane => ?_
    have same (flag : Bool) : (laneRole s lane flag == .active) = flag := by
      rw [Bool.eq_iff_iff, beq_iff_eq, laneRole_eq_active]
    rw [List.getElem?_map, getElem?_roles, Option.map_map]
    simp [Function.comp_def, same]
  calc
    (laneCells s).count LaneRole.active.span = (roles s).count .active := by
      rw [laneCells_eq, List.count_map_of_injective _ _ LaneRole.span_injective]
    _ = ((roles s).map (· == .active)).count true := by
      simp [List.count, List.countP_map, Function.comp_def]
    _ = s.laneActive.count true := by rw [ran]

/-- **The lane map shows every lane once**, with what it did. -/
theorem showsLanes (s : Snapshot) : ShowsLanes s where
  lines := by
    rw [count_active, laneCells_eq, List.length_map, length_roles]
    rfl
  labels {warp row} found := by
    rw [getElem?_laneRows] at found
    obtain ⟨cells, -, rfl⟩ := Option.map_eq_some_iff.mp found
    rfl
  length := by rw [laneCells_eq, List.length_map, length_roles]
  place {lane} inside := by
    rw [← length_roles] at inside
    obtain ⟨row, found, cell⟩ := getElem?_rowsOf (rowWidth_pos s) inside
    refine ⟨warpLine (lane / rowWidth s) row, ?_, ?_⟩
    · rw [getElem?_laneRows, warpRows]
      exact congrArg (Option.map _) found
    · rw [laneCells_eq, List.getElem?_map, ← cell, ← List.getElem?_map]
      rfl
  role {lane ran} known := by
    refine ⟨(laneRole s lane ran).span, ?_, ?_⟩
    · rw [laneCells_eq, List.getElem?_map, getElem?_roles, known]
      rfl
    · rw [LaneRole.span_injective.eq_iff, LaneRole.span_injective.eq_iff,
        LaneRole.span_injective.eq_iff]
      exact ⟨laneRole_eq_active, laneRole_eq_masterWarp, laneRole_eq_idle⟩

end RegionDispatch.Dashboard
