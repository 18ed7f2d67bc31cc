import RegionDispatch.Proofs.Block.Layout

/-! # The last warp of a block

Warps are cut off from lane 0 on, so that only the last one may be short. The master lane is found
by clearing bits; where the width is a power of two this rounds the last lane of the block down to
whole groups, for blocks of any size that fits a word. The lanes from there on are one warp, which
in generic mode stands for thread 0 as a whole, while every lane below is a thread of its own.

* `BlockLayout.master_eq`, `BlockLayout.size_le_master_add` — where the last warp starts, and that
  it is all that is left.
* `BlockLayout.containing_eq_masterWarp` — its lanes.
* **`BlockLayout.LastWarp`**, **`BlockLayout.Shadows`** — what follows for the warps and the threads
  of a block, and `BlockLayout.lastWarp_of_two_pow`, that it does. -/

namespace RegionDispatch

namespace BlockLayout

variable {layout : BlockLayout} {lane other k : Nat}

theorem groupWidth_pos (power : layout.groupWidth = 2 ^ k) : 0 < layout.groupWidth :=
  power ▸ Nat.two_pow_pos k

/-! ## Where it starts -/

/-- The master lane is the last lane of the block, rounded down to whole groups. -/
theorem master_eq (power : layout.groupWidth = 2 ^ k) :
    layout.master = layout.groupWidth * ((layout.size - 1) / layout.groupWidth) := by
  rw [master, power, clearBits_two_pow_sub_one]

theorem master_lt_size (lanes : 0 < layout.size) : layout.master < layout.size := by
  have below := layout.master_le_size_sub_one
  omega

/-- From the master lane on at most one group is left. -/
theorem size_le_master_add (power : layout.groupWidth = 2 ^ k) :
    layout.size ≤ layout.master + layout.groupWidth := by
  have whole := Nat.div_add_mod (layout.size - 1) layout.groupWidth
  have part := Nat.mod_lt (layout.size - 1) (groupWidth_pos power)
  rw [← master_eq power] at whole
  omega

/-! ## Its lanes -/

/-- Its lanes are the group of lanes that starts with the master. -/
theorem containing_eq_masterWarp (power : layout.groupWidth = 2 ^ k) :
    Warp.containing lane layout.groupWidth = .ok layout.masterWarp ↔
      layout.master ≤ lane ∧ lane < layout.master + layout.groupWidth := by
  have lanes := groupWidth_pos power
  have found : Warp.containing lane layout.groupWidth =
      .ok ⟨lane / layout.groupWidth, layout.groupWidth⟩ := by
    rw [Warp.containing, checkedDiv_of_pos lanes]
    rfl
  have whole : layout.master / layout.groupWidth * layout.groupWidth = layout.master :=
    masterWarp_id_mul power
  rw [found, masterWarp, Except.ok.injEq, Warp.mk.injEq, Nat.div_eq_iff lanes, whole]
  constructor
  · rintro ⟨⟨above, below⟩, -⟩
    omega
  · rintro ⟨above, below⟩
    refine ⟨⟨above, ?_⟩, rfl⟩
    omega

/-- In the block these are all lanes from the master on. -/
theorem containing_of_master_le (power : layout.groupWidth = 2 ^ k)
    (above : layout.master ≤ lane) (inside : lane < layout.size) :
    Warp.containing lane layout.groupWidth = .ok layout.masterWarp := by
  have room := size_le_master_add power
  apply (containing_eq_masterWarp power).mpr
  omega

/-- The master is the first of them. -/
theorem firstLane_masterWarp (power : layout.groupWidth = 2 ^ k)
    (fits : layout.size < UInt32.size) : layout.masterWarp.firstLane = .ok layout.master := by
  have start := masterWarp_id_mul power
  have small : layout.masterWarp.id * layout.masterWarp.width < UInt32.size := by
    rw [start]
    exact Nat.lt_of_le_of_lt layout.master_le_size fits
  rw [Warp.firstLane, checkedMul_of_lt small, start]

/-! ## Its thread -/

theorem threadOf_eq_owner (power : layout.groupWidth = 2 ^ k) (lane : Nat) :
    layout.threadOf lane = .ok (layout.owner lane) := by
  have maps : layout.MapsLanes := fun _ => groupWidth_pos power
  exact maps.threadOf_eq lane

/-- Worker lanes do not share their threads. -/
theorem master_le_of_owner_eq (apart : lane ≠ other)
    (same : layout.owner lane = layout.owner other) :
    layout.master ≤ lane ∨ layout.master ≤ other := by
  rcases Nat.lt_or_ge lane layout.master with worker | above
  · rcases Nat.lt_or_ge other layout.master with worker' | above'
    · -- two workers would be one and the same
      rw [owner_of_lt_master worker, owner_of_lt_master worker'] at same
      exact absurd same apart
    · exact .inr above'
  · exact .inl above

/-- **The last warp of a block** is the master's. -/
structure LastWarp (layout : BlockLayout) : Prop where
  /-- The block has a master lane. -/
  masterLane_eq : layout.masterLane = .ok layout.master
  /-- It is the last lane, rounded down to whole groups. -/
  master_eq : layout.master = layout.groupWidth * ((layout.size - 1) / layout.groupWidth)
  /-- So there are whole groups below it. -/
  dvd_master : layout.groupWidth ∣ layout.master
  /-- It is a lane of the block, if the block has any. -/
  master_lt : 0 < layout.size → layout.master < layout.size
  /-- From the master lane on there is at most one group. -/
  size_sub_le : layout.size - layout.master ≤ layout.groupWidth
  /-- All lanes of the block from the master on are in one warp. -/
  containing_eq : ∀ lane, layout.master ≤ lane → lane < layout.size →
    Warp.containing lane layout.groupWidth = .ok layout.masterWarp
  /-- The master is the first lane of that warp. -/
  firstLane_eq : layout.masterWarp.firstLane = .ok layout.master

/-- **Whom the lanes stand for** where the last warp shadows thread 0. -/
structure Shadows (layout : BlockLayout) : Prop where
  /-- A region can use the lanes below the master. -/
  available_eq : layout.available = .ok layout.master
  /-- Each of these is its own thread. -/
  worker : ∀ lane < layout.master, layout.threadOf lane = .ok lane
  /-- Every lane of the last warp is thread 0. -/
  shadow : ∀ lane, Warp.containing lane layout.groupWidth = .ok layout.masterWarp →
    layout.threadOf lane = .ok 0
  /-- The thread of a lane of the block is a thread of the block. -/
  thread_lt : ∀ lane < layout.size, ∃ thread < layout.size, layout.threadOf lane = .ok thread
  /-- Of any two lanes that share their thread, one is not below the master. -/
  master_le : ∀ lane other, lane ≠ other → layout.threadOf lane = layout.threadOf other →
    layout.master ≤ lane ∨ layout.master ≤ other
  /-- Where both are lanes of the block, it is in the last warp. -/
  shared : ∀ lane < layout.size, ∀ other < layout.size, lane ≠ other →
    layout.threadOf lane = layout.threadOf other →
      Warp.containing lane layout.groupWidth = .ok layout.masterWarp ∨
        Warp.containing other layout.groupWidth = .ok layout.masterWarp

theorem shadows_of_generic (power : layout.groupWidth = 2 ^ k) (generic : layout.mode = .generic) :
    layout.Shadows where
  available_eq := by
    rw [available, generic]
    exact masterLane_eq (groupWidth_pos power)
  worker lane below := by
    rw [threadOf_eq_owner power, owner_of_lt_master below]
  shadow lane warp := by
    have above := ((containing_eq_masterWarp power).mp warp).1
    rw [threadOf_eq_owner power, owner_of_master_le generic above]
  thread_lt lane inside := ⟨layout.owner lane, owner_lt inside, threadOf_eq_owner power lane⟩
  master_le lane other apart same := by
    rw [threadOf_eq_owner power, threadOf_eq_owner power, Except.ok.injEq] at same
    exact master_le_of_owner_eq apart same
  shared lane inside other inside' apart same := by
    rw [threadOf_eq_owner power, threadOf_eq_owner power, Except.ok.injEq] at same
    rcases master_le_of_owner_eq apart same with above | above'
    · exact .inl (containing_of_master_le power above inside)
    · exact .inr (containing_of_master_le power above' inside')

/-- **One bit mask finds the last warp**, for every width that is a power of two and every block
whose size fits a word; in generic mode the whole warp shadows thread 0, and no other lanes share a
thread. -/
theorem lastWarp_of_two_pow (power : layout.groupWidth = 2 ^ k) (fits : layout.size < UInt32.size) :
    layout.LastWarp ∧ (layout.mode = .generic → layout.Shadows) := by
  refine ⟨?_, shadows_of_generic power⟩
  exact {
    masterLane_eq := masterLane_eq (groupWidth_pos power)
    master_eq := master_eq power
    dvd_master := dvd_master power
    master_lt := master_lt_size
    size_sub_le := Nat.sub_le_iff_le_add'.mpr (size_le_master_add power)
    containing_eq := fun _ => containing_of_master_le power
    firstLane_eq := firstLane_masterWarp power fits }

/-- As many lanes as a word counts, in the widest groups there are. -/
def widest : BlockLayout := ⟨4294967295, 2147483648, .generic⟩

/-- Its second warp, one lane short, is the last one. -/
theorem lastWarp_of_two_pow_widest :
    widest.groupWidth = 2 ^ 31 ∧ widest.size < UInt32.size ∧ widest.mode = .generic ∧
      widest.masterLane = .ok 2147483648 ∧ widest.masterWarp = ⟨1, 2147483648⟩ ∧
      widest.LastWarp ∧ widest.Shadows := by
  have power : widest.groupWidth = 2 ^ 31 := rfl
  have fits : widest.size < UInt32.size := by decide
  obtain ⟨last, shadows⟩ := lastWarp_of_two_pow power fits
  exact ⟨power, fits, rfl, rfl, by decide, last, shadows rfl⟩

end BlockLayout

end RegionDispatch
