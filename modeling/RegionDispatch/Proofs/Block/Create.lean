import RegionDispatch.Block.Basic
import RegionDispatch.Proofs.Block.Layout
import RegionDispatch.Proofs.Block.State

/-! # New blocks

The frames and threads a block starts with. In either mode the arena holds the shared outermost
frame and behind it one frame for each thread, and nothing else; the modes differ in what those
frames hold and in where the threads stand. -/

namespace RegionDispatch

/-- The volume of an extent is the product of its dimensions, and fits a word. -/
theorem Extent.eq_of_volume {e : Extent} {n : Nat} (h : e.volume = .ok n) :
    n = e.z.toNat * (e.y.toNat * e.x.toNat) ∧ n < UInt32.size := by
  unfold volume at h
  cases harea : checkedMul UInt32.size e.x.toNat e.y.toNat with
  | error fault => rw [harea] at h; cases h
  | ok area =>
    rw [harea] at h
    obtain ⟨-, rfl⟩ := checkedMul_eq_ok.1 harea
    obtain ⟨fits, rfl⟩ := checkedMul_eq_ok.1 h
    exact ⟨by rw [Nat.mul_comm e.y.toNat, Nat.mul_comm], fits⟩

namespace BlockState

@[simp] theorem homeId_ne_baseId (tid : Nat) : homeId tid ≠ baseId := by
  simp [homeId, baseId]

@[simp] theorem homeId_inj {tid other : Nat} : homeId tid = homeId other ↔ tid = other := by
  simp [homeId]

variable {count tid : Nat} {initial : Frame}

/-! ## Arenas without empty slots -/

/-- An arena that was never released to is sound if no slot is empty. -/
theorem sound_of_full {slots : Array (Option Frame)} (full : ∀ i : Nat, slots[i]? ≠ some none) :
    FrameArena.Sound { slots } where
  nodup := List.nodup_nil
  mem_free i := by simpa using full i

/-- The slots of a new block: the outermost frame, and behind it those of the threads. -/
theorem getElem?_behind (first : Option Frame) (others : Array (Option Frame)) (i : Nat) :
    (#[first] ++ others)[i]? = match i with
      | 0 => some first
      | i + 1 => others[i]? := by
  cases i with
  | zero => rw [Array.getElem?_append_left (Nat.one_pos), List.getElem?_toArray]; rfl
  | succ i => rw [Array.getElem?_append_right (Nat.le_add_left 1 i)]; rfl

/-! ## Generic blocks -/

@[simp] theorem size_withStacks : (withStacks count initial).threads.size = count := by
  simp [withStacks]

theorem thread_withStacks (h : tid < count) :
    (withStacks count initial).thread tid = { top := some baseId, home := some (homeId tid) } := by
  simp [thread, withStacks, h]

/-- The frames set aside for the threads are blank. -/
theorem get?_withStacks (id : FrameId) :
    (withStacks count initial).arena.get? id =
      if id = baseId then some initial else if id.index ≤ count then some {} else none := by
  obtain ⟨i⟩ := id
  refine (congrArg Option.join (getElem?_behind _ _ i)).trans ?_
  cases i with
  | zero => rfl
  | succ i =>
    rw [if_neg (show ⟨i + 1⟩ ≠ baseId from homeId_ne_baseId i)]
    show (Array.replicate count (some ({} : Frame)))[i]?.join = if i < count then some {} else none
    rw [Array.getElem?_replicate]
    split <;> rfl

theorem sound_withStacks : (withStacks count initial).arena.Sound := by
  refine sound_of_full fun i => ?_
  rw [getElem?_behind]
  cases i with
  | zero => simp
  | succ i => simp [Array.getElem?_replicate]

/-! ## SPMD blocks -/

@[simp] theorem size_spmd : (spmd count initial).threads.size = count := by
  simp [spmd]

theorem thread_spmd (h : tid < count) :
    (spmd count initial).thread tid = { top := some (homeId tid), home := some (homeId tid) } := by
  simp [thread, spmd, h]

/-- The frame set aside for a thread is that of the member of its number. -/
theorem get?_spmd (id : FrameId) :
    (spmd count initial).arena.get? id =
      if id = baseId then some initial
      else if id.index ≤ count then some (initial.spmdMember baseId (id.index - 1) count)
      else none := by
  obtain ⟨i⟩ := id
  refine (congrArg Option.join (getElem?_behind _ _ i)).trans ?_
  cases i with
  | zero => rfl
  | succ i =>
    rw [if_neg (show ⟨i + 1⟩ ≠ baseId from homeId_ne_baseId i)]
    show ((Array.range count).map fun tid => some (initial.spmdMember baseId tid count))[i]?.join =
      if i < count then some (initial.spmdMember baseId i count) else none
    rw [Array.getElem?_map, Array.getElem?_range]
    split <;> rfl

theorem sound_spmd : (spmd count initial).arena.Sound := by
  refine sound_of_full fun i => ?_
  rw [getElem?_behind]
  cases i with
  | zero => simp
  | succ i => simp

end BlockState

namespace Block

variable {arch : Arch} {mode : ExecMode} {config : LaunchConfig} {block : Block}

/-- The frames and threads a block with the full runtime starts with. -/
def initialState (mode : ExecMode) (size : Nat) (config : LaunchConfig) : BlockState :=
  match mode with
  | .generic => .withStacks size (.initial config.threadLimit.toNat)
  | .spmd => .spmd size (.initial config.threadLimit.toNat)

/-- The layout of a new block. -/
theorem layout_of_create (created : create arch mode config = .ok block) :
    ∃ size, config.blockSize = .ok size ∧ block.layout = ⟨size, arch.width, mode⟩ := by
  unfold create at created
  cases hsize : config.blockSize with
  | error fault => rw [hsize] at created; cases created
  | ok size =>
    simp only [hsize, bind, Except.bind, pure, Except.pure, Except.ok.injEq] at created
    subst created
    exact ⟨size, rfl, rfl⟩

/-- What a new block with the full runtime is. -/
theorem eq_of_create (created : create arch mode config = .ok block)
    (initialized : block.initialized = true) :
    ∃ size, config.blockSize = .ok size ∧
      block = { arch, layout := ⟨size, arch.width, mode⟩, initialized := true,
                state := initialState mode size config } := by
  unfold create at created
  cases hsize : config.blockSize with
  | error fault => rw [hsize] at created; cases created
  | ok size =>
    simp only [hsize, bind, Except.bind, pure, Except.pure, Except.ok.injEq] at created
    subst created
    have full : (config.fullRuntime || mode == ExecMode.generic) = true := initialized
    refine ⟨size, rfl, ?_⟩
    cases mode <;> simp only [full, if_true, initialState]

/-- The lanes of a block are counted by a 32-bit word. -/
theorem blockSize_lt {size : Nat} (h : config.blockSize = .ok size) : size < UInt32.size :=
  (Extent.eq_of_volume h).2

/-- A new block stores the outermost frame and one frame for each thread. -/
theorem liveFrames_of_create (created : create arch mode config = .ok block)
    (initialized : block.initialized = true) : block.liveFrames = block.layout.size + 1 := by
  obtain ⟨size, -, rfl⟩ := eq_of_create created initialized
  cases mode with
  | generic =>
    show (BlockState.withStacks size _).arena.live = size + 1
    simp [BlockState.withStacks, FrameArena.live, Nat.add_comm]
  | spmd =>
    show (BlockState.spmd size _).arena.live = size + 1
    simp [BlockState.spmd, FrameArena.live, Nat.add_comm]

/-- A generic block has the full runtime whatever the configuration asks for. -/
theorem initialized_of_create_generic (created : create arch .generic config = .ok block) :
    block.initialized = true := by
  unfold create at created
  cases hsize : config.blockSize with
  | error fault => rw [hsize] at created; cases created
  | ok size =>
    simp only [hsize, bind, Except.bind, pure, Except.pure, Except.ok.injEq] at created
    subst created
    exact Bool.or_true _

/-- The layout of a new block maps its lanes; in generic mode that takes a valid device. -/
theorem mapsLanes_of_create (valid : mode = .generic → arch.isValid = true)
    (created : create arch mode config = .ok block) : block.layout.MapsLanes := by
  unfold create at created
  cases hsize : config.blockSize with
  | error fault => rw [hsize] at created; cases created
  | ok size =>
    simp only [hsize, bind, Except.bind, pure, Except.pure, Except.ok.injEq] at created
    subst created
    exact fun generic => Arch.width_pos_of_isValid (valid generic)

/-- A new generic block of two warps: 32 workers and the master warp. -/
def twoWarps : Block where
  arch := .volta
  layout := ⟨64, 32, .generic⟩
  initialized := true
  state := .withStacks 64 (.initial 0)

theorem create_twoWarps :
    create .volta .generic { grid := .line 1, block := .line 64 } = .ok twoWarps := rfl

/-- A block of two SPMD lanes. -/
def twoLanes : Block where
  arch := .volta
  layout := ⟨2, 32, .spmd⟩
  initialized := true
  state := .spmd 2 (.initial 0)

end Block

end RegionDispatch
