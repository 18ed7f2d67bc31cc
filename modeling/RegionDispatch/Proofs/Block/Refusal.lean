import RegionDispatch.Proofs.Block.Create
import RegionDispatch.Proofs.Block.Effects
import RegionDispatch.Proofs.TeamSize

/-! # What a refused region leaves behind

The master's request for a region is refused for one of six reasons, and five of them are found
before anything is written. The sixth is a launch that provides no worker: by then the clause of the
master's thread is spent, as it is on every request that comes as far as the sizing, so that it
cannot size a later region.

* **`Block.Declines`** — the reasons.
* **`Block.ends_prepareRegion_declines`** — a refused request leaves the block as it was, but for
  the spent clause where no team can be formed. -/

namespace RegionDispatch

open Dispatch

namespace Block

variable {block : Block} {lane : Nat} {work : WorkHandle} {fullRuntime : Bool}

/-- **Why a region is not prepared.** -/
inductive Declines (block : Block) (lane : Nat) (fullRuntime : Bool) : DispatchError → Prop where
  /-- The caller does not promise the full runtime, or the block lacks it. -/
  | bare (lacks : fullRuntime = false ∨ block.initialized = false) :
      Declines block lane fullRuntime .runtimeUninitialized
  /-- An SPMD block has no master, and in a generic one it is another lane. -/
  | stranger (other : block.layout.mode ≠ .generic ∨
        ∃ master, block.layout.masterLane = .ok master ∧ lane ≠ master) :
      Declines block lane fullRuntime (.notMaster lane)
  /-- Thread 0 stands on nothing. -/
  | fallen (none : (block.state.thread 0).top = none) :
      Declines block lane fullRuntime (.stackUnderflow 0)
  /-- Thread 0 stands on a frame that is gone. -/
  | dangling {top : FrameId} (stands : (block.state.thread 0).top = some top)
      (gone : block.state.arena.get? top = none) :
      Declines block lane fullRuntime (.stackUnderflow anyThread)
  /-- Thread 0 is inside a region. -/
  | nested {top : FrameId} {frame : Frame} (stands : (block.state.thread 0).top = some top)
      (stored : block.state.arena.get? top = some frame) (inside : frame.depth.inParallel = true) :
      Declines block lane fullRuntime .alreadyInParallel
  /-- The request is in order, but the launch provides no worker. -/
  | deserted {top : FrameId} {frame : Frame} (posts : block.Posts top frame)
      (none : block.layout.available = .ok 0) :
      Declines block lane fullRuntime (.invalidTeamSize 0)

/-- What is left of a block on which a region was refused with `error`. -/
def declined (block : Block) (error : DispatchError) : Block :=
  if error = .invalidTeamSize 0 then { block with state := (block.state.takePendingThreads 0).2 }
  else block

/-- **A refused request** was refused for one of the reasons, and leaves the block as it was, except
that without a worker to form a team of the clause of thread 0 is spent. -/
theorem ends_prepareRegion_declines (block : Block) (lane : Nat) (work : WorkHandle)
    (fullRuntime : Bool) :
    Ends (prepareRegion lane work fullRuntime) block (fun _ _ => True) fun failure after =>
      ∀ error, failure = .rejected error →
        block.Declines lane fullRuntime error ∧ after = block.declined error := by
  have rejects {error : DispatchError} {after : Block}
      (declines : block.Declines lane fullRuntime error) (left : after = block.declined error) :
      ∀ error', Failure.rejected error = .rejected error' →
        block.Declines lane fullRuntime error' ∧ after = block.declined error' := by
    rintro _ ⟨rfl⟩
    exact ⟨declines, left⟩
  have halts {fault : Fault} {after : Block} :
      ∀ error, Failure.halted fault = .rejected error →
        block.Declines lane fullRuntime error ∧ after = block.declined error := nofun
  simp only [prepareRegion, requireInitialized, requireMaster, ends_bind, ends_get, ends_refuseIf,
    ends_checked, ends_granted, onState, ends_modify, ends_pure, not_not]
  refine ⟨fun lacks => rejects (.bare (by simpa using lacks)) rfl, fun _ =>
    ⟨fun spmd => rejects (.stranger (.inl spmd)) rfl, fun generic => ⟨fun master found =>
      ⟨fun other => rejects (.stranger (.inr ⟨master, found, other⟩)) rfl, fun _ =>
        ⟨fun top htop => ?_, fun error unsound => ?_⟩⟩, fun _ _ => halts⟩⟩⟩
  · have stands := BlockState.top_eq_ok.1 htop
    refine ⟨fun frame hframe => ?_, fun error unsound => ?_⟩
    · have stored := BlockState.frame_eq_ok.1 hframe
      refine ⟨fun inside => rejects (.nested stands stored inside) rfl, fun outside =>
        ⟨fun available lanes => ⟨fun decision sized => ⟨fun empty => ?_, fun _ => ?_⟩,
          fun _ _ => halts⟩, fun _ _ => halts⟩⟩
      · -- a team is empty only where there is no lane for it
        have none : available = 0 := Nat.eq_zero_of_not_pos fun some =>
          absurd (Arch.sizeTeam_pos sized some) (empty ▸ Nat.lt_irrefl 0)
        rw [empty]
        have posts : block.Posts top frame :=
          ⟨generic, ⟨master, found⟩, stands, stored, Bool.eq_false_of_not_eq_true outside⟩
        exact rejects (.deserted posts (none ▸ lanes)) rfl
      · simp only [tally, ends_bind, ends_get, ends_checked, ends_modify]
        exact ⟨fun _ _ => trivial, fun _ _ => halts⟩
    · cases gone : block.state.arena.get? top with
      | none =>
        rw [BlockState.frame, gone, Except.error.injEq] at unsound
        exact unsound ▸ rejects (.dangling stands gone) rfl
      | some frame =>
        rw [BlockState.frame_eq_ok.2 gone] at unsound
        cases unsound
  · cases none : (block.state.thread 0).top with
    | none =>
      rw [BlockState.top, none, Except.error.injEq] at unsound
      exact unsound ▸ rejects (.fallen none) rfl
    | some top =>
      rw [BlockState.top_eq_ok.2 none] at unsound
      cases unsound

/-- A new generic block of one warp, which is the master's. -/
def oneWarp : Block where
  arch := .volta
  layout := ⟨32, 32, .generic⟩
  initialized := true
  state := .withStacks 32 (.initial 0)

/-- **A clause that is spent.** The master of a block without workers asks for five threads and is
refused, and the clause is gone. -/
theorem not_declined_unchanged :
    ¬∀ (arch : Arch) (mode : ExecMode) (config : LaunchConfig) (block after : Block)
        (operations : List Operation) (lane : Nat) (work : WorkHandle) (fullRuntime : Bool)
        (error : DispatchError),
      create arch mode config = .ok block →
      prepareRegion lane work fullRuntime (run operations block).2 =
        .error (.rejected error) after →
      ∀ tid, (after.state.thread tid).pendingThreads =
        ((run operations block).2.state.thread tid).pendingThreads := by
  intro unchanged
  have created : create .volta .generic { grid := .line 1, block := .line 32 } = .ok oneWarp := rfl
  have asked : ((run [.pushThreads 0 5] oneWarp).2.state.thread 0).pendingThreads = 5 := by
    decide +kernel
  have refused : prepareRegion 0 ⟨1, Nat.one_pos⟩ true (run [.pushThreads 0 5] oneWarp).2 =
      .error (.rejected (.invalidTeamSize 0))
        ((run [.pushThreads 0 5] oneWarp).2.declined (.invalidTeamSize 0)) := by
    with_unfolding_all rfl
  have spent : (((run [.pushThreads 0 5] oneWarp).2.declined
      (.invalidTeamSize 0)).state.thread 0).pendingThreads = 0 := by
    decide +kernel
  have same := unchanged _ _ _ _ _ _ _ _ _ _ created refused 0
  rw [asked, spent] at same
  cases same

end Block

end RegionDispatch
