import RegionDispatch.Proofs.Block.Reachable

/-! # Forgotten exits

A worker that was told to run a region and does not leave it spoils the stacks of later regions. The
only check against it is that the master may post no region from inside one, and the master stands
where logical thread 0 stands: the check sees worker 0, the one worker that shares its thread with
the master warp.

* **`Block.StackStep.homeId_mem`**, `Block.Stacked.inside_run` — what a thread has joined stays on
  its stack until one of its lanes leaves.
* `Block.Stacked.prepareRegion_of_inside` — the master is refused while thread 0 has a stack.
* `Block.alreadyInParallel_of_active` — so a forgotten exit of thread 0 is always caught.
* `Block.not_catchesExitOf` — an exit that only worker 1 forgot is not, and one that worker 0 forgot
  is not once the master's lane has left in its place. -/

namespace RegionDispatch

open Dispatch
open BlockState (baseId homeId)

/-- The thread that leaves its team. -/
def Operation.leaver? (layout : BlockLayout) : Operation → Option Nat
  | exitRegion lane => (layout.threadOf lane).toOption
  | _ => none

/-- Whether a call took the thread out of its team. -/
def Outcome.leaves (layout : BlockLayout) (tid : Nat) (outcome : Outcome) : Bool :=
  outcome.result.isOk && decide (outcome.operation.leaver? layout = some tid)

namespace Block

variable {block after : Block} {stackOf stackOf' : Nat → List FrameId} {lane tid master : Nat}
  {work : WorkHandle} {fullRuntime : Bool}

/-- **A thread stays in its team** through every call but its own exit. -/
theorem StackStep.homeId_mem {layout : BlockLayout} {op : Operation} {returned : Bool}
    (step : StackStep layout stackOf op returned stackOf') (inside : homeId tid ∈ stackOf tid)
    (stays : (returned && decide (op.leaver? layout = some tid)) = false) :
    homeId tid ∈ stackOf' tid := by
  cases step with
  | kept => exact inside
  | joined =>
    rw [Function.update_apply]
    split
    · next same => exact same ▸ List.mem_singleton_self _
    · exact inside
  | left owner =>
    rw [Function.update_apply]
    split
    · -- the exit would be one of this thread
      next same =>
      rw [Operation.leaver?, owner, same] at stays
      simp [Except.toOption] at stays
    · exact inside
  | opened owner =>
    rw [Function.update_apply]
    split
    · next same => exact List.mem_cons_of_mem _ (same ▸ inside)
    · exact inside
  | closed owner stack away =>
    rw [Function.update_apply]
    split
    · -- what is left is above the frame set aside for the thread
      next same =>
      rw [same, stack] at inside
      exact same ▸ (List.mem_cons.1 inside).resolve_left (Ne.symm away)
    · exact inside

namespace Stacked

/-- A worker that is told to run a region has joined its team. -/
theorem joined_of_active (h : Stacked stackOf block)
    (told : enterRegion lane fullRuntime block = .ok (.active work) after) :
    lane < block.layout.size ∧ Stacked (Function.update stackOf lane [homeId lane]) after := by
  cases ((ends_of_ok told).1 (effect_enterRegion fullRuntime)).1 with
  | @active work home counters posted member activates =>
    have bound : lane < block.layout.size := h.lt_of_home activates.reserved
    obtain rfl : home = homeId lane := h.eq_homeId activates.reserved
    exact ⟨bound, h.replace bound { h.joined bound (h.template work posted) with }⟩

/-- What a thread has joined stays on its stack until it leaves. -/
theorem inside_run (ops : List Operation) :
    ∀ {stackOf : Nat → List FrameId} {block : Block}, Stacked stackOf block →
      homeId tid ∈ stackOf tid →
      (∀ outcome ∈ (run ops block).1, outcome.leaves block.layout tid = false) →
      ∃ stackOf', Stacked stackOf' (run ops block).2 ∧ homeId tid ∈ stackOf' tid := by
  -- by induction on the calls, none of which takes the thread out
  induction ops with
  | nil => exact fun h inside _ => ⟨_, h, inside⟩
  | cons op ops ih =>
    intro stackOf block h inside stays
    have call := effect_perform h.initialized op
    unfold Ends at call
    rcases hop : op.perform block with ⟨⟨⟩, t⟩ | ⟨error | fault, t⟩
    all_goals
      rw [hop] at call
      simp only [run, hop, List.forall_mem_cons] at stays ⊢
      have stepped := h.stepped call
      obtain ⟨stackOf', stacked, step⟩ := stepped.stacked
      have inside := step.homeId_mem inside stays.1
    · exact ih stacked inside (stepped.layout ▸ stays.2)
    · exact ih stacked inside (stepped.layout ▸ stays.2)
    · exact ⟨stackOf', stacked, inside⟩

/-- **The master is refused** while logical thread 0 has something on its stack. -/
theorem prepareRegion_of_inside (h : Stacked stackOf block)
    (generic : block.layout.mode = .generic) (size : 0 < block.layout.size)
    (found : block.layout.masterLane = .ok master) (inside : stackOf 0 ≠ []) :
    prepareRegion master work true block = .error (.rejected .alreadyInParallel) block := by
  rw [BlockLayout.masterLane_eq (h.maps generic), Except.ok.injEq] at found
  have stands := h.tops 0 size
  obtain ⟨frame, stored, depth⟩ := h.exists_top size
  have nested : frame.depth.inParallel = true := by
    by_contra outside
    exact inside (h.stack_eq_nil size stored (Bool.eq_false_of_not_eq_true outside))
  generalize (stackOf 0).headD baseId = top at stands stored
  refine eq_error_of_ends ?_
  simp [prepareRegion, ends_requireInitialized_of h.initialized, ends_requireMaster h.maps, generic,
    BlockState.top_eq_ok.2 stands, BlockState.frame_eq_ok.2 stored, nested, found]

end Stacked

/-! ## Which exits are caught -/

/-- **A forgotten exit of thread 0 is caught.** Whatever is called on a new generic block: once
worker 0 was told to run a region and as long as no lane of its thread has left, the master is
refused the next region, and nothing changes. -/
theorem alreadyInParallel_of_active {arch : Arch} {config : LaunchConfig} {mid : Block}
    (valid : arch.isValid = true) (created : create arch .generic config = .ok block)
    (before after : List Operation)
    (told : enterRegion 0 fullRuntime (run before block).2 = .ok (.active work) mid)
    (stays : ∀ outcome ∈ (run after mid).1, outcome.leaves block.layout 0 = false)
    (found : block.layout.masterLane = .ok master) (next : WorkHandle) :
    prepareRegion master next true (run after mid).2 =
      .error (.rejected .alreadyInParallel) (run after mid).2 := by
  have initialized := initialized_of_create_generic created
  have earlier := reaches_run before (stacked_of_create (fun _ => valid) created initialized)
  obtain ⟨stackOf, stacked⟩ := earlier.stacked
  have entered := ((ends_of_ok told).1 (effect_enterRegion fullRuntime)).2.layout
  obtain ⟨bound, joined⟩ := stacked.joined_of_active told
  have later := reaches_run after joined
  have layout := later.layout.trans (entered.trans earlier.layout)
  -- worker 0 has joined, and nothing after that takes its frame off the stack
  have inside : homeId 0 ∈ Function.update stackOf 0 [homeId 0] 0 := by
    rw [Function.update_self]
    exact List.mem_singleton_self _
  obtain ⟨stackOf', stacked', inside⟩ :=
    joined.inside_run after inside (entered.trans earlier.layout ▸ stays)
  refine stacked'.prepareRegion_of_inside ?_ ?_ ?_ (List.ne_nil_of_mem inside)
  · rw [layout]
    obtain ⟨size, -, rfl⟩ := eq_of_create created initialized
    rfl
  · rw [layout, ← earlier.layout]
    exact bound
  · rw [layout]
    exact found

/-- The first region of a block. -/
def firstWork : WorkHandle := ⟨1, Nat.one_pos⟩

/-- The region that is posted after it. -/
def secondWork : WorkHandle := ⟨2, Nat.two_pos⟩

/-- The calls that post a region and let some workers join it. -/
def assembling (lanes : List Nat) : List Operation :=
  .prepareRegion 32 firstWork true :: lanes.map (.enterRegion · true)

/-- Worker 0 begins a serialized region in its region and cannot leave from there; the master ends
that region for it, and worker 1 comes and goes. -/
def lingering : List Operation :=
  [.enterRegion 1 true, .beginSerial 0, .exitRegion 0, .endSerial 32, .exitRegion 1]

theorem alreadyInParallel_lingering :
    enterRegion 0 true (run (assembling []) twoWarps).2 =
      .ok (.active firstWork) (run (assembling [0]) twoWarps).2 ∧
    prepareRegion 32 secondWork true (run lingering (run (assembling [0]) twoWarps).2).2 =
      .error (.rejected .alreadyInParallel)
        (run lingering (run (assembling [0]) twoWarps).2).2 := by
  have told : enterRegion 0 true (run (assembling []) twoWarps).2 =
      .ok (.active firstWork) (run (assembling [0]) twoWarps).2 := by with_unfolding_all rfl
  exact ⟨told, alreadyInParallel_of_active (by decide) create_twoWarps (assembling []) lingering
    told (by decide +kernel) rfl secondWork⟩

/-- Whether a worker that was told to run a region and has not itself left since is always caught
when the master posts the next region. -/
def CatchesExitOf (lane : Nat) : Prop :=
  ∀ (arch : Arch) (config : LaunchConfig) (block mid : Block) (before after : List Operation)
    (fullRuntime : Bool) (work next : WorkHandle) (master : Nat),
    arch.isValid = true → create arch .generic config = .ok block →
    enterRegion lane fullRuntime (run before block).2 = .ok (.active work) mid →
    (∀ outcome ∈ (run after mid).1,
      outcome.operation = .exitRegion lane → outcome.result.isOk = false) →
    block.layout.masterLane = .ok master →
    prepareRegion master next true (run after mid).2 =
      .error (.rejected .alreadyInParallel) (run after mid).2

/-- **Other forgotten exits are not caught.** Workers 0 and 1 join a team and the master's lane
leaves it; neither worker has left, yet the master posts the next region. -/
theorem not_catchesExitOf : ¬CatchesExitOf 0 ∧ ¬CatchesExitOf 1 := by
  refine ⟨fun caught => ?_, fun caught => ?_⟩
  · have told : enterRegion 0 true (run (assembling []) twoWarps).2 =
        .ok (.active firstWork) (run (assembling [0]) twoWarps).2 := by with_unfolding_all rfl
    have refused := caught .volta _ twoWarps _ (assembling []) [.enterRegion 1 true, .exitRegion 32]
      true firstWork secondWork 32 (by decide) create_twoWarps told (by decide +kernel) rfl
    have granted : prepareRegion 32 secondWork true
        (run [.enterRegion 1 true, .exitRegion 32] (run (assembling [0]) twoWarps).2).2 =
      .ok ⟨32, .availableLanes⟩ (run [.prepareRegion 32 secondWork true]
        (run [.exitRegion 32] (run (assembling [0, 1]) twoWarps).2).2).2 := by
      with_unfolding_all rfl
    cases granted.symm.trans refused
  · have told : enterRegion 1 true (run (assembling [0]) twoWarps).2 =
        .ok (.active firstWork) (run (assembling [0, 1]) twoWarps).2 := by with_unfolding_all rfl
    have refused := caught .volta _ twoWarps _ (assembling [0]) [.exitRegion 32] true firstWork
      secondWork 32 (by decide) create_twoWarps told (by decide +kernel) rfl
    have granted : prepareRegion 32 secondWork true
        (run [.exitRegion 32] (run (assembling [0, 1]) twoWarps).2).2 =
      .ok ⟨32, .availableLanes⟩ (run [.prepareRegion 32 secondWork true]
        (run [.exitRegion 32] (run (assembling [0, 1]) twoWarps).2).2).2 := by
      with_unfolding_all rfl
    cases granted.symm.trans refused

end Block

end RegionDispatch
