import RegionDispatch.Proofs.Block.Reachable

/-! # What a region is sized by

The size of the master's next region is decided from the device, the layout, the thread limit and
two cells that the workers reach as well: worker 0 is thread 0 as the master is, and a worker outside
all regions stands on the outermost frame. The steps of a first-level region, taken by the master
and by the workers, do nothing to these two cells but spend the clause.

* **`Settings`**, `Block.settings` — the pending clause of thread 0 and the requested threads of the
  outermost frame.
* `Block.Stacked.settings_of_effect` — only two calls of the program and the posting of a region
  change the settings.
* `Block.Grants.settings` — posting a region spends the clause.
* **`Block.Hosts`** — a stacked block of a device, layout and thread limit; `Hosts.nextRequest_eq`,
  what its master asks for. -/

namespace RegionDispatch

open Dispatch
open BlockState (baseId homeId)

/-- What the size of the next region depends on, the device, the layout and the limit apart. -/
structure Settings where
  /-- The pending clause of thread 0. -/
  clause : Nat
  /-- The requested threads of the outermost frame. -/
  nthreads : Nat
  deriving DecidableEq

/-- The settings of a block. -/
def Block.settings (block : Block) : Settings where
  clause := (block.state.thread 0).pendingThreads
  nthreads := ((block.state.arena.get? baseId).map (·.nthreads)).getD 0

/-- The calls that sizing a region is about: the two by which a program asks for threads, and the
one that spends the clause. -/
def Operation.isSizing : Operation → Bool
  | prepareRegion .. | pushThreads .. | setThreads .. => true
  | _ => false

namespace BlockState

variable {state : BlockState} {tid other event : Nat} {top parent home : FrameId} {frame : Frame}
  {loop : LoopState}

/-! ## Pending clauses where a thread changes its top -/

theorem pendingThreads_setTop :
    ((state.setTop tid top).thread other).pendingThreads = (state.thread other).pendingThreads :=
  kept_modifyThread Thread.pendingThreads fun _ => rfl

theorem pendingThreads_joinTeam :
    ((state.joinTeam tid home frame event).thread other).pendingThreads =
      (state.thread other).pendingThreads := by
  rw [joinTeam, kept_modifyThread Thread.pendingThreads, pendingThreads_setTop, thread_overwrite]
  exact fun _ => rfl

theorem pendingThreads_openSerial :
    ((state.openSerial tid top frame).thread other).pendingThreads =
      (state.thread other).pendingThreads := by
  rw [openSerial, push_snd, pendingThreads_setTop]
  rfl

theorem pendingThreads_closeSerial :
    ((state.closeSerial tid top parent loop).thread other).pendingThreads =
      (state.thread other).pendingThreads := by
  rw [closeSerial, kept_modifyThread Thread.pendingThreads, thread_modifyFrame, thread_release,
    pendingThreads_setTop]
  exact fun _ => rfl

end BlockState

namespace Block

variable {block after : Block} {stackOf : Nat → List FrameId} {op : Operation} {returned : Bool}
  {arch : Arch} {layout : BlockLayout} {limit : Nat} {work : WorkHandle} {decision : TeamDecision}

/-! ## The two cells -/

/-- What is read of the outermost frame besides its parked loop state is changed by `setThreads`
only. -/
theorem Stacked.map_base_of_effect {α : Type} (h : Stacked stackOf block)
    (effect : Effect block op returned after) (read : Frame → α)
    (parks : ∀ frame parkedLoop, read { frame with parkedLoop } = read frame)
    (asks : ∀ lane count, op = .setThreads lane count →
      ∀ frame, read { frame with nthreads := count } = read frame) :
    (after.state.arena.get? baseId).map read = (block.state.arena.get? baseId).map read := by
  have base : block.state.arena.isLive baseId = true := FrameArena.isLive_of_linkOf h.base
  have kept {f : Frame → Frame} (same : ∀ frame, read (f frame) = read frame) :
      ((block.state.arena.get? baseId).map f).map read =
        (block.state.arena.get? baseId).map read := by
    rw [Option.map_map]
    exact congrArg (Option.map · _) (funext same)
  -- the frames that are stored, overwritten or released are others
  cases effect with
  | @joined lane fullRuntime returned home counters activates =>
    obtain rfl : home = homeId lane := h.eq_homeId activates.reserved
    rw [Block.joined, BlockState.get?_joinTeam activates.live,
      if_neg (BlockState.homeId_ne_baseId lane).symm]
  | opened opens =>
    rw [BlockState.get?_openSerial h.sound, if_neg (h.sound.ne_nextId base)]
    split
    · exact kept fun frame => parks frame _
    · rfl
  | @closed lane tid top parent frame below loop closes distinct =>
    obtain ⟨ids, stack, -, -⟩ := h.stack_of_closes closes
    have other : baseId ≠ top := by
      rintro rfl
      exact h.baseId_not_mem (h.lt_of_owns closes.owns) (stack ▸ List.mem_cons_self)
    rw [BlockState.get?_closeSerial, if_neg other, FrameArena.get?_release_of_ne other]
    split
    · exact kept fun frame => parks frame _
    · rfl
  | lost closes =>
    obtain ⟨ids, stack, self, -⟩ := h.stack_of_closes closes
    exact absurd self.symm (h.headD_ne (h.lt_of_owns closes.owns) stack)
  | @requested lane tid count top owns stands =>
    rw [BlockState.arena_modifyFrame, FrameArena.get?_modify]
    split
    · exact kept (asks lane count rfl)
    · rfl
  | _ => rfl

/-- No other call reaches a pending clause. -/
theorem Effect.pendingThreads (effect : Effect block op returned after)
    (other : op.isSizing = false) (tid : Nat) :
    (after.state.thread tid).pendingThreads = (block.state.thread tid).pendingThreads := by
  cases effect with
  -- these are the calls about sizes
  | spent | posted | requested | hinted => cases other
  -- and these change the top, the loop state or the simd limit of a thread
  | joined activates => exact BlockState.pendingThreads_joinTeam
  | left exits => exact BlockState.pendingThreads_setTop
  | opened opens => exact BlockState.pendingThreads_openSerial
  | closed closes distinct => exact BlockState.pendingThreads_closeSerial
  | lost closes => exact BlockState.pendingThreads_setTop
  | looped owns | limited owns => exact BlockState.kept_modifyThread _ fun _ => rfl
  | _ => rfl

/-- **No other call changes the settings**, on whatever lane it is made. -/
theorem Stacked.settings_of_effect (h : Stacked stackOf block)
    (effect : Effect block op returned after) (other : op.isSizing = false) :
    after.settings = block.settings := by
  have nthreads := h.map_base_of_effect effect (·.nthreads) (fun _ _ => rfl) (by
    rintro lane count rfl
    cases other)
  rw [settings, settings, effect.pendingThreads other, nthreads]

/-- **Posting a region** spends the clause of thread 0. -/
theorem Grants.settings (h : Stacked stackOf block) (grants : block.Grants work decision after) :
    after.settings = { block.settings with clause := 0 } := by
  cases grants with
  | posted posts sized some =>
    -- thread 0 is one of the block, so there is a clause to spend
    have bound := h.lt_threads (h.lt_of_top posts.stands)
    have spent : ((block.state.takePendingThreads 0).2.thread 0).pendingThreads = 0 :=
      congrArg Thread.pendingThreads (BlockState.thread_modifyThread_self bound)
    rw [Block.settings, Block.settings, Settings.mk.injEq]
    exact ⟨spent, rfl⟩

/-! ## Blocks of one device, layout and limit -/

/-- A stacked block of this device and layout, with this thread limit. -/
structure Hosts (arch : Arch) (layout : BlockLayout) (limit : Nat) (block : Block) : Prop where
  arch : block.arch = arch
  layout : block.layout = layout
  limit : (block.state.arena.get? baseId).map (·.threadLimit) = some limit
  stacked : ∃ stackOf, Stacked stackOf block

namespace Hosts

variable (h : Hosts arch layout limit block)

include h

theorem initialized : block.initialized = true :=
  let ⟨_, stacked⟩ := h.stacked
  stacked.initialized

/-- No call makes it another device, layout or limit. -/
theorem effect (effect : Effect block op returned after) : Hosts arch layout limit after := by
  obtain ⟨stackOf, stacked⟩ := h.stacked
  obtain ⟨stackOf', stacked', -⟩ := (stacked.paid effect).stacked
  have limited := stacked.map_base_of_effect effect (·.threadLimit) (fun _ _ => rfl)
    fun _ _ _ _ => rfl
  exact ⟨effect.arch.trans h.arch, effect.layout.trans h.layout, limited.trans h.limit, stackOf',
    stacked'⟩

/-- Nor does spending a clause. -/
theorem takePendingThreads (tid : Nat) :
    Hosts arch layout limit { block with state := (block.state.takePendingThreads tid).2 } := by
  obtain ⟨stackOf, stacked⟩ := h.stacked
  exact { h with stacked := ⟨stackOf, stacked.takePendingThreads tid⟩ }

/-- Only a call about sizes changes the settings. -/
theorem settings_of_effect (effect : Effect block op returned after)
    (other : op.isSizing = false) : after.settings = block.settings :=
  let ⟨_, stacked⟩ := h.stacked
  stacked.settings_of_effect effect other

/-- The master asks for what the settings say: it stands on the outermost frame when it posts. -/
theorem nextRequest_eq {top : FrameId} {frame : Frame} (posts : block.Posts top frame) :
    block.nextRequest frame =
      ⟨block.settings.clause, block.settings.nthreads, limit, layout.master⟩ := by
  obtain ⟨stackOf, stacked⟩ := h.stacked
  have bound : 0 < block.layout.size := stacked.lt_of_top posts.stands
  have same : top = (stackOf 0).headD baseId := stacked.eq_headD posts.stands
  have outermost : top = baseId := by
    rw [same, stacked.stack_eq_nil bound (same ▸ posts.stored) posts.outside]
    rfl
  subst outermost
  have limited := h.limit
  rw [posts.stored, Option.map_some, Option.some.injEq] at limited
  rw [nextRequest, settings, posts.stored, limited, h.layout]
  rfl

/-- **A region is granted** the size its settings come to, and spends the clause. -/
theorem settings_of_grants (grants : block.Grants work decision after) :
    arch.sizeTeam ⟨block.settings.clause, block.settings.nthreads, limit, layout.master⟩ =
        .ok decision ∧
      after.settings = { block.settings with clause := 0 } := by
  obtain ⟨stackOf, stacked⟩ := h.stacked
  refine ⟨?_, grants.settings stacked⟩
  cases grants with
  | posted posts sized some =>
    rw [← h.nextRequest_eq posts, ← h.arch]
    exact sized

end Hosts

/-- A new generic block is stacked if there is a master. -/
theorem hosts_of_create {config : LaunchConfig} {lane : Nat}
    (created : create arch .generic config = .ok block)
    (found : block.layout.masterLane = .ok lane) :
    Hosts arch block.layout config.threadLimit.toNat block := by
  have initialized := initialized_of_create_generic created
  have stacked := stacked_of_mapsLanes (fun _ => BlockLayout.pos_of_masterLane found) created
    initialized
  obtain ⟨size, -, rfl⟩ := eq_of_create created initialized
  refine ⟨rfl, rfl, ?_, _, stacked⟩
  show ((BlockState.withStacks size _).arena.get? baseId).map _ = _
  rw [BlockState.get?_withStacks, if_pos rfl]
  rfl

end Block

end RegionDispatch
