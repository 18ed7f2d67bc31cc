import Mathlib.Logic.Relation
import RegionDispatch.Kernel.Launch
import RegionDispatch.Proofs.Block.Create
import RegionDispatch.Proofs.Kernel.Phases

/-! # Barriers stay aligned

Whatever a kernel does, the executor brings its block to an end at which all participating lanes
have been at the barrier equally often, unless the kernel itself is refused or the workers cannot be
shut down for want of the full runtime.

* **`KernelProgram`** — a kernel made of calls of the master and of the runtime, or an SPMD body.
* `KernelProgram.alone` — the program without what the executor does around it.
* `Kernel.ends_shutdown` — the end of a generic kernel.
* `KernelProgram.ends_runBlock` — one block, and `KernelProgram.barriers_aligned` — every launch. -/

namespace RegionDispatch

open Dispatch

/-! ## Shutting down -/

namespace Block

variable {block : Block} {lane : Nat}

/-- A retired board dismisses every worker. -/
theorem enterRegion_of_retired (initialized : block.initialized = true)
    (retired : block.board.posted = none) :
    enterRegion lane true block = .ok .terminate block := by
  refine eq_ok_of_ends ?_
  simp [enterRegion, requireInitialized, initialized, retired]

/-- Without the full runtime no worker may look. -/
theorem enterRegion_of_bare : enterRegion lane false block =
    .error (.rejected .runtimeUninitialized) block := by
  refine eq_error_of_ends ?_
  simp [enterRegion, requireInitialized]

end Block

/-- A launch that promises no full runtime cannot shut its workers down. -/
def BlockLayout.Stranded (layout : BlockLayout) (fullRuntime : Bool) : Prop :=
  layout.mode = .generic ∧ fullRuntime = false ∧ 0 < layout.master

namespace Kernel

variable {ω : Type} {layout : BlockLayout} {fullRuntime : Bool} {n : Nat} {s : Master ω}

/-- What the executor does after the sequential part. -/
def shutdown (master : Nat) : MasterM ω BlockOutcome := do
  Master.onBlock (Block.signalShutdown master)
  Master.sync
  let fullRuntime := (← get).fullRuntime
  (List.range master).forM fun lane => Master.onBlock (dismiss fullRuntime lane)
  let s ← get
  let phases ← granted s.barrier.aligned
  return ⟨s.hosted.block, s.barrier, s.regions, phases⟩

theorem runGeneric_eq (main : MasterM ω Unit) (master : Nat) :
    runGeneric main master = main >>= fun _ => shutdown master := rfl

/-- The workers are dismissed, unless there are any and the full runtime is missing. -/
theorem ends_dismiss {block : Block} (initialized : block.initialized = true)
    (retired : block.board.posted = none) (fullRuntime : Bool) (lanes : List Nat) :
    Ends (lanes.forM (dismiss fullRuntime)) block
      (fun _ t => t = block ∧ ¬(fullRuntime = false ∧ lanes ≠ []))
      fun failure t => t = block ∧ fullRuntime = false ∧ lanes ≠ [] ∧
        failure = .rejected .runtimeUninitialized := by
  cases fullRuntime with
  | false =>
    cases lanes with
    | nil => exact ⟨rfl, fun h => h.2 rfl⟩
    | cons lane lanes =>
      rw [forM_cons, ends_bind, dismiss, ends_bind, ends_of_error Block.enterRegion_of_bare]
      exact ⟨rfl, rfl, List.cons_ne_nil _ _, rfl⟩
  | true =>
    induction lanes with
    | nil => exact ⟨rfl, fun h => h.2 rfl⟩
    | cons lane lanes ih =>
      have dismissed : dismiss true lane block = .ok () block := by
        refine eq_ok_of_ends ?_
        rw [dismiss, ends_bind, ends_of_ok (Block.enterRegion_of_retired initialized retired)]
        simp
      rw [forM_cons, ends_bind, ends_of_ok dismissed]
      refine ih.mono (fun _ t done => ⟨done.1, ?_⟩) fun _ _ stopped => ?_
      · exact fun h => Bool.noConfusion h.1
      · exact Bool.noConfusion stopped.2.1

/-- **The end of a generic kernel.** One more barrier, and all are aligned. -/
theorem ends_shutdown (h : s.Steady layout fullRuntime n) (generic : layout.mode = .generic)
    (width : 0 < layout.groupWidth) :
    Ends (shutdown layout.master) s
      (fun outcome t => t.hosted.host = s.hosted.host ∧ ¬layout.Stranded fullRuntime ∧
        (0 < layout.size → outcome.phases = n + 1) ∧
        outcome.barrier = .level layout.size (layout.master + 1) outcome.phases ∧
        outcome.regions = s.regions ∧ outcome.block.layout = layout)
      fun failure t => t.hosted.host = s.hosted.host ∧ layout.Stranded fullRuntime ∧
        failure = .rejected .runtimeUninitialized := by
  have some : List.range layout.master ≠ [] ↔ 0 < layout.master := by
    rw [ne_eq, List.range_eq_nil, Nat.pos_iff_ne_zero]
  simp only [shutdown, ends_bind, Master.ends_onBlock, Block.signalShutdown, ends_get, ends_checked,
    ends_refuseIf, ends_modify, Master.sync, Master.forM_onBlock, h.block.layout,
    BlockLayout.masterLane_eq width, Except.ok.injEq, forall_eq', not_true, ne_eq, false_imp_iff,
    not_false_eq_true, true_imp_iff, true_and, reduceCtorEq, implies_true, and_true, h.fullRuntime]
  refine (ends_dismiss (by exact h.block.initialized) rfl fullRuntime _).mono ?_ ?_
  · rintro _ _ ⟨rfl, dismissed⟩
    rw [some] at dismissed
    obtain ⟨phases, aligned, same, counted⟩ :=
      Barrier.exists_aligned_level layout.size (layout.master + 1) (n + 1) fun _ => Nat.succ_pos _
    rw [h.barrier, Barrier.syncAll_level, aligned]
    exact ⟨rfl, fun stranded => dismissed stranded.2, counted, same, rfl, rfl⟩
  · rintro _ _ ⟨rfl, bare, workers, rfl⟩
    exact ⟨⟨generic, bare, some.1 workers⟩, rfl⟩

end Kernel

/-! ## One block -/

/-- What a kernel is made of. -/
inductive KernelProgram (ω : Type) : Type 1 where
  /-- A sequential part. -/
  | generic (main : Master.Program ω)
  /-- A body that every lane runs. -/
  | spmd (body : RegionBody ω) (calls : ∀ lane, Region.Calls (body lane))

/-- The lanes that take part in the barrier, from lane 0 on: the workers and the master, or all. -/
def BlockLayout.participants (layout : BlockLayout) : Nat :=
  match layout.mode with
  | .generic => layout.master + 1
  | .spmd => layout.size

/-- They lie in the block. -/
theorem BlockLayout.participants_le {layout : BlockLayout} (lanes : 0 < layout.size) :
    layout.participants ≤ layout.size := by
  unfold participants
  split
  · have := layout.master_le_size_sub_one
    omega
  · exact Nat.le_refl _

namespace KernelProgram

variable {ω : Type}

/-- The kernel of this name. -/
def kernel (name : String) : KernelProgram ω → Kernel ω
  | generic main => ⟨name, .generic main.run⟩
  | spmd body _ => ⟨name, .spmd body⟩

/-- The mode it runs in. -/
def mode : KernelProgram ω → ExecMode
  | generic _ => .generic
  | spmd _ _ => .spmd

theorem mode_kernel (program : KernelProgram ω) (name : String) :
    (program.kernel name).mode = program.mode := by
  cases program <;> rfl

/-- What a sequential part starts from. -/
def start (block : Block) (fullRuntime : Bool) (host : ω) : Master ω where
  hosted := ⟨block, host⟩
  barrier := .ofParticipants block.layout.size (List.range (block.layout.master + 1))
  fullRuntime

/-- The program on a new block, without what the executor does around it. -/
def alone (block : Block) (fullRuntime : Bool) : KernelProgram ω → Dispatch ω Unit
  | generic main => embed (start block fullRuntime) (·.hosted.host) main.run
  | spmd body _ => embed (⟨block, ·⟩) (·.host) ((List.range block.layout.size).forM body)

/-- The calls of `Master.parallel` that it makes there. -/
def calls (block : Block) (fullRuntime : Bool) (host : ω) :
    KernelProgram ω → List (ParallelCall ω)
  | generic main => main.calls (start block fullRuntime host)
  | spmd _ _ => []

variable {arch : Arch} {config : LaunchConfig} {block : Block}

/-- A new generic block of a valid device is steady. -/
theorem steady_start (initialized : block.initialized = true) (fullRuntime : Bool) (host : ω) :
    (start block fullRuntime host).Steady block.layout fullRuntime 0 where
  block := ⟨rfl, initialized⟩
  barrier := Barrier.ofParticipants_range _ _
  regions := fun _ none => absurd none List.not_mem_nil
  fullRuntime := rfl

/-- A block that the executor has brought to its end. -/
structure Completes (program : KernelProgram ω) (block : Block) (fullRuntime : Bool) (host last : ω)
    (outcome : BlockOutcome) : Prop where
  alone : program.alone block fullRuntime host = .ok () last
  dismissed : ¬block.layout.Stranded fullRuntime
  phases : 0 < block.layout.size →
    outcome.phases = 1 + ParallelCall.phases (program.calls block fullRuntime host)
  barrier : outcome.barrier = .level block.layout.size block.layout.participants outcome.phases
  regions : ∀ record ∈ outcome.regions, record.lanes = List.range record.size ∧
    record.size ≤ block.layout.master
  layout : outcome.block.layout = block.layout

/-- **One block.** It comes to its end, or the program is refused and that is all, or the workers
cannot be shut down. -/
theorem ends_runBlock {program : KernelProgram ω} (valid : arch.isValid = true)
    (created : Block.create arch program.mode config = .ok block) (name : String) (host : ω) :
    Ends ((program.kernel name).runBlock arch config) host
      (fun outcome last => program.Completes block config.fullRuntime host last outcome)
      fun failure last => program.alone block config.fullRuntime host = .error failure last ∨
        program.alone block config.fullRuntime host = .ok () last ∧
          block.layout.Stranded config.fullRuntime ∧ failure = .rejected .runtimeUninitialized := by
  obtain ⟨size, -, layout⟩ := Block.layout_of_create created
  have width : 0 < block.layout.groupWidth := by
    rw [layout]
    exact Arch.width_pos_of_isValid valid
  have mode : block.layout.mode = program.mode := by rw [layout]
  rw [Kernel.runBlock, ends_bind, ends_checked]
  refine ⟨fun again same => ?_, fun fault halted => ?_⟩
  swap
  · rw [mode_kernel, created] at halted
    cases halted
  obtain rfl := Except.ok.inj ((mode_kernel program name ▸ same).symm.trans created)
  cases program with
  | generic main =>
    have steady :=
      steady_start (Block.initialized_of_create_generic created) config.fullRuntime host
    simp only [kernel, ends_bind, BlockLayout.masterLane_eq width, checked_ok, ends_pure,
      ends_embed, Kernel.runGeneric_eq]
    refine ((Dispatch.ends_run main.run _).and (main.ends_run steady)).mono ?_ ?_
    · rintro _ t ⟨ran, steady⟩
      have alone : (KernelProgram.generic main).alone again config.fullRuntime host =
          .ok () t.hosted.host := embed_of_ok ran
      refine (Kernel.ends_shutdown steady mode width).mono ?_ ?_
      · rintro outcome u ⟨kept, complete, phases, barrier, regions, same⟩
        have all : again.layout.participants = again.layout.master + 1 := by
          rw [BlockLayout.participants, mode]
          rfl
        refine
          { alone := kept ▸ alone
            dismissed := complete
            phases := fun lanes => ?_
            barrier := by rw [barrier, all]
            regions := regions ▸ steady.regions
            layout := same }
        rw [phases lanes, Nat.zero_add, Nat.add_comm]
        rfl
      · rintro failure u ⟨kept, stranded, rfl⟩
        exact .inr ⟨kept ▸ alone, stranded, rfl⟩
    · exact fun failure t ended => .inl (embed_of_error ended.1)
  | spmd body calls =>
    have all : again.layout.participants = again.layout.size := by
      rw [BlockLayout.participants, mode]
      rfl
    have workerless : ¬again.layout.Stranded config.fullRuntime := by
      rintro ⟨generic, -⟩
      rw [mode] at generic
      cases generic
    have keeps : Keeps (fun s => s.block.Shaped again.layout again.initialized)
        ((List.range again.layout.size).forM body) := .forM _ fun lane _ => (calls lane).keeps
    simp only [kernel, ends_embed, Kernel.runSpmd, ends_bind]
    refine ((Dispatch.ends_run ((List.range again.layout.size).forM body) _).and
      (keeps ⟨again, host⟩ ⟨rfl, rfl⟩)).mono ?_ ?_
    · rintro _ t ⟨ran, shaped⟩
      obtain ⟨phases, aligned, same, counted⟩ :=
        Barrier.exists_aligned_level again.layout.size again.layout.size 1 id
      rw [Barrier.ofParticipants_range, Barrier.syncAll_level, aligned]
      exact
        { alone := embed_of_ok ran
          dismissed := workerless
          phases := counted
          barrier := by rw [all]; exact same
          regions := fun _ none => absurd none List.not_mem_nil
          layout := shaped.layout }
    · exact fun failure t ended => .inl (embed_of_error ended.1)

end KernelProgram

/-! ## Launches -/

namespace Kernel

variable {ω : Type}

/-- What a block comes to, apart from the data that it leaves to the next one. -/
def result (kernel : Kernel ω) (arch : Arch) (config : LaunchConfig) (host : ω) :
    Except Failure BlockOutcome :=
  match kernel.runBlock arch config host with
  | .ok outcome _ => .ok outcome
  | .error failure _ => .error failure

/-- One block leaves the program's data to the next. -/
def Leaves (kernel : Kernel ω) (arch : Arch) (config : LaunchConfig) (host next : ω) : Prop :=
  ∃ outcome, kernel.runBlock arch config host = .ok outcome next

end Kernel

namespace Launch

variable {ω : Type} {device : Device} {kernel : Kernel ω} {config : LaunchConfig}

/-- Publishing leaves the program's data alone, and is never refused. -/
theorem ends_publish (totals : LaunchTotals) (outcome : BlockOutcome) (launch : Launch ω) :
    Ends (publish device kernel config totals outcome) launch (fun _ t => t.host = launch.host)
      fun failure _ => ∃ fault, failure = .halted fault := by
  unfold publish
  split
  · simp only [ends_bind, ends_checked, ends_modify]
    exact ⟨fun _ _ => trivial, fun fault _ => ⟨fault, rfl⟩⟩
  · exact rfl

/-- A launch is refused only where one of its blocks is. -/
theorem ends_blocks_refused (count : Nat) :
    ∀ (totals : LaunchTotals) (launch : Launch ω),
      Ends (blocks device kernel config count totals) launch (fun _ _ => True)
        fun failure _ => ∀ error, failure = .rejected error → ∃ host final,
          Relation.ReflTransGen (kernel.Leaves device.arch config) launch.host host ∧
            kernel.runBlock device.arch config host = .error failure final := by
  -- by induction on the blocks left; adding up and publishing can only fault
  induction count with
  | zero => exact fun _ _ => trivial
  | succ left ih =>
    intro totals launch
    simp only [blocks, ends_bind, onHost, ends_zoom, ends_checked]
    refine (ends_run (kernel.runBlock device.arch config) launch.host).mono ?_ ?_
    · intro outcome next ran
      refine ⟨fun added _ => ?_, fun fault _ error same => Failure.noConfusion same⟩
      refine (ends_publish added outcome _).mono ?_ ?_
      · intro _ published same
        refine (ih added published).mono (fun _ _ _ => trivial) ?_
        intro failure _ refused error own
        obtain ⟨host, final, reached, stopped⟩ := refused error own
        rw [same] at reached
        exact ⟨host, final, .head ⟨outcome, ran⟩ reached, stopped⟩
      · rintro _ _ ⟨fault, rfl⟩ error same
        cases same
    · exact fun _ final stopped _ _ => ⟨launch.host, final, .refl, stopped⟩

end Launch

namespace KernelProgram

variable {ω : Type} {arch : Arch} {config : LaunchConfig} {block : Block}

/-- **Barriers stay aligned**, whatever the kernel does. Each block of a launch ends in one of three
ways: all participants have been at the barrier equally often, once and once more for each phase
that the calls of the master account for; or the kernel itself was refused or halted, and the block
ends as it did; or the workers cannot be shut down for want of the full runtime. No call of the
master finds the protocol broken that a body has not found broken. And a launch is refused only
where one of its blocks is, for one of these reasons. -/
theorem barriers_aligned {program : KernelProgram ω} (valid : arch.isValid = true)
    (created : Block.create arch program.mode config = .ok block) (lanes : 0 < block.layout.size)
    (name : String) :
    (∀ host, Ends ((program.kernel name).runBlock arch config) host
      (fun outcome last => program.alone block config.fullRuntime host = .ok () last ∧
        ¬block.layout.Stranded config.fullRuntime ∧
        outcome.phases = 1 + ParallelCall.phases (program.calls block config.fullRuntime host) ∧
        ∀ lane, outcome.barrier.arrivalsOf lane =
          if lane < block.layout.participants then some outcome.phases else none)
      fun failure last => program.alone block config.fullRuntime host = .error failure last ∨
        program.alone block config.fullRuntime host = .ok () last ∧
          block.layout.Stranded config.fullRuntime ∧
          failure = .rejected .runtimeUninitialized) ∧
    (∀ host, ∀ call ∈ program.calls block config.fullRuntime host, call.Honest) ∧
    ∀ (device : Device) (launch last : Launch ω) (error : DispatchError), device.arch = arch →
      device.launch (program.kernel name) config launch = .error (.rejected error) last →
      (∃ host final,
        Relation.ReflTransGen ((program.kernel name).Leaves arch config) launch.host host ∧
          program.alone block config.fullRuntime host = .error (.rejected error) final) ∨
        block.layout.Stranded config.fullRuntime ∧ error = .runtimeUninitialized := by
  have run := ends_runBlock valid created name
  refine ⟨fun host => (run host).mono (fun outcome last done => ?_) fun _ _ stopped => stopped,
    fun host => ?_, ?_⟩
  · refine ⟨done.alone, done.dismissed, done.phases lanes, fun lane => ?_⟩
    rw [done.barrier]
    exact Barrier.arrivalsOf_level (BlockLayout.participants_le lanes)
  · cases program with
    | generic main =>
      exact main.honest_calls (steady_start (Block.initialized_of_create_generic created) _ host)
    | spmd body calls => exact fun _ none => absurd none List.not_mem_nil
  · rintro device launch last error rfl refused
    obtain ⟨host, final, reached, stopped⟩ :=
      (ends_of_error refused).1 (Launch.ends_blocks_refused _ _ _) error rfl
    rcases (ends_of_error stopped).1 (run host) with own | ⟨-, stranded, same⟩
    · exact .inl ⟨host, final, reached, own⟩
    · exact .inr ⟨stranded, Failure.rejected.inj same⟩

/-- The first region is given up when worker 0 leaves a nested region that it has not entered. The
refusal is caught, worker 0 is taken out of the region by hand, the workers are told to shut down,
and then there is another region. -/
def stumbling : KernelProgram Unit :=
  .generic <| .act (.parallel _ fun lane => .call (.endSerial lane)) fun _ =>
    .act (.runtime _ (.call (.exitRegion 0))) fun _ =>
    .act (.runtime _ (.call (.signalShutdown 4))) fun _ =>
    .act (.parallel _ fun lane => .call (.setThreads lane 2)) fun _ =>
    .finish

theorem barriers_aligned_stumbling :
    ∃ outcome last, (stumbling.kernel "stumbling").runBlock Master.pairs
        { grid := .line 1, block := .line 6 } () = .ok outcome last ∧
      outcome.phases = 4 ∧
      ∀ lane, outcome.barrier.arrivalsOf lane = if lane < 5 then some 4 else none := by
  have created : Block.create Master.pairs stumbling.mode { grid := .line 1, block := .line 6 } =
    .ok Master.threePairs := rfl
  obtain ⟨run, -, -⟩ := barriers_aligned (by decide) created (by decide) "stumbling"
  have ends := run ()
  have phases : ParallelCall.phases (stumbling.calls Master.threePairs true ()) = 3 := by
    decide +kernel
  have done : ((stumbling.kernel "stumbling").result Master.pairs
      { grid := .line 1, block := .line 6 } ()).isOk = true := by decide +kernel
  unfold Ends at ends
  split at ends
  · next outcome last ran =>
    obtain ⟨-, -, count, arrivals⟩ := ends
    have four : outcome.phases = 4 := count.trans (congrArg (1 + ·) phases)
    exact ⟨outcome, last, ran, four, four ▸ arrivals⟩
  · next ran =>
    rw [Kernel.result, ran] at done
    cases done

end KernelProgram

end RegionDispatch
