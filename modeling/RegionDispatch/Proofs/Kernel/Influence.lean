import RegionDispatch.Proofs.Block.Settings
import RegionDispatch.Proofs.Kernel.Phases

/-! # What the workers have to do with the sizes of regions

The regions of a generic kernel are sized by two cells that the workers share with the master. As
long as what is done on worker lanes — in the body of a region, or between two calls of the master —
leaves these cells as it found them, nothing that is done there bears on the size of any region: the
calls of the runtime that make up a region, on the master's lane and on those of the workers, leave
the cells alone themselves.

* **`Region.OnWorkers`** — what can be done on worker lanes.
* **`KernelStep`**, **`Master.sizes`** — the sequential part as the calls of the master with what is
  done on worker lanes in between, and the sizes of its regions.
* **`Master.discreet`** — whether the workers leave as they found it what the master's calls use.
* `Master.ends_opening`, `Master.ends_closing` — what the runtime does to the cells before the
  bodies of a region and after them.
* `Master.sizes_eq_sizesOf` — the sizes of a discreet run are a function of the master's calls.
* `Master.sizes_eq` — two discreet runs with the same calls of the master have the same sizes. -/

namespace RegionDispatch

open Dispatch
open BlockState (baseId homeId)

/-- The lane a call is made on, if it is made on one. -/
def Operation.lane? : Operation → Option Nat
  | prepareRegion lane _ _ | enterRegion lane _ | exitRegion lane | signalShutdown lane => some lane
  | beginSerial lane | endSerial lane | setThreads lane _ | setLoop lane _ => some lane
  | pushThreads lane _ | pushSimd lane _ => some lane
  | requestTeams | bindProcs => none

/-! ## What the master asks for -/

/-- What the master asks for, whatever the bodies of its regions do. -/
inductive MasterRequest where
  /-- The `num_threads` clause of the next region. -/
  | pushThreads (count : Nat)
  /-- The requested threads of the regions from here on. -/
  | setThreads (count : Nat)
  /-- A region. -/
  | parallel
  deriving DecidableEq

/-- The sizes of the regions among the master's calls, if nothing interferes. -/
def Arch.sizesOf (arch : Arch) (limit available : Nat) :
    Settings → List MasterRequest → Except Fault (List Nat)
  | _, [] => return []
  | settings, .pushThreads count :: requests =>
    sizesOf arch limit available { settings with clause := count } requests
  | settings, .setThreads count :: requests =>
    sizesOf arch limit available { settings with nthreads := count } requests
  | settings, .parallel :: requests => do
    let decision ← arch.sizeTeam ⟨settings.clause, settings.nthreads, limit, available⟩
    let sizes ← sizesOf arch limit available { settings with clause := 0 } requests
    return decision.size :: sizes

/-! ## What is done on worker lanes -/

namespace Region

variable {ω α : Type} {master : Nat}

/-- Steps that make calls on lanes below `master` only. -/
inductive OnWorkers (master : Nat) : {α : Type} → RegionM ω α → Prop
  /-- Reading the block, and any use of the program's own data. -/
  | observe {α : Type} {step : RegionM ω α}
      (reads : ∀ s, Ends step s (fun _ t => t.block = s.block) fun _ t => t.block = s.block) :
      OnWorkers master step
  /-- A call on a worker lane. -/
  | call (op : Operation) (below : ∀ lane, op.lane? = some lane → lane < master) :
      OnWorkers master (Hosted.onBlock op.perform)
  /-- A nested region on a worker lane. -/
  | nested {lane : Nat} {body : RegionBody ω} (below : lane < master)
      (inner : OnWorkers master (body lane)) : OnWorkers master (nested lane body)
  | attempt {α : Type} {step : RegionM ω α} (tried : OnWorkers master step) :
      OnWorkers master (attempt step)
  | bind {α β : Type} {step : RegionM ω α} {next : α → RegionM ω β}
      (first : OnWorkers master step) (second : ∀ a, OnWorkers master (next a)) :
      OnWorkers master (step >>= next)

variable {arch : Arch} {layout : BlockLayout} {limit : Nat}

/-- **What the workers cannot change.** -/
theorem OnWorkers.keeps {step : RegionM ω α} (workers : OnWorkers master step) :
    Keeps (fun s => s.block.Hosts arch layout limit) step := by
  have calls (op : Operation) : Keeps (Block.Hosts arch layout limit) op.perform := fun block h =>
    (Block.effect_perform h.initialized op).mono (fun _ _ => h.effect) fun _ _ => h.effect
  -- by induction on how the step is put together; a nested region is a call, its body and a call
  induction workers with
  | observe reads =>
    intro s h
    have kept (t : Hosted ω) (same : t.block = s.block) : t.block.Hosts arch layout limit :=
      same ▸ h
    exact (reads s).mono (fun _ => kept) fun _ => kept
  | call op below => exact Hosted.keeps_onBlock (calls op)
  | @nested lane body below inner ih =>
    refine keeps_nested (fun block h => ?_) ih (calls (.endSerial lane))
    refine (Block.effect_beginNested h.initialized).mono ?_ ?_
    · rintro _ _ ⟨tid, -, effect⟩
      exact (h.takePendingThreads tid).effect effect
    · rintro _ _ (rfl | ⟨tid, -, effect⟩)
      · exact h
      · exact (h.takePendingThreads tid).effect effect
  | attempt tried ih => exact ih.attempt
  | bind first second ihFirst ihSecond => exact ihFirst.bind ihSecond

end Region

/-! ## The sequential part -/

/-- What a call of the master asks for. -/
def MasterCall.request {ω : Type} : MasterCall ω → MasterRequest
  | pushThreads count => .pushThreads count
  | setThreads count => .setThreads count
  | parallel _ => .parallel

/-- A step of the sequential part of a kernel. -/
inductive KernelStep (ω : Type) where
  /-- A call of the master. -/
  | master (call : MasterCall ω)
  /-- Something done on worker lanes, outside the regions. -/
  | workers (step : RegionM ω Unit)

namespace KernelStep

variable {ω : Type}

/-- What a step does; a region gives its team size. -/
def perform : KernelStep ω → MasterM ω (Option Nat)
  | master call => call.perform
  | workers step => do
    Master.onHosted step
    return none

/-- What the master asks for in a step. -/
def request? : KernelStep ω → Option MasterRequest
  | master call => some call.request
  | workers _ => none

/-- All that is done on worker lanes is done by them. -/
def OnWorkers (lane : Nat) : KernelStep ω → Prop
  | master (.parallel body) => ∀ member, member < lane → Region.OnWorkers lane (body member)
  | master _ => True
  | workers step => Region.OnWorkers lane step

end KernelStep

namespace Master

variable {ω : Type} {s t : Master ω}

/-- Runs the sequential part and gives the sizes of its regions. -/
def sizes : List (KernelStep ω) → MasterM ω (List Nat)
  | [] => return []
  | step :: steps => do
    let size ← step.perform
    let others ← sizes steps
    return size.toList ++ others

/-- The sizes of a run that comes to its end. -/
def sizes? (steps : List (KernelStep ω)) (s : Master ω) : Option (List Nat) :=
  match sizes steps s with
  | .ok all _ => some all
  | .error _ _ => none

/-- What the master asks for. -/
def requests (steps : List (KernelStep ω)) : List MasterRequest :=
  steps.flatMap fun step => step.request?.toList

/-- A region up to its bodies: it is posted, and its team has formed. -/
def opening : MasterM ω (TeamDecision × List Nat) := do
  let posting ← posting
  sync
  let team ← onBlock (assemble posting.work posting.fullRuntime (List.range posting.master))
  return (posting.decision, team)

/-- The bodies of a region. -/
def working (body : RegionBody ω) (team : List Nat) : MasterM ω Unit :=
  team.forM fun lane => onHosted (body lane)

/-- A region from its bodies on: the team is left, and the region goes on record. -/
def closing (decision : TeamDecision) (team : List Nat) : MasterM ω Nat := do
  team.forM fun lane => onBlock (Block.exitRegion lane)
  sync
  let record : RegionRecord := ⟨decision.size, decision.bound, team⟩
  modify fun s => { s with regions := record :: s.regions }
  return decision.size

theorem parallel_eq_opening (body : RegionBody ω) :
    parallel body = (do
      let (decision, team) ← opening
      working body team
      closing decision team) := by
  simp only [parallel_eq, opening, bind_assoc, pure_bind]
  rfl

/-- Whether the bodies of a region, all of them together, leave the settings as they found them. A
region that does not get to its bodies has none that could change them. -/
def bodiesSpare (body : RegionBody ω) (s : Master ω) : Bool :=
  match opening s with
  | .ok (_, team) t =>
    match working body team t with
    | .ok _ u => u.hosted.block.settings = t.hosted.block.settings
    | .error _ _ => true
  | .error _ _ => true

/-- Whether the workers leave to a call of the master what it uses: the bodies of a region spare the
settings, and where the master sets its threads, worker 0 has no serialized region open. -/
def spares (s : Master ω) : MasterCall ω → Bool
  | .pushThreads _ => true
  | .setThreads _ => (s.hosted.block.state.thread 0).top = some baseId
  | .parallel body => bodiesSpare body s

/-- **Whether the workers leave as they found it what the master's calls use**: in every call, and
from one call to the next. `left` are the settings that the last call of the master has left. -/
def discreet : Settings → List (KernelStep ω) → Master ω → Bool
  | _, [], _ => true
  | left, .workers step :: steps, s =>
    match onHosted step s with
    | .ok _ t => discreet left steps t
    | .error _ _ => true
  | left, .master call :: steps, s =>
    s.hosted.block.settings = left && spares s call &&
      match call.perform s with
      | .ok _ t => discreet t.hosted.block.settings steps t
      | .error _ _ => true

variable {arch : Arch} {layout : BlockLayout} {limit : Nat} {α : Type}

/-- What a step on the block keeps. -/
theorem keeps_onBlock {P : Block → Prop} {step : Dispatch Block α} (keeps : Keeps P step) :
    Keeps (fun s : Master ω => P s.hosted.block) (onBlock step) := by
  intro s h
  rw [ends_onBlock]
  exact keeps _ h

theorem keeps_onHosted {P : Block → Prop} {step : RegionM ω α}
    (keeps : Keeps (fun s => P s.block) step) :
    Keeps (fun s : Master ω => P s.hosted.block) (onHosted step) := by
  intro s h
  rw [ends_onHosted]
  exact keeps _ h

/-- The workers look at the board, and only they join; the settings stay. -/
theorem ends_assemble_hosts (work : WorkHandle) (fullRuntime : Bool) (lanes : List Nat) :
    ∀ {block : Block}, block.Hosts arch layout limit →
      Ends (assemble work fullRuntime lanes) block
        (fun team t => t.Hosts arch layout limit ∧ t.settings = block.settings ∧
          ∀ member ∈ team, member ∈ lanes)
        fun _ _ => True := by
  -- by induction on the workers still to look, each of which is one call
  induction lanes with
  | nil => exact fun h => ⟨h, rfl, fun _ none => none⟩
  | cons lane lanes ih =>
    intro block h
    rw [assemble, ends_bind]
    refine (Block.effect_enterRegion fullRuntime).mono (fun activation after done => ?_)
      fun _ _ _ => trivial
    have others := ih (h.effect done.2)
    rw [h.settings_of_effect done.2 rfl] at others
    cases activation with
    | terminate => trivial
    | idle posted =>
      rw [ends_bind, ends_refuseIf]
      refine ⟨fun _ => trivial, fun _ => others.mono (fun team t done => ?_) fun _ _ _ => trivial⟩
      obtain ⟨hosts, same, among⟩ := done
      exact ⟨hosts, same, fun member inside => List.mem_cons_of_mem lane (among member inside)⟩
    | active posted =>
      rw [ends_bind, ends_refuseIf]
      refine ⟨fun _ => trivial, fun _ => ?_⟩
      rw [ends_bind]
      refine others.mono (fun team t done => ?_) fun _ _ _ => trivial
      obtain ⟨hosts, same, among⟩ := done
      refine ⟨hosts, same, fun member inside => ?_⟩
      rcases List.mem_cons.1 inside with rfl | later
      · exact List.mem_cons_self
      · exact List.mem_cons_of_mem lane (among member later)

/-- The master's lane, where there is one. -/
theorem ends_lane :
    Ends (lane : MasterM ω Nat) s (fun master t => s.hosted.block.layout.masterLane = .ok master ∧
      t = s) fun _ _ => True := by
  simp only [lane, ends_bind, ends_get, ends_checked]
  exact ⟨fun _ found => ⟨found, trivial⟩, fun _ _ => trivial⟩

/-- A lane that is the master's has thread 0. -/
theorem eq_zero_of_owns {block : Block} {lane tid : Nat} (owns : block.Owns lane tid)
    (found : block.layout.masterLane = .ok lane) (generic : block.layout.mode = .generic) :
    tid = 0 := by
  rw [BlockLayout.masterLane_eq (BlockLayout.pos_of_masterLane found), Except.ok.injEq] at found
  rw [owns.eq_owner owns.maps, ← found, BlockLayout.owner_master generic]

theorem ends_nextWork :
    Ends (nextWork : MasterM ω WorkHandle) s (fun _ t => t.hosted = s.hosted) fun _ _ => True := by
  simp only [nextWork, ends_bind, ends_get, ends_checked, ends_modify]
  refine ⟨fun id _ => ?_, fun _ _ => trivial⟩
  split
  · exact rfl
  · exact trivial

section Step

variable (h : s.hosted.block.Hosts arch layout limit)

include h

/-- A region is posted with the size that the settings come to, and its clause is spent. -/
theorem ends_posting_sized {lane : Nat} (found : layout.masterLane = .ok lane) :
    Ends posting s
      (fun posting t => t.hosted.block.Hosts arch layout limit ∧ posting.master = lane ∧
        arch.sizeTeam ⟨s.hosted.block.settings.clause, s.hosted.block.settings.nthreads, limit,
          layout.master⟩ = .ok posting.decision ∧
        t.hosted.block.settings = { s.hosted.block.settings with clause := 0 })
      fun _ _ => True := by
  rw [posting, ends_bind]
  refine ends_lane.mono ?_ fun _ _ stopped => stopped
  rintro master s ⟨lanes, rfl⟩
  rw [h.layout, found] at lanes
  cases lanes
  rw [ends_bind]
  refine ends_nextWork.mono (fun work t same => ?_) fun _ _ stopped => stopped
  rw [← same] at h ⊢
  rw [ends_bind, ends_get, ends_bind, ends_onBlock]
  refine (Block.effect_prepareRegion work t.fullRuntime).mono ?_ fun _ _ _ => trivial
  rintro decision after ⟨grants, effect⟩
  obtain ⟨sized, spent⟩ := h.settings_of_grants grants
  exact ⟨h.effect effect, rfl, sized, spent⟩

/-- **A region up to its bodies** has the size that the settings before it come to, and changes them
by nothing but the clause it spends. -/
theorem ends_opening {lane : Nat} (found : layout.masterLane = .ok lane) :
    Ends opening s
      (fun opened t => t.hosted.block.Hosts arch layout limit ∧
        (∀ member ∈ opened.2, member < lane) ∧
        arch.sizeTeam ⟨s.hosted.block.settings.clause, s.hosted.block.settings.nthreads, limit,
          layout.master⟩ = .ok opened.1 ∧
        t.hosted.block.settings = { s.hosted.block.settings with clause := 0 })
      fun _ _ => True := by
  rw [opening, ends_bind]
  refine (ends_posting_sized h found).mono ?_ fun _ _ _ => trivial
  rintro posting t ⟨hosts, rfl, sized, spent⟩
  simp only [ends_bind, sync, ends_modify, ends_onBlock]
  refine (ends_assemble_hosts posting.work _ _ hosts).mono ?_ fun _ _ _ => trivial
  rintro team u ⟨hosts, same, among⟩
  exact ⟨hosts, fun member inside => List.mem_range.1 (among member inside), sized,
    same.trans spent⟩

omit h in
/-- Bodies on worker lanes keep what the workers cannot change. -/
theorem keeps_working {lane : Nat} {body : RegionBody ω} {team : List Nat}
    (workers : ∀ member, member < lane → Region.OnWorkers lane (body member))
    (below : ∀ member ∈ team, member < lane) :
    Keeps (fun s : Master ω => s.hosted.block.Hosts arch layout limit) (working body team) :=
  .forM team fun member among => keeps_onHosted (workers member (below member among)).keeps

/-- **A region from its bodies on** leaves the settings alone. -/
theorem ends_closing (decision : TeamDecision) (team : List Nat) :
    Ends (closing decision team) s
      (fun size t => t.hosted.block.Hosts arch layout limit ∧
        t.hosted.block.settings = s.hosted.block.settings ∧ size = decision.size)
      fun _ _ => True := by
  have leaves (settings : Settings) (lane : Nat) :
      Keeps (fun block => block.Hosts arch layout limit ∧ block.settings = settings)
        (Block.exitRegion lane) := by
    rintro block ⟨h, rfl⟩
    exact Block.effect_exitRegion.mono
      (fun _ _ effect => ⟨h.effect effect, h.settings_of_effect effect rfl⟩)
      fun _ _ effect => ⟨h.effect effect, h.settings_of_effect effect rfl⟩
  rw [closing, ends_bind]
  refine (Keeps.forM team (fun lane _ => keeps_onBlock (leaves _ lane)) s ⟨h, rfl⟩).mono ?_
    fun _ _ _ => trivial
  rintro _ t ⟨hosts, same⟩
  exact ⟨hosts, same, rfl⟩

/-- **One region.** Its size is the one that the settings before it come to. If its bodies spare the
settings, only the clause is spent. -/
theorem ends_parallel_sized {lane : Nat} (found : layout.masterLane = .ok lane)
    {body : RegionBody ω}
    (workers : ∀ member, member < lane → Region.OnWorkers lane (body member))
    (spared : bodiesSpare body s = true) :
    Ends (parallel body) s
      (fun size t => t.hosted.block.Hosts arch layout limit ∧
        t.hosted.block.settings = { s.hosted.block.settings with clause := 0 } ∧
        ∃ decision,
          arch.sizeTeam ⟨s.hosted.block.settings.clause, s.hosted.block.settings.nthreads, limit,
            layout.master⟩ = .ok decision ∧ size = decision.size)
      fun _ _ => True := by
  rw [parallel_eq_opening, ends_bind]
  refine ((ends_run opening s).and (ends_opening h found)).mono ?_ fun _ _ _ => trivial
  rintro ⟨decision, team⟩ t ⟨opened, hosts, below, sized, spent⟩
  -- of the bodies nothing is known but that they spare the settings
  rw [ends_bind]
  refine ((ends_run (working body team) t).and (keeps_working workers below t hosts)).mono ?_
    fun _ _ _ => trivial
  rintro _ u ⟨worked, hosts⟩
  have same : u.hosted.block.settings = t.hosted.block.settings := by
    simpa only [bodiesSpare, opened, worked, decide_eq_true_eq] using spared
  refine (ends_closing hosts decision team).mono ?_ fun _ _ _ => trivial
  rintro size v ⟨hosts, unchanged, rfl⟩
  exact ⟨hosts, (unchanged.trans same).trans spent, decision, sized, rfl⟩

variable (generic : layout.mode = .generic)

include generic

theorem ends_pushThreads_settings (count : Nat) :
    Ends (pushThreads count) s
      (fun _ t => t.hosted.block.Hosts arch layout limit ∧
        t.hosted.block.settings = { s.hosted.block.settings with clause := count })
      fun _ _ => True := by
  rw [pushThreads, ends_bind]
  refine ends_lane.mono ?_ fun _ _ stopped => stopped
  rintro master s ⟨found, rfl⟩
  rw [ends_onBlock]
  refine (Block.effect_perform h.initialized (.pushThreads master count)).mono ?_
    fun _ _ _ => trivial
  intro _ after effect
  refine ⟨h.effect effect, ?_⟩
  obtain ⟨stackOf, stacked⟩ := h.stacked
  cases effect with
  | @hinted _ tid _ owns =>
    obtain rfl := eq_zero_of_owns owns found (h.layout ▸ generic)
    have self :
        (s.hosted.block.state.modifyThread 0 ({ · with pendingThreads := count })).thread 0 =
          { s.hosted.block.state.thread 0 with pendingThreads := count } :=
      BlockState.thread_modifyThread_self (stacked.lt_threads (stacked.lt_of_owns owns))
    rw [Block.settings, self]
    rfl

/-- The master sets the threads of the frame it stands on. -/
theorem ends_setThreads_settings (count : Nat) :
    Ends (setThreads count) s
      (fun _ t => t.hosted.block.Hosts arch layout limit ∧
        ((s.hosted.block.state.thread 0).top = some baseId →
          t.hosted.block.settings = { s.hosted.block.settings with nthreads := count }))
      fun _ _ => True := by
  rw [setThreads, ends_bind]
  refine ends_lane.mono ?_ fun _ _ stopped => stopped
  rintro master s ⟨found, rfl⟩
  rw [ends_onBlock]
  refine (Block.effect_perform h.initialized (.setThreads master count)).mono ?_
    fun _ _ _ => trivial
  intro _ after effect
  refine ⟨h.effect effect, fun outside => ?_⟩
  obtain ⟨frame, stored, -⟩ := Option.map_eq_some_iff.1 h.limit
  cases effect with
  | requested owns stands =>
    obtain rfl := eq_zero_of_owns owns found (h.layout ▸ generic)
    rw [outside, Option.some.injEq] at stands
    subst stands
    rw [Block.settings, BlockState.arena_modifyFrame, FrameArena.get?_modify_self, stored]
    rfl

/-- **One call of the master**: the settings before it come to its size and, after it, to the sizes
of the later regions. -/
theorem ends_call {lane : Nat} (found : layout.masterLane = .ok lane) {call : MasterCall ω}
    (workers : (KernelStep.master call).OnWorkers lane) (spared : spares s call = true) :
    Ends call.perform s
      (fun size t => t.hosted.block.Hosts arch layout limit ∧ ∀ requests sizes,
        arch.sizesOf limit layout.master t.hosted.block.settings requests = .ok sizes →
        arch.sizesOf limit layout.master s.hosted.block.settings (call.request :: requests) =
          .ok (size.toList ++ sizes))
      fun _ _ => True := by
  cases call with
  | pushThreads count =>
    rw [MasterCall.perform, ends_bind]
    refine (ends_pushThreads_settings h generic count).mono ?_ fun _ _ _ => trivial
    rintro _ t ⟨hosts, settings⟩
    refine ⟨hosts, fun requests sizes later => ?_⟩
    rw [settings] at later
    exact later
  | setThreads count =>
    rw [spares, decide_eq_true_eq] at spared
    rw [MasterCall.perform, ends_bind]
    refine (ends_setThreads_settings h generic count).mono ?_ fun _ _ _ => trivial
    rintro _ t ⟨hosts, settings⟩
    refine ⟨hosts, fun requests sizes later => ?_⟩
    rw [settings spared] at later
    exact later
  | parallel body =>
    rw [MasterCall.perform, ends_bind]
    refine (ends_parallel_sized h found workers spared).mono ?_ fun _ _ _ => trivial
    rintro _ t ⟨hosts, settings, decision, sized, rfl⟩
    refine ⟨hosts, fun requests sizes later => ?_⟩
    rw [settings] at later
    show (do
      let decision ← arch.sizeTeam _
      let sizes ← arch.sizesOf _ _ _ requests
      return decision.size :: sizes) = _
    rw [sized, later]
    rfl

end Step

/-- **A discreet run** has the sizes that its first settings and the master's calls come to. -/
theorem sizes_eq_sizesOf {lane : Nat} (generic : layout.mode = .generic)
    (found : layout.masterLane = .ok lane) (steps : List (KernelStep ω))
    (workers : ∀ step ∈ steps, step.OnWorkers lane) :
    ∀ {left : Settings} {s : Master ω}, s.hosted.block.Hosts arch layout limit →
      discreet left steps s = true →
      Ends (sizes steps) s
        (fun sizes _ => arch.sizesOf limit layout.master left (requests steps) = .ok sizes)
        fun _ _ => True := by
  -- by induction on the steps left; the settings are those that the last call has left, which the
  -- workers may change until the next one
  induction steps with
  | nil => exact fun _ _ => rfl
  | cons step steps ih =>
    intro left s h quiet
    have others {left : Settings} {s : Master ω} :=
      @ih (fun step later => workers step (List.mem_cons_of_mem _ later)) left s
    have mine := workers step List.mem_cons_self
    rw [sizes, ends_bind]
    cases step with
    | workers step =>
      rw [KernelStep.perform, ends_bind]
      refine ((ends_run (onHosted step) s).and
        (keeps_onHosted (Region.OnWorkers.keeps mine) s h)).mono ?_ fun _ _ _ => trivial
      rintro _ t ⟨performed, hosts⟩
      rw [discreet, performed] at quiet
      rw [ends_pure, ends_bind]
      exact (others hosts quiet).mono (fun _ _ later => later) fun _ _ _ => trivial
    | master call =>
      rw [discreet, Bool.and_eq_true, Bool.and_eq_true, decide_eq_true_eq] at quiet
      obtain ⟨⟨rfl, spared⟩, quiet⟩ := quiet
      rw [KernelStep.perform]
      refine ((ends_run call.perform s).and (ends_call h generic found mine spared)).mono ?_
        fun _ _ _ => trivial
      rintro size t ⟨performed, hosts, advance⟩
      rw [performed] at quiet
      rw [ends_bind]
      exact (others hosts quiet).mono (fun sizes _ later => advance (requests steps) sizes later)
        fun _ _ _ => trivial

theorem sizes?_eq_sizesOf {lane : Nat} (generic : layout.mode = .generic)
    (found : layout.masterLane = .ok lane) {steps : List (KernelStep ω)}
    (workers : ∀ step ∈ steps, step.OnWorkers lane)
    (h : s.hosted.block.Hosts arch layout limit)
    (quiet : discreet s.hosted.block.settings steps s = true) {all : List Nat}
    (ran : sizes? steps s = some all) :
    arch.sizesOf limit layout.master s.hosted.block.settings (requests steps) = .ok all := by
  have ends := sizes_eq_sizesOf generic found steps workers h quiet
  unfold Ends at ends
  unfold sizes? at ran
  split at ran
  · next ended =>
    cases ran
    rw [ended] at ends
    exact ends
  · cases ran

/-- **The workers' influence.** Two runs of generic kernels on the same new block, with the same
calls of the master and whatever done on worker lanes, in the bodies of regions and between them. If
both run to their end, and in both the workers leave as they found it what the master's calls use,
then all regions have the same sizes. -/
theorem sizes_eq {ω' : Type} {config : LaunchConfig} {block : Block} {lane : Nat}
    (created : Block.create arch .generic config = .ok block)
    (found : block.layout.masterLane = .ok lane) {host : ω} {host' : ω'}
    {barrier barrier' : Barrier}
    {steps : List (KernelStep ω)} {steps' : List (KernelStep ω')}
    (workers : ∀ step ∈ steps, step.OnWorkers lane)
    (workers' : ∀ step ∈ steps', step.OnWorkers lane) (same : requests steps = requests steps')
    (quiet : discreet block.settings steps
      ⟨⟨block, host⟩, barrier, [], 0, config.fullRuntime⟩ = true)
    (quiet' : discreet block.settings steps'
      ⟨⟨block, host'⟩, barrier', [], 0, config.fullRuntime⟩ = true)
    {all all' : List Nat}
    (ran : sizes? steps ⟨⟨block, host⟩, barrier, [], 0, config.fullRuntime⟩ = some all)
    (ran' : sizes? steps' ⟨⟨block, host'⟩, barrier', [], 0, config.fullRuntime⟩ = some all') :
    all = all' := by
  have hosts := Block.hosts_of_create created found
  have generic : block.layout.mode = .generic := by
    obtain ⟨size, -, rfl⟩ := Block.eq_of_create created hosts.initialized
    rfl
  have expected := sizes?_eq_sizesOf generic found workers hosts quiet ran
  have expected' := sizes?_eq_sizesOf generic found workers' hosts quiet' ran'
  rw [same] at expected
  exact Except.ok.inj (expected.symm.trans expected')

/-- The state that the sequential part of a kernel on `threePairs` starts from. -/
def start : Master Unit := ⟨⟨threePairs, ()⟩, ⟨#[]⟩, [], 0, true⟩

/-- A call on a lane. -/
def call (op : Operation) : RegionM Unit Unit := Hosted.onBlock op.perform

/-- Worker 3 is in a serialized region while the master has a region run without it, whose members
set the threads of their own regions. Then worker 3 sets the threads of the outermost frame and sets
them back, and each member of a second region goes into a nested one that it has pushed a clause
for. -/
def busy : List (KernelStep Unit) :=
  [.workers (call (.beginSerial 3)), .master (.pushThreads 3),
    .master (.parallel fun lane => call (.setThreads lane 9)), .workers (call (.endSerial 3)),
    .master (.setThreads 2), .workers (call (.setThreads 3 1)), .workers (call (.setThreads 3 2)),
    .master (.parallel fun lane => do
      call (.pushThreads lane 5)
      Region.nested lane fun _ => pure ())]

/-- The same calls of the master, and nothing done on worker lanes. -/
def idle (steps : List (KernelStep Unit)) : List (KernelStep Unit) :=
  (requests steps).map fun
    | .pushThreads count => .master (.pushThreads count)
    | .setThreads count => .master (.setThreads count)
    | .parallel => .master (.parallel fun _ => pure ())

theorem onWorkers_idle (steps : List (KernelStep Unit)) :
    ∀ step ∈ idle steps, step.OnWorkers 4 := by
  intro step member
  obtain ⟨request, -, rfl⟩ := List.mem_map.1 member
  cases request with
  | parallel => exact fun member _ => .observe fun s => rfl
  | _ => trivial

theorem onWorkers_call {op : Operation} {lane : Nat} (same : op.lane? = some lane)
    (below : lane < 4) : Region.OnWorkers 4 (call op) :=
  .call op fun _ other => Option.some.inj (same.symm.trans other) ▸ below

theorem sizes_eq_busy :
    ∃ all, sizes? busy start = some all ∧ sizes? (idle busy) start = some all := by
  have workers : ∀ step ∈ busy, step.OnWorkers 4 := by
    simp only [busy, List.forall_mem_cons, List.not_mem_nil, false_imp_iff, implies_true, and_true,
      KernelStep.OnWorkers, true_and]
    refine ⟨onWorkers_call rfl (by decide), fun member below => onWorkers_call rfl below,
      onWorkers_call rfl (by decide), onWorkers_call rfl (by decide),
      onWorkers_call rfl (by decide), fun member below => ?_⟩
    exact .bind (onWorkers_call rfl below) fun _ => .nested below (.observe fun s => rfl)
  have created : Block.create pairs .generic { grid := .line 1, block := .line 6 } =
    .ok threePairs := rfl
  obtain ⟨all, ran⟩ := Option.isSome_iff_exists.1 (by decide +kernel : (sizes? busy start).isSome)
  obtain ⟨all', ran'⟩ :=
    Option.isSome_iff_exists.1 (by decide +kernel : (sizes? (idle busy) start).isSome)
  have same : all = all' := sizes_eq created rfl workers (onWorkers_idle busy) rfl
    (by decide +kernel) (by decide +kernel) ran ran'
  exact ⟨all, ran, same ▸ ran'⟩

/-- Every member pushes a clause for a nested region that does not come, and that of worker 0 is
left for the master. -/
def leftClause : List (KernelStep Unit) :=
  [.master (.parallel fun lane => call (.pushThreads lane 2)), .master (.parallel fun _ => pure ())]

/-- An idle worker sets its threads on the frame that the master stands on. -/
def idleThreads : List (KernelStep Unit) :=
  [.workers (call (.setThreads 3 2)), .master (.parallel fun _ => pure ())]

/-- The master sets its threads on the frame of a serialized region of worker 0. -/
def lostThreads : List (KernelStep Unit) :=
  [.workers (call (.beginSerial 0)), .master (.setThreads 2), .workers (call (.endSerial 0)),
    .master (.parallel fun _ => pure ())]

/-- What is done on worker lanes changes the size of a region. -/
def Sways (steps : List (KernelStep Unit)) : Prop :=
  (∀ step ∈ steps, step.OnWorkers 4) ∧ requests (idle steps) = requests steps ∧
    ∃ all all', sizes? steps start = some all ∧ sizes? (idle steps) start = some all' ∧ all ≠ all'

/-- **The workers can influence the sizes**, through the clause of thread 0, the requested threads
of the outermost frame, and the top of thread 0. -/
theorem not_sizes_eq : Sways leftClause ∧ Sways idleThreads ∧ Sways lostThreads := by
  refine ⟨⟨?_, rfl, [4, 2], [4, 4], ?_⟩, ⟨?_, rfl, [2], [4], ?_⟩, ⟨?_, rfl, [4], [2], ?_⟩⟩
  · simp only [leftClause, List.forall_mem_cons, List.not_mem_nil, false_imp_iff, implies_true,
      and_true, KernelStep.OnWorkers]
    exact ⟨fun member below => onWorkers_call rfl below, fun member _ => .observe fun s => rfl⟩
  · decide +kernel
  · simp only [idleThreads, List.forall_mem_cons, List.not_mem_nil, false_imp_iff, implies_true,
      and_true, KernelStep.OnWorkers]
    exact ⟨onWorkers_call rfl (by decide), fun member _ => .observe fun s => rfl⟩
  · decide +kernel
  · simp only [lostThreads, List.forall_mem_cons, List.not_mem_nil, false_imp_iff, implies_true,
      and_true, KernelStep.OnWorkers, true_and]
    exact ⟨onWorkers_call rfl (by decide), onWorkers_call rfl (by decide),
      fun member _ => .observe fun s => rfl⟩
  · decide +kernel

end Master

end RegionDispatch
