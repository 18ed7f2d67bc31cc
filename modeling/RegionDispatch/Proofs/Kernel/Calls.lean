import RegionDispatch.Proofs.Block.Control
import RegionDispatch.Proofs.Block.Effects
import RegionDispatch.Proofs.Convergent.Loop
import RegionDispatch.Proofs.Convergent.Sources

/-! # What a program can do to its block

The bodies of a kernel and its sequential part may make any call of the runtime, on any lane and in
any order, and go on after a refusal. They can spoil the frames and the board, but the layout of the
block and its full runtime stay as they are.

* **`Region.Calls`** — steps that are put together from calls of the runtime.
* **`Region.Calls.keeps`** — such a step keeps the block in shape, however it ends. -/

namespace RegionDispatch

open Dispatch

namespace Block

variable {layout : BlockLayout} {runtime returned : Bool} {block after : Block} {op : Operation}

/-- A block of this layout, with or without the full runtime. -/
structure Shaped (layout : BlockLayout) (runtime : Bool) (block : Block) : Prop where
  layout : block.layout = layout
  initialized : block.initialized = runtime

theorem Shaped.effect (h : Shaped layout runtime block) (effect : Effect block op returned after) :
    Shaped layout runtime after :=
  ⟨effect.layout.trans h.layout, effect.initialized.trans h.initialized⟩

theorem keeps_shaped_onState (f : BlockState → BlockState) :
    Keeps (Shaped layout runtime) (onState f) :=
  Keeps.modify fun _ h => { h with }

theorem keeps_shaped_tally (count : Counters → Except Fault Counters) :
    Keeps (Shaped layout runtime) (tally count) :=
  Keeps.get.bind fun _ => (Keeps.checked _).bind fun _ => .modify fun _ h => { h with }

theorem keeps_shaped_prepareRegion (lane : Nat) (work : WorkHandle) (fullRuntime : Bool) :
    Keeps (Shaped layout runtime) (prepareRegion lane work fullRuntime) := fun _ h =>
  (effect_prepareRegion work fullRuntime).mono (fun _ _ done => h.effect done.2) fun _ _ => h.effect

theorem keeps_shaped_enterRegion (lane : Nat) (fullRuntime : Bool) :
    Keeps (Shaped layout runtime) (enterRegion lane fullRuntime) := fun _ h =>
  (effect_enterRegion fullRuntime).mono (fun _ _ done => h.effect done.2) fun _ _ => h.effect

theorem keeps_shaped_exitRegion (lane : Nat) : Keeps (Shaped layout runtime) (exitRegion lane) :=
  fun _ h => effect_exitRegion.mono (fun _ _ => h.effect) fun _ _ => h.effect

theorem keeps_shaped_beginSerial (lane : Nat) :
    Keeps (Shaped layout runtime) (beginSerial lane) := by
  refine (keeps_threadOf lane).bind fun tid => (keeps_shaped_tally _).bind fun _ =>
    Keeps.get.bind fun block => Keeps.ite ?_ ?_
  · exact (Keeps.granted _).bind fun _ => (Keeps.granted _).bind fun _ => keeps_shaped_onState _
  · exact (Keeps.checked _).bind fun _ => keeps_shaped_onState _

theorem keeps_shaped_endSerial (lane : Nat) : Keeps (Shaped layout runtime) (endSerial lane) := by
  have unparks (tid : Nat) : Keeps (Shaped layout runtime) (unparkLoop tid) := by
    refine Keeps.get.bind fun _ => (Keeps.granted _).bind fun _ =>
      (Keeps.granted _).bind fun _ => ?_
    split
    · exact .pure _
    · exact keeps_shaped_onState _
  refine (keeps_threadOf lane).bind fun tid => Keeps.get.bind fun block => Keeps.ite ?_ ?_
  · exact (Keeps.granted _).bind fun _ => (Keeps.refuseIf _ _).bind fun _ =>
      (Keeps.granted _).bind fun _ => (keeps_shaped_onState _).bind fun _ => unparks tid
  · exact (Keeps.refuseIf _ _).bind fun _ => keeps_shaped_onState _

/-- **No call changes the shape of a block**, whatever its frames and threads are. -/
theorem keeps_shaped_perform (op : Operation) : Keeps (Shaped layout runtime) op.perform := by
  have hints (lane : Nat) (f : Nat → BlockState → BlockState) :
      Keeps (Shaped layout runtime) (do onState (f (← threadOf lane))) :=
    (keeps_threadOf lane).bind fun _ => keeps_shaped_onState _
  cases op with
  | prepareRegion lane work fullRuntime =>
    exact (keeps_shaped_prepareRegion lane work fullRuntime).bind fun _ => .pure _
  | enterRegion lane fullRuntime =>
    exact (keeps_shaped_enterRegion lane fullRuntime).bind fun _ => .pure _
  | exitRegion lane => exact keeps_shaped_exitRegion lane
  | signalShutdown lane =>
    exact Keeps.get.bind fun _ => (Keeps.checked _).bind fun _ => (Keeps.refuseIf _ _).bind fun _ =>
      .modify fun _ h => { h with }
  | beginSerial lane => exact keeps_shaped_beginSerial lane
  | endSerial lane => exact keeps_shaped_endSerial lane
  | setThreads lane count =>
    refine (keeps_threadOf lane).bind fun _ => Keeps.get.bind fun _ => Keeps.ite ?_ (.pure _)
    exact (Keeps.granted _).bind fun _ => (Keeps.granted _).bind fun _ => keeps_shaped_onState _
  | setLoop lane loop => exact hints lane _
  | pushThreads lane count => exact hints lane _
  | pushSimd lane limit => exact hints lane _
  | requestTeams => exact .reject _
  | bindProcs => exact .pure _

theorem keeps_shaped_beginNested (lane : Nat) :
    Keeps (Shaped layout runtime) (Region.beginNested lane) :=
  (keeps_threadOf lane).bind fun _ => (keeps_shaped_onState _).bind fun _ =>
    keeps_shaped_beginSerial lane

theorem keeps_shaped_exit (construct : Construct) (hwLane : Nat) (job : Job) :
    Keeps (Shaped layout runtime) (Convergent.exit construct hwLane job) := by
  intro block h
  refine (effect_exit construct job).mono ?_ ?_
  · rintro _ _ ⟨tid, saved, -, -, rfl⟩
    exact { h with }
  · rintro _ _ (rfl | ⟨tid, -, rfl⟩) <;> exact { h with }

end Block

namespace Convergent

variable {layout : BlockLayout} {runtime : Bool}

theorem seatable_shaped : Seatable fun entry => entry.block.Shaped layout runtime :=
  ⟨fun _ _ _ h => h, fun _ _ _ h => { h with }, fun _ _ _ _ h => { h with }⟩

theorem keeps_shaped_onBlock {α : Type} {step : Dispatch Block α}
    (keeps : Keeps (Block.Shaped layout runtime) step) :
    Keeps (fun entry => entry.block.Shaped layout runtime) (onBlock step) := by
  intro entry h
  rw [onBlock, ends_zoom]
  exact keeps _ h

theorem keeps_shaped_formTeam (construct : Construct) (warp : Warp) (mask : LaneMask) :
    Keeps (fun entry => entry.block.Shaped layout runtime) (formTeam construct warp mask) := by
  refine Keeps.get.bind fun entry => (Keeps.refuseIf _ _).bind fun _ => ?_
  dsimp only
  split
  · exact .reject _
  · refine (keeps_shaped_onBlock ?_).bind fun seats => ?_
    · exact fun block h =>
        (ends_seats _).mono (fun _ _ done => done.2 ▸ h) fun _ _ same => same ▸ h
    split
    · exact .reject _
    · refine (keeps_shaped_onBlock (Block.keeps_shaped_onState _)).bind fun _ => Keeps.bind ?_
        fun _ => (keeps_shaped_onBlock (Block.keeps_shaped_tally _)).bind fun _ => .pure _
      exact fun _ h => h

/-- Entering a convergent region keeps the shape, whether or not it is refused. -/
theorem keeps_shaped_enter (construct : Construct) (warp : Warp) (mask : LaneMask) :
    Keeps (fun entry => entry.block.Shaped layout runtime) (enter construct warp mask) := by
  refine Keeps.get.bind fun _ => (Keeps.refuseIf _ _).bind fun _ =>
    (keeps_shaped_formTeam construct warp mask).bind fun formation => fun entry h => ?_
  rw [ends_bind]
  refine (seatable_shaped.ends_joiner formation h).mono ?_ fun _ _ kept => kept
  rintro join joining ⟨ready, joins⟩
  exact ((seatable_shaped.keeps_takeSeats warp.width joins _).bind fun _ => .pure _) _ ready

end Convergent

namespace Region

variable {ω α : Type}

/-- **Steps that a program can take**: calls of the runtime on any lanes, as a program puts them
together. The cursor and the jobs of a convergent region are the program's own data. -/
inductive Calls : {α : Type} → RegionM ω α → Prop
  /-- Reading the block, and any use of the program's own data. -/
  | observe {α : Type} {step : RegionM ω α}
      (reads : ∀ s, Ends step s (fun _ t => t.block = s.block) fun _ t => t.block = s.block) :
      Calls step
  /-- A call outside convergent regions. -/
  | call (op : Operation) : Calls (Hosted.onBlock op.perform)
  /-- Posting a region, with the sizing decision as its value. -/
  | prepareRegion (lane : Nat) (work : WorkHandle) (fullRuntime : Bool) :
      Calls (Hosted.onBlock (Block.prepareRegion lane work fullRuntime))
  /-- A look at the board, with what the worker is told as its value. -/
  | enterRegion (lane : Nat) (fullRuntime : Bool) :
      Calls (Hosted.onBlock (Block.enterRegion lane fullRuntime))
  /-- A parallel construct reached inside a region. -/
  | nested (lane : Nat) {body : RegionBody ω} (inner : Calls (body lane)) : Calls (nested lane body)
  /-- A group enters a convergent region with a cursor and jobs that `cursor` and `jobs` find in the
  program's data and `store` puts back, also where the entry is refused. -/
  | enter (construct : Construct) (warp : Warp) (mask : LaneMask) (cursor : ω → Nat)
      (jobs : ω → Array Job) (store : Nat → Array Job → ω → ω) :
      Calls (zoom (fun s => (⟨s.block, cursor s.host, jobs s.host⟩, s.host))
        (fun entry host => ⟨entry.block, store entry.cursor entry.jobs host⟩)
        (Convergent.enter construct warp mask))
  /-- A lane leaves a convergent region. -/
  | exit (construct : Construct) (hwLane : Nat) (job : Job) :
      Calls (Hosted.onBlock (Convergent.exit construct hwLane job))
  /-- A fence of one warp. -/
  | fence : Calls (Hosted.onBlock Block.fence)
  /-- A whole convergent loop. -/
  | loop (construct : Construct) (warp : Warp) (mask : LaneMask)
      {body : Team → Member → RegionM ω Unit}
      (inner : ∀ team member, Calls (body team member)) :
      Calls (Convergent.loop construct warp mask body)
  | attempt {α : Type} {step : RegionM ω α} (tried : Calls step) : Calls (attempt step)
  | bind {α β : Type} {step : RegionM ω α} {next : α → RegionM ω β} (first : Calls step)
      (second : ∀ a, Calls (next a)) : Calls (step >>= next)

/-- What a nested region keeps. -/
theorem keeps_nested {P : Block → Prop} {lane : Nat} {body : RegionBody ω}
    (begins : Keeps P (beginNested lane)) (inner : Keeps (fun s => P s.block) (body lane))
    (leaves : Keeps P (Block.endSerial lane)) :
    Keeps (fun s : Hosted ω => P s.block) (nested lane body) :=
  (Hosted.keeps_onBlock begins).bind fun _ => inner.attempt.bind fun _ =>
    (Hosted.keeps_onBlock leaves).bind fun _ => .granted _

/-- **A program keeps its block in shape**, however it ends. -/
theorem Calls.keeps {layout : BlockLayout} {runtime : Bool} {step : RegionM ω α}
    (calls : Calls step) : Keeps (fun s => s.block.Shaped layout runtime) step := by
  -- by induction on how the step is put together
  induction calls with
  | observe reads =>
    intro s h
    have kept (t : Hosted ω) (same : t.block = s.block) : t.block.Shaped layout runtime := same ▸ h
    exact (reads s).mono (fun _ => kept) fun _ => kept
  | call op => exact Hosted.keeps_onBlock (Block.keeps_shaped_perform op)
  | prepareRegion lane work fullRuntime =>
    exact Hosted.keeps_onBlock (Block.keeps_shaped_prepareRegion lane work fullRuntime)
  | enterRegion lane fullRuntime =>
    exact Hosted.keeps_onBlock (Block.keeps_shaped_enterRegion lane fullRuntime)
  | nested lane inner ih =>
    exact keeps_nested (Block.keeps_shaped_beginNested lane) ih
      (Block.keeps_shaped_endSerial lane)
  | enter construct warp mask cursor jobs store =>
    intro s h
    rw [ends_zoom]
    exact Convergent.keeps_shaped_enter construct warp mask _ h
  | exit construct hwLane job =>
    exact Hosted.keeps_onBlock (Block.keeps_shaped_exit construct hwLane job)
  | fence => exact Hosted.keeps_onBlock (Block.keeps_shaped_tally _)
  | loop construct warp mask inner ih =>
    refine Convergent.keeps_rounds_of (fun cursor jobs => ?_)
      (Hosted.keeps_onBlock (Block.keeps_shaped_tally _)) ih
      (fun hwLane job => Hosted.keeps_onBlock (Block.keeps_shaped_exit construct hwLane job)) _ _ _
        _
    -- an entry of the loop keeps its cursor and jobs to itself
    refine Hosted.keeps_onBlock fun block h => ?_
    rw [ends_embed, ends_bind]
    exact Convergent.keeps_shaped_enter construct warp mask _ h
  | attempt tried ih => exact ih.attempt
  | bind first second ihFirst ihSecond => exact ihFirst.bind ihSecond

end Region

end RegionDispatch
