import RegionDispatch.Proofs.Block.Create
import RegionDispatch.Proofs.Convergent.Guarded

/-! # Programs on a block

A program may make any call of the runtime, on any lanes, with any masks, cursors and jobs, and go
on after a refusal. It runs the same on a runtime that guards its accesses, so on a new block
nothing is indexed out of its range, no difference is negative and no divisor is zero.

* **`BlockProgram`** — a program, put together from calls and its own work.
* `Runtime.plain`, `Runtime.guarded` — the calls as they are, and with their accesses guarded.
* `Block.exists_create_intact` — a new block is intact.
* `BlockProgram.safe` — on an intact block a program passes all guards.
* **`BlockProgram.run_without_fault`** — what that means for a new block: a program is halted at
  most by its 2³²-th event. -/

namespace RegionDispatch

open Dispatch

/-! ## New blocks -/

namespace BlockState

variable {count tid : Nat} {state : BlockState} {initial : Frame}

/-- Nothing was done yet: the free list is sound and no thread is in a region. -/
structure Fresh (state : BlockState) : Prop where
  sound : state.arena.Sound
  idle : ∀ tid, (state.thread tid).openRegions = 0

/-- A number outside the block stands for a fresh thread. -/
theorem openRegions_thread_eq_zero (each : ∀ thread ∈ state.threads, thread.openRegions = 0)
    (tid : Nat) : (state.thread tid).openRegions = 0 := by
  rw [thread]
  cases found : state.threads[tid]? with
  | none => rfl
  | some thread => exact each thread (Array.mem_of_getElem? found)

theorem fresh_simple : (simple count).Fresh where
  sound := sound_of_full fun i => by simp
  idle := openRegions_thread_eq_zero fun thread among => by
    rw [(Array.mem_replicate.1 among).2]

theorem fresh_withStacks : (withStacks count initial).Fresh where
  sound := sound_withStacks
  idle := openRegions_thread_eq_zero fun thread among => by
    obtain ⟨tid, -, rfl⟩ := Array.mem_map.1 among
    rfl

theorem fresh_spmd : (spmd count initial).Fresh where
  sound := sound_spmd
  idle := openRegions_thread_eq_zero fun thread among => by
    obtain ⟨tid, -, rfl⟩ := Array.mem_map.1 among
    rfl

theorem fresh_initialState (mode : ExecMode) (config : LaunchConfig) :
    (Block.initialState mode count config).Fresh :=
  match mode with
  | .generic => fresh_withStacks
  | .spmd => fresh_spmd

end BlockState

namespace Block

variable {arch : Arch} {mode : ExecMode} {config : LaunchConfig} {size : Nat}

/-- **A block is created intact**, in both modes and with or without the full runtime. -/
theorem exists_create_intact (valid : arch.isValid = true) (sized : config.blockSize = .ok size) :
    ∃ block, create arch mode config = .ok block ∧ block.Intact := by
  have device := Arch.width_pos_of_isValid valid
  unfold create
  rw [sized]
  have fresh : BlockState.Fresh (if config.fullRuntime || mode == .generic then
      initialState mode size config else .simple size) := by
    split
    · exact BlockState.fresh_initialState mode config
    · exact BlockState.fresh_simple
  exact ⟨_, rfl, device, device, fresh.sound, fun tid => Nat.le_of_eq (fresh.idle tid)⟩

end Block

namespace Convergent

/-- Entering passes all guards however many jobs there are. -/
theorem guards_enter_any {warp : Warp} (fits : warp.Fits) (construct : Construct)
    (mask : LaneMask) :
    Guards (fun entry => entry.block.Intact) (fun entry => entry.block.counters.Full) Any
      (guardedEnter construct warp mask) (enter construct warp mask) := by
  intro entry h
  obtain ⟨same, ends⟩ := guards_enter (n := entry.jobs.size) fits construct mask entry ⟨h, rfl⟩
  exact ⟨same, ends.mono (fun _ _ done => ⟨done.1.block, trivial⟩) fun _ _ stop =>
    ⟨stop.1.block, stop.2⟩⟩

end Convergent

/-! ## Programs -/

/-- What a program can use of the runtime. -/
structure Runtime (ω : Type) where
  /-- A call outside convergent regions. -/
  call : ∀ {α : Type}, Call α → Dispatch Block α
  /-- A group enters a convergent region. -/
  enter : Construct → Warp → LaneMask → Dispatch Convergent.Entry Team
  /-- A whole convergent loop. -/
  loop : Construct → Warp → LaneMask →
    (Team → Member → RegionM ω Unit) → RegionM ω Nat

namespace Runtime

variable {ω : Type}

/-- The runtime as it is. -/
def plain : Runtime ω where
  call := Call.step
  enter := Convergent.enter
  loop := Convergent.loop

/-- The runtime with its accesses guarded. -/
def guarded : Runtime ω where
  call := Call.guarded
  enter := Convergent.guardedEnter
  loop := Convergent.guardedLoop

end Runtime

/-- A program with data of type `ω`, put together from calls of the runtime. Its warps fit. -/
inductive BlockProgram (ω : Type) : Type → Type 1 where
  /-- The program's own work: it may look at the block and change its data. -/
  | work {α : Type} (f : Block → ω → α × ω) : BlockProgram ω α
  /-- The program fails. -/
  | reject {α : Type} (error : DispatchError) : BlockProgram ω α
  /-- A call outside convergent regions. -/
  | call {α : Type} (made : Call α) : BlockProgram ω α
  /-- A group enters a convergent region with a cursor and jobs that `cursor` and `jobs` find in the
  program's data and `store` puts back, also where the entry is refused. -/
  | enter (construct : Construct) {warp : Warp} (fits : warp.Fits) (mask : LaneMask)
      (cursor : ω → Nat) (jobs : ω → Array Job)
      (store : Nat → Array Job → ω → ω) : BlockProgram ω Team
  /-- A whole convergent loop. -/
  | loop (construct : Construct) {warp : Warp} (fits : warp.Fits) (mask : LaneMask)
      (body : Team → Member → BlockProgram ω Unit) : BlockProgram ω Nat
  /-- A part whose rejection is a value. -/
  | attempt {α : Type} (tried : BlockProgram ω α) : BlockProgram ω (Except DispatchError α)
  /-- One part after the other. -/
  | bind {α β : Type} (first : BlockProgram ω α) (next : α → BlockProgram ω β) : BlockProgram ω β

namespace BlockProgram

variable {ω α : Type}

/-- Runs a program on a runtime. -/
def run (runtime : Runtime ω) {α : Type} : BlockProgram ω α → RegionM ω α
  | work f => fun s => .ok (f s.block s.host).1 { s with host := (f s.block s.host).2 }
  | reject error => Dispatch.reject error
  | call made => Hosted.onBlock (runtime.call made)
  | @enter _ construct warp _ mask cursor jobs store =>
    zoom (fun s => (⟨s.block, cursor s.host, jobs s.host⟩, s.host))
      (fun entry host => ⟨entry.block, store entry.cursor entry.jobs host⟩)
      (runtime.enter construct warp mask)
  | @loop _ construct warp _ mask body =>
    runtime.loop construct warp mask fun team member => (body team member).run runtime
  | attempt tried => Dispatch.attempt (tried.run runtime)
  | bind first next => do (next (← first.run runtime)).run runtime

/-- The events that a run counted, with the one that it was halted at. -/
def events : EStateM.Result Failure (Hosted ω) α → Nat
  | .ok _ s => s.block.counters.events
  | .error (.rejected _) s => s.block.counters.events
  | .error (.halted _) s => s.block.counters.events + 1

/-- **Every program** passes all guards on intact blocks. -/
theorem safe (program : BlockProgram ω α) :
    Hosted.Safe Any (program.run .guarded) (program.run .plain) := by
  -- by induction on how the program is put together
  induction program with
  | work f => exact .self fun s h => ⟨h, trivial⟩
  | reject error => exact .reject error
  | call made => exact Hosted.guards_onBlock made.safe
  | enter construct fits mask cursor jobs store =>
    exact (Convergent.guards_enter_any fits construct mask).zoom (fun _ h => h) (fun _ _ _ h => h)
      fun _ _ full => full
  | loop construct fits mask body ih => exact Convergent.guards_loop fits construct mask ih
  | attempt tried ih => exact ih.attempt
  | bind first next ihFirst ihNext => exact ihFirst.bind fun a _ => ihNext a

/-- **No program faults on a new block** while less than 2³² events happen: nothing is indexed out
of its range, no difference is negative, no divisor is zero and no sum leaves its word. -/
theorem run_without_fault {arch : Arch} {mode : ExecMode} {config : LaunchConfig} {size : Nat}
    (valid : arch.isValid = true) (sized : config.blockSize = .ok size)
    (program : BlockProgram ω α) (host : ω) :
    ∃ block, Block.create arch mode config = .ok block ∧
      program.run .guarded ⟨block, host⟩ = program.run .plain ⟨block, host⟩ ∧
      (∀ fault s, program.run .plain ⟨block, host⟩ = .error (.halted fault) s →
        fault = .addOverflow ∧ s.block.counters.Full) ∧
      (events (program.run .plain ⟨block, host⟩) < UInt32.size →
        ∀ fault s, program.run .plain ⟨block, host⟩ ≠ .error (.halted fault) s) := by
  obtain ⟨block, created, intact⟩ :
      ∃ block, Block.create arch mode config = .ok block ∧ block.Intact :=
    Block.exists_create_intact valid sized
  obtain ⟨same, ends⟩ := program.safe ⟨block, host⟩ intact
  have halts : ∀ fault s, program.run .plain ⟨block, host⟩ = .error (.halted fault) s →
      fault = .addOverflow ∧ s.block.counters.Full := by
    intro fault s run
    rw [ends_of_error run] at ends
    exact ends.2 fault rfl
  refine ⟨block, created, same, halts, fun few fault s run => ?_⟩
  have full := (halts fault s run).2.le_events
  rw [run, events] at few
  omega

/-- The lane numbers of the first warp fit. -/
theorem fits_firstWarp : Warp.Fits ⟨0, 32⟩ := by decide

/-- Its data are the jobs of a warp and how many frames it saw stored. -/
abbrev Kept := Array Job × Nat

/-- The master posts a region that the first worker joins. Two workers then enter a convergent
region, the first one leaves it twice with the same job and once with a job that saved nothing, and
a serialized region takes the frame that came free. -/
def reusing : BlockProgram Kept Unit :=
  .bind (.call (.prepareRegion 32 ⟨1, Nat.one_pos⟩ true)) fun _ =>
  .bind (.call (.enterRegion 0 true)) fun _ =>
  .bind (.enter .parallel fits_firstWarp ⟨3⟩ (fun _ => 0) (·.1)
    fun _ jobs kept => (jobs, kept.2)) fun _ =>
  .bind (.work fun _ kept => (kept.1.getD 0 {}, kept)) fun job =>
  .bind (.call (.exitTeam .parallel 0 job)) fun _ =>
  .bind (.attempt (.call (.exitTeam .parallel 0 job))) fun _ =>
  .bind (.attempt (.call (.exitTeam .parallel 0 {}))) fun _ =>
  .bind (.call (.perform (.beginSerial 0))) fun _ =>
  .bind (.call .liveFrames) fun frames => .work fun _ kept => ((), (kept.1, frames))

/-- Nothing saved or seen yet. -/
def nothingKept : Kept := (Array.replicate 32 {}, 0)

/-- The program is not halted. It returns, and the serialized region took no new place: as many
frames are stored as after the entry. -/
theorem run_without_fault_reusing :
    ∃ block, Block.create .volta .generic { grid := .line 1, block := .line 64 } = .ok block ∧
      reusing.run .guarded ⟨block, nothingKept⟩ = reusing.run .plain ⟨block, nothingKept⟩ ∧
      (∀ fault s, reusing.run .plain ⟨block, nothingKept⟩ ≠ .error (.halted fault) s) ∧
      (reusing.run .plain ⟨block, nothingKept⟩ matches .ok () ⟨_, _, 67⟩) = true := by
  have valid : Arch.volta.isValid = true := by decide
  have sized : LaunchConfig.blockSize { grid := .line 1, block := .line 64 } = .ok 64 := rfl
  obtain ⟨block, created, same, -, unhalted⟩ := run_without_fault valid sized reusing nothingKept
  obtain rfl := Except.ok.inj (created.symm.trans Block.create_twoWarps)
  exact ⟨_, created, same, unhalted (by decide +kernel), by decide +kernel⟩

end BlockProgram

end RegionDispatch
