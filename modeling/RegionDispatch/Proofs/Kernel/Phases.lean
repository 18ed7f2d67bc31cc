import RegionDispatch.Proofs.Block.Barrier
import RegionDispatch.Proofs.Block.Control
import RegionDispatch.Proofs.Block.Protocol
import RegionDispatch.Proofs.Kernel.Calls
import RegionDispatch.Proofs.Kernel.Program

/-! # The phases of a sequential part

The sequential part of a kernel may go on after a region that failed half-way, and may call the
runtime itself on any lane in between. The board and the stacks can then be in any state; still
every region finds the work on the board that it has just posted, and every participating lane is at
the barrier equally often.

* **`Master.Program`** — a sequential part: what the master does next may depend on all answers so
  far, refusals among them.
* **`ParallelCall`**, `Master.Program.calls` — a call of `Master.parallel`, and those that a run
  makes.
* `Master.Steady.ends_posting`, `Master.Steady.ends_serving` — a region up to its first barrier, and
  from there on.
* **`Master.Program.ends_run`** — the barrier is level after every run, and has gone through the
  phases that the calls account for. -/

namespace RegionDispatch

open Dispatch

/-! ## The workers look at the board -/

namespace Block

variable {layout : BlockLayout} {block : Block} {work : WorkHandle}

/-- A worker is told of the region on the board, and leaves the board as it is. -/
theorem Shaped.ends_enterRegion (h : Shaped layout true block)
    (posted : block.board.posted = some work) (lane : Nat) (fullRuntime : Bool) :
    Ends (enterRegion lane fullRuntime) block
      (fun activation t => t.Shaped layout true ∧ t.board = block.board ∧
        activation = if lane < block.board.teamSize then .active work else .idle work)
      fun failure t => t.Shaped layout true ∧ failure.isProtocol = false := by
  refine ((effect_enterRegion fullRuntime).and (blameless_enterRegion lane fullRuntime block)).mono
    ?_ fun _ _ stopped => ⟨h.effect stopped.1, stopped.2⟩
  rintro activation t ⟨⟨answers, effect⟩, -⟩
  refine ⟨h.effect effect, ?_⟩
  cases answers with
  | dismissed retired =>
    rw [retired] at posted
    cases posted
  | idle named beyond =>
    rw [named, Option.some.injEq] at posted
    exact ⟨rfl, posted ▸ (if_neg (Nat.not_lt.2 beyond)).symm⟩
  | active named member =>
    rw [named, Option.some.injEq] at posted
    exact ⟨rfl, posted ▸ (if_pos member).symm⟩

/-- The lanes below the team size join, and all of them find the region that was posted. -/
theorem Shaped.ends_assemble (fullRuntime : Bool) (lanes : List Nat) :
    ∀ {block : Block}, Shaped layout true block → block.board.posted = some work →
      Ends (Master.assemble work fullRuntime lanes) block
        (fun team t => t.Shaped layout true ∧ team = lanes.filter (· < block.board.teamSize))
        fun failure t => t.Shaped layout true ∧ failure.isProtocol = false := by
  -- by induction on the workers still to look; the board stays the same for all of them
  induction lanes with
  | nil => exact fun h _ => ⟨h, rfl⟩
  | cons lane lanes ih =>
    intro block h posted
    rw [Master.assemble, ends_bind]
    refine (h.ends_enterRegion posted lane fullRuntime).mono ?_ fun _ _ stopped => stopped
    rintro _ t ⟨shaped, board, rfl⟩
    have others := ih shaped (board ▸ posted)
    rw [board] at others
    by_cases member : lane < block.board.teamSize
    · simp only [if_pos member, ends_bind, ends_refuseIf, ne_eq, not_true, false_imp_iff,
        not_false_eq_true, true_imp_iff, true_and, ends_pure]
      refine others.mono (fun team u done => ⟨done.1, ?_⟩) fun _ _ stopped => stopped
      rw [done.2, List.filter_cons_of_pos (by simpa using member)]
    · simp only [if_neg member, ends_bind, ends_refuseIf, ne_eq, not_true, false_imp_iff,
        not_false_eq_true, true_imp_iff, true_and]
      rw [List.filter_cons_of_neg (by simpa using member)]
      exact others

end Block

/-! ## One region -/

/-- A call of `Master.parallel`. -/
structure ParallelCall (ω : Type) where
  /-- The body of the region. -/
  body : RegionBody ω
  /-- The state it was called on. -/
  before : Master ω

namespace Master

variable {ω α : Type}

/-- What the master has decided when a region is posted. -/
structure Posting where
  /-- The master's lane. -/
  master : Nat
  /-- The region. -/
  work : WorkHandle
  /-- Whether the launch asks for the full runtime. -/
  fullRuntime : Bool
  /-- The size of its team. -/
  decision : TeamDecision

/-- The beginning of a region, up to the first barrier. -/
def posting : MasterM ω Posting := do
  let master ← lane
  let work ← nextWork
  let fullRuntime := (← get).fullRuntime
  let decision ← onBlock (Block.prepareRegion master work fullRuntime)
  return ⟨master, work, fullRuntime, decision⟩

/-- The region from the first barrier on. -/
def serving (body : RegionBody ω) (posting : Posting) : MasterM ω Nat := do
  sync
  let team ← onBlock (assemble posting.work posting.fullRuntime (List.range posting.master))
  team.forM fun lane => onHosted (body lane)
  team.forM fun lane => onBlock (Block.exitRegion lane)
  sync
  let record : RegionRecord := ⟨posting.decision.size, posting.decision.bound, team⟩
  modify fun s => { s with regions := record :: s.regions }
  return posting.decision.size

theorem parallel_eq (body : RegionBody ω) : parallel body = posting >>= serving body := by
  simp only [parallel, posting, bind_assoc, pure_bind]
  rfl

end Master

namespace ParallelCall

variable {ω : Type}

/-- What came of the call. -/
def answer (call : ParallelCall ω) : MasterAnswer ω :=
  (MasterCall.parallel call.body).answer call.before

/-- The call returned. -/
def finished (call : ParallelCall ω) : Bool := call.answer.result.isOk

/-- The call got as far as its first barrier. -/
def posted (call : ParallelCall ω) : Bool := Master.posting call.before matches .ok _ _

/-- The call failed after its first barrier. -/
def broken (call : ParallelCall ω) : Bool := call.posted && !call.finished

/-- A broken protocol is only reported where a call of the body has reported it. -/
def Honest (call : ParallelCall ω) : Prop :=
  ∀ failure, call.answer.result = .error failure → failure.isProtocol = true →
    ∃ inner ∈ call.answer.calls, ∃ last, inner.result = .error failure last

/-- The phases of the barrier that calls account for. -/
def phases (calls : List (ParallelCall ω)) : Nat := 2 * calls.countP finished + calls.countP broken

theorem phases_append (calls later : List (ParallelCall ω)) :
    phases (calls ++ later) = phases calls + phases later := by
  simp only [phases, List.countP_append]
  omega

end ParallelCall

namespace Master

variable {ω α : Type} {layout : BlockLayout} {fullRuntime : Bool} {n : Nat} {s : Master ω}

/-- **The master between two of its calls**, whatever has failed before: the block is in shape, all
participants have been at the barrier `n` times, and each region on record had the first lanes for
its team. -/
structure Steady (layout : BlockLayout) (fullRuntime : Bool) (n : Nat) (s : Master ω) : Prop where
  block : s.hosted.block.Shaped layout true
  barrier : s.barrier = .level layout.size (layout.master + 1) n
  regions : ∀ record ∈ s.regions, record.lanes = List.range record.size ∧
    record.size ≤ layout.master
  fullRuntime : s.fullRuntime = fullRuntime

/-- What a program does to the block is no concern of the barrier. -/
theorem Steady.withHosted (h : Steady layout fullRuntime n s) (hosted : Hosted ω)
    (shaped : hosted.block.Shaped layout true) : Steady layout fullRuntime n { s with hosted } :=
  { h with block := shaped }

theorem Steady.forget {ρ : Type} {s : Master (ω × ρ)} (h : Steady layout fullRuntime n s) :
    Steady layout fullRuntime n s.forget :=
  { h with }

theorem Steady.withLog {ρ : Type} (h : Steady layout fullRuntime n s) (log : ρ) :
    Steady layout fullRuntime n (s.withLog log) :=
  { h with }

/-- Everyone arrives once more. -/
theorem Steady.sync (h : Steady layout fullRuntime n s) :
    Steady layout fullRuntime (n + 1) { s with barrier := s.barrier.syncAll } :=
  { h with barrier := h.barrier ▸ Barrier.syncAll_level }

theorem keeps_steady_onHosted {step : RegionM ω α}
    (keeps : Keeps (fun s => s.block.Shaped layout true) step) :
    Keeps (Steady layout fullRuntime n) (onHosted step) := by
  intro s h
  rw [ends_onHosted]
  exact (keeps _ h.block).mono (fun _ _ => h.withHosted _) fun _ _ => h.withHosted _

/-- **A region up to its first barrier.** On the board is the work that the master has a handle
for. -/
theorem Steady.ends_posting (h : Steady layout fullRuntime n s) :
    Ends posting s
      (fun posting t => Steady layout fullRuntime n t ∧ posting.master = layout.master ∧
        t.hosted.block.board.posted = some posting.work ∧
        t.hosted.block.board.teamSize = posting.decision.size ∧
        posting.decision.size ≤ layout.master)
      fun failure t => Steady layout fullRuntime n t ∧ failure.isProtocol = false := by
  simp only [posting, ends_bind, lane, ends_get, ends_checked]
  refine ⟨fun master found => ?_, fun _ _ => ⟨h, rfl⟩⟩
  rw [BlockLayout.masterLane_eq (BlockLayout.pos_of_masterLane found), Except.ok.injEq,
    h.block.layout] at found
  subst found
  rcases Nat.lt_or_ge (s.begun + 1) UInt32.size with room | full
  swap
  · rw [ends_of_error (nextWork_of_full full)]
    exact ⟨h, rfl⟩
  rw [ends_of_ok (nextWork_of_room room), ends_onBlock]
  -- what fails before the region is posted is none of the executor's errors
  refine ((Block.effect_prepareRegion _ s.fullRuntime).and
    (Block.blameless_prepareRegion layout.master _ s.fullRuntime _)).mono ?_ ?_
  · rintro decision t ⟨⟨grants, effect⟩, -⟩
    cases grants with
    | posted posts sized some =>
      have fits := Arch.sizeTeam_le sized
      rw [Block.nextRequest, h.block.layout] at fits
      exact ⟨{ h with block := h.block.effect effect }, rfl, rfl, rfl, fits⟩
  · rintro failure t ⟨effect, blameless⟩
    exact ⟨{ h with block := h.block.effect effect }, blameless⟩

/-- Bodies in a row keep the block in shape, and the one that fails is the last one in the log. -/
theorem ends_forM_recorded {body : RegionBody ω}
    (keeps : ∀ lane, Keeps (fun s => s.block.Shaped layout true) (body lane)) (team : List Nat) :
    ∀ {s : Hosted (ω × List (Recorded Nat ω))}, s.block.Shaped layout true →
      Ends (team.forM fun lane => recorded lane (body lane)) s
        (fun _ t => t.block.Shaped layout true)
        fun failure t => t.block.Shaped layout true ∧
          ∃ call ∈ t.host.2, ∃ last, call.result = .error failure last := by
  induction team with
  | nil => exact fun h => h
  | cons lane team ih =>
    intro s h
    rw [forM_cons, ends_bind, ends_recorded]
    refine (keeps lane s.forget h).mono (fun _ t shaped => ih (s := t.withLog _) shaped)
      fun failure t shaped => ⟨shaped, ?_⟩
    rw [Hosted.log_withLog]
    exact ⟨_, List.mem_append_right _ List.mem_cons_self, t, rfl⟩

/-- **A region from its first barrier on.** If it fails, everyone has been at one barrier, else at
two. -/
theorem Steady.ends_serving {s : Master (ω × List (Recorded Nat ω))} {body : RegionBody ω}
    (h : Steady layout fullRuntime n s) {posting : Posting}
    (master : posting.master = layout.master)
    (posted : s.hosted.block.board.posted = some posting.work)
    (size : s.hosted.block.board.teamSize = posting.decision.size)
    (fits : posting.decision.size ≤ layout.master)
    (keeps : ∀ lane, Keeps (fun s => s.block.Shaped layout true) (body lane)) :
    Ends (serving (fun lane => recorded lane (body lane)) posting) s
      (fun _ t => Steady layout fullRuntime (n + 2) t)
      fun failure t => Steady layout fullRuntime (n + 1) t ∧ (failure.isProtocol = true →
        ∃ call ∈ t.hosted.host.2, ∃ last, call.result = .error failure last) := by
  have blameless {failure : Failure} {calls : Prop} (other : failure.isProtocol = false)
      (blames : failure.isProtocol = true) : calls := by
    rw [other] at blames
    cases blames
  have synced := h.sync
  simp only [serving, ends_bind, Master.sync, ends_modify, ends_onBlock, ends_pure]
  refine (h.block.ends_assemble posting.fullRuntime (List.range posting.master) posted).mono ?_
    fun _ _ stopped => ⟨synced.withHosted _ stopped.1, blameless stopped.2⟩
  rintro _ assembled ⟨shaped, rfl⟩
  -- the first lanes are the team
  have team : (List.range posting.master).filter (· < s.hosted.block.board.teamSize) =
      List.range posting.decision.size := by
    rw [master, size, ← List.Ico.zero_bot, List.Ico.filter_lt, Nat.min_eq_right fits,
      List.Ico.zero_bot]
  rw [team, forM_onHosted, ends_onHosted]
  refine (ends_forM_recorded keeps _ shaped).mono ?_
    fun _ _ stopped => ⟨synced.withHosted _ stopped.1, fun _ => stopped.2⟩
  intro _ ran shaped
  rw [forM_onBlock, ends_onBlock]
  have leaves : Keeps (Block.Shaped layout true) ((List.range posting.decision.size).forM
      Block.exitRegion) :=
    .forM _ fun lane _ => Block.keeps_shaped_exitRegion lane
  refine ((leaves _ shaped).and (Blameless.forM Block.blameless_exitRegion _ _)).mono ?_
    fun _ _ stopped => ⟨synced.withHosted _ stopped.1, blameless stopped.2⟩
  rintro _ left ⟨shaped, -⟩
  have twice := (synced.withHosted ⟨left, ran.host⟩ shaped).sync
  refine { twice with regions := fun record member => ?_ }
  rcases List.mem_cons.1 member with rfl | earlier
  · exact ⟨rfl, fits⟩
  · exact h.regions record earlier

theorem forgets_posting {ρ : Type} :
    Forgets forget (posting : MasterM (ω × ρ) Posting) posting :=
  forgets_lane.bind fun _ => forgets_nextWork.bind fun _ => .read fun _ =>
    (forgets_onBlock _).bind fun _ => .pure _

/-- **A region with its bodies on record**, however it ends. -/
theorem Steady.ends_recorded {body : RegionBody ω} (h : Steady layout fullRuntime n s)
    (keeps : ∀ lane, Keeps (fun s => s.block.Shaped layout true) (body lane)) :
    Ends (MasterCall.parallel body).recorded.perform (s.withLog [])
      (fun _ t => Steady layout fullRuntime (n + 2) t)
      fun failure t =>
        Steady layout fullRuntime (n + (ParallelCall.mk body s).posted.toNat) t ∧
          (failure.isProtocol = true →
            ∃ call ∈ t.hosted.host.2, ∃ last, call.result = .error failure last) := by
  rw [MasterCall.recorded, MasterCall.perform, Master.parallel_eq, ends_bind, ends_bind]
  refine ((h.withLog []).ends_posting.and (forgets_posting (s.withLog []))).mono ?_ ?_
  · rintro posting t ⟨⟨ready, master, posted, size, fits⟩, plain⟩
    have plain : Master.posting s = .ok posting _ := plain
    rw [ParallelCall.posted, plain]
    exact ready.ends_serving master posted size fits keeps
  · rintro failure t ⟨⟨ready, other⟩, plain⟩
    have plain : Master.posting s = .error failure _ := plain
    rw [ParallelCall.posted, plain]
    refine ⟨ready, fun protocol => ?_⟩
    rw [other] at protocol
    cases protocol

end Master

namespace ParallelCall

variable {ω : Type} {layout : BlockLayout} {fullRuntime : Bool} {n : Nat}

/-- A call that returned has gone through both barriers. -/
theorem of_answer_ok {call : ParallelCall ω} {size : Option Nat}
    {inner : List (Recorded Nat ω)} {after : Master ω}
    (ended : call.answer = ⟨.ok size, inner, after⟩) : phases [call] = 2 ∧ call.Honest := by
  have finished : call.finished = true := by
    rw [finished, ended]
    rfl
  refine ⟨?_, fun failure failed => ?_⟩
  · simp [phases, broken, finished]
  · rw [ended] at failed
    cases failed

/-- A call that failed has gone through the first one if it got there. -/
theorem of_answer_error {call : ParallelCall ω} {failure : Failure}
    {inner : List (Recorded Nat ω)} {after : Master ω}
    (ended : call.answer = ⟨.error failure, inner, after⟩)
    (blames : failure.isProtocol = true →
      ∃ own ∈ inner, ∃ last, own.result = .error failure last) :
    phases [call] = call.posted.toNat ∧ call.Honest := by
  have unfinished : call.finished = false := by
    rw [finished, ended]
    rfl
  refine ⟨?_, fun other failed => ?_⟩
  · cases reached : call.posted <;> simp [phases, broken, unfinished, reached]
  · rw [ended] at failed ⊢
    cases failed
    exact blames

/-- **One call**, whatever comes of it. -/
theorem steady (call : ParallelCall ω) (h : call.before.Steady layout fullRuntime n)
    (keeps : ∀ lane, Keeps (fun s => s.block.Shaped layout true) (call.body lane)) :
    call.answer.after.Steady layout fullRuntime (n + phases [call]) ∧ call.Honest := by
  obtain ⟨size, t, done, ended⟩ | ⟨failure, t, ⟨stopped, blames⟩, ended⟩ :=
    Master.answer_of_ends (h.ends_recorded keeps)
  all_goals change call.answer = _ at ended
  · obtain ⟨phases, honest⟩ := of_answer_ok ended
    rw [ended, phases]
    exact ⟨done.forget, honest⟩
  · obtain ⟨phases, honest⟩ := of_answer_error ended blames
    rw [ended, phases]
    exact ⟨stopped.forget, honest⟩

end ParallelCall

/-! ## Sequential parts -/

namespace Master

variable {ω : Type}

/-- What the master can do, with the type of what it is answered. -/
inductive Act (ω : Type) : Type → Type 1 where
  /-- The master's lane. -/
  | lane : Act ω Nat
  /-- The `num_threads` clause of the next region. -/
  | pushThreads (count : Nat) : Act ω Unit
  /-- The requested threads of the regions from here on. -/
  | setThreads (count : Nat) : Act ω Unit
  /-- How deep the master is nested. -/
  | level : Act ω Nat
  /-- A body on the master's own lane. -/
  | asThread (body : RegionBody ω) (calls : ∀ lane, Region.Calls (body lane)) : Act ω Unit
  /-- The runtime itself, on any lanes, and the program's own data. -/
  | runtime {α : Type} (step : RegionM ω α) (calls : Region.Calls step) : Act ω α
  /-- A region. -/
  | parallel (body : RegionBody ω) (calls : ∀ lane, Region.Calls (body lane)) : Act ω Nat

namespace Act

/-- What an act does. -/
def perform {α : Type} : Act ω α → MasterM ω α
  | lane => Master.lane
  | pushThreads count => Master.pushThreads count
  | setThreads count => Master.setThreads count
  | level => Master.level
  | asThread body _ => Master.asThread body
  | runtime step _ => onHosted step
  | parallel body _ => Master.parallel body

/-- The call of `Master.parallel` that an act is, if it is one. -/
def calls {α : Type} : Act ω α → Master ω → List (ParallelCall ω)
  | parallel body _, s => [⟨body, s⟩]
  | _, _ => []

end Act

/-- A sequential part. It goes on in a way that may depend on all answers, and a refusal is an
answer like any other; only a fault ends it. -/
inductive Program (ω : Type) : Type 1 where
  /-- The end. -/
  | finish
  /-- The sequential part is refused. -/
  | fail (error : DispatchError)
  /-- An act, and what comes after each answer to it. -/
  | act {α : Type} (first : Act ω α) (next : Except DispatchError α → Program ω)

namespace Program

/-- What a sequential part does. -/
def run : Program ω → MasterM ω Unit
  | finish => pure ()
  | fail error => reject error
  | act first next => do (next (← attempt first.perform)).run

/-- The calls of `Master.parallel` that it makes, in order. -/
def calls : Program ω → Master ω → List (ParallelCall ω)
  | finish, _ => []
  | fail _, _ => []
  | act first next, s =>
    first.calls s ++ match attempt first.perform s with
      | .ok answer t => (next answer).calls t
      | .error _ _ => []

end Program

variable {α : Type} {layout : BlockLayout} {fullRuntime : Bool} {n : Nat} {s : Master ω}

theorem keeps_steady_lane : Keeps (Steady layout fullRuntime n) (lane : MasterM ω Nat) :=
  Keeps.get.bind fun _ => .checked _

/-- A call on the master's own lane. -/
theorem keeps_steady_onLane {step : Nat → Dispatch Block α}
    (keeps : ∀ lane, Keeps (Block.Shaped layout true) (step lane)) :
    Keeps (Steady layout fullRuntime n) (do onBlock (step (← lane)) : MasterM ω α) :=
  keeps_steady_lane.bind fun lane => keeps_steady_onHosted (Hosted.keeps_onBlock (keeps lane))

/-- **One act**: the barrier goes through the phases of the region, if the act is one. -/
theorem Act.ends_perform (act : Act ω α) (h : Steady layout fullRuntime n s) :
    Ends act.perform s
      (fun _ t => Steady layout fullRuntime (n + ParallelCall.phases (act.calls s)) t)
      fun _ t => Steady layout fullRuntime (n + ParallelCall.phases (act.calls s)) t := by
  cases act with
  | lane => exact keeps_steady_lane s h
  | pushThreads count =>
    exact keeps_steady_onLane (fun lane => Block.keeps_shaped_perform (.pushThreads lane count)) s h
  | setThreads count =>
    exact keeps_steady_onLane (fun lane => Block.keeps_shaped_perform (.setThreads lane count)) s h
  | level => exact keeps_steady_onLane (fun lane => Block.keeps_query lane _ _) s h
  | asThread body calls =>
    exact (keeps_steady_lane.bind fun lane => keeps_steady_onHosted (calls lane).keeps) s h
  | runtime step calls => exact keeps_steady_onHosted calls.keeps s h
  | parallel body calls =>
    obtain ⟨steady, -⟩ := (ParallelCall.mk body s).steady h fun lane => (calls lane).keeps
    have performed := (MasterCall.parallel body).ends_perform s
    rw [MasterCall.perform, ends_bind] at performed
    refine performed.mono ?_ ?_
    · rintro size t ⟨-, rfl⟩
      exact steady
    · rintro failure t ⟨-, rfl⟩
      exact steady

/-- Nor does it matter whether a refusal is caught. -/
theorem Act.ends_attempt (act : Act ω α) (h : Steady layout fullRuntime n s) :
    Ends (attempt act.perform) s
      (fun _ t => Steady layout fullRuntime (n + ParallelCall.phases (act.calls s)) t)
      fun _ _ => True := by
  rw [Dispatch.ends_attempt]
  refine (act.ends_perform h).mono (fun _ _ ready => ready) fun failure _ ready => ?_
  cases failure with
  | rejected error => exact ready
  | halted fault => trivial

theorem Act.honest_calls (act : Act ω α) (h : Steady layout fullRuntime n s) :
    ∀ call ∈ act.calls s, call.Honest := by
  intro call member
  cases act with
  | parallel body calls =>
    obtain rfl := List.mem_singleton.1 member
    exact ((ParallelCall.mk body s).steady h fun lane => (calls lane).keeps).2
  | _ => cases member

/-- **A run**: the barrier stays level, and goes through the phases of the calls. -/
theorem Program.ends_run (program : Program ω) :
    ∀ {n : Nat} {s : Master ω}, Steady layout fullRuntime n s →
      Ends program.run s
        (fun _ t => Steady layout fullRuntime (n + ParallelCall.phases (program.calls s)) t)
        fun _ _ => True := by
  induction program with
  | finish => exact fun h => h
  | fail error => exact fun _ => trivial
  | act first next ih =>
    intro n s h
    rw [run, ends_bind]
    refine ((Dispatch.ends_run _ s).and (first.ends_attempt h)).mono ?_ fun _ _ _ => trivial
    rintro answer t ⟨ran, ready⟩
    refine (ih answer ready).mono (fun _ u done => ?_) fun _ _ _ => trivial
    rw [calls, ran, ParallelCall.phases_append, ← Nat.add_assoc]
    exact done

/-- **No run breaks the protocol.** -/
theorem Program.honest_calls (program : Program ω) :
    ∀ {n : Nat} {s : Master ω}, Steady layout fullRuntime n s →
      ∀ call ∈ program.calls s, call.Honest := by
  induction program with
  | finish => exact fun _ _ none => absurd none List.not_mem_nil
  | fail error => exact fun _ _ none => absurd none List.not_mem_nil
  | act first next ih =>
    intro n s h call member
    rw [calls, List.mem_append] at member
    rcases member with here | later
    · exact first.honest_calls h call here
    · have tried := first.ends_attempt h
      unfold Ends at tried
      split at later
      · next ran =>
        rw [ran] at tried
        exact ih _ tried call later
      · cases later

end Master

end RegionDispatch
