import RegionDispatch.Proofs.Block.Create
import RegionDispatch.Proofs.Kernel.Confined

/-! # Nested regions unwind

A lane opens regions inside regions, and any of their bodies can fail at any point. A body is
written down as a tree here, `Region.Plan`, whose next node depends on what the lane saw and on how
the regions inside it ended. While a tree runs, everything the lane sees is logged together with how
many regions it is in.

* **`Region.Plan`**, `Region.Plan.run` — bodies as trees, and what they do.
* **`Region.Plan.Traces`** — what a tree can see and how it can end, read off the tree alone.
* `Region.Unwinds` — what entering and leaving a region has to do for trees to unwind.
* `Region.unwinds_framed`, `Region.unwinds_bare` — with frame stacks and without, it does that.
* `Region.nested_unwinds` — the outermost region ends as its body does and leaves all as it was. -/

namespace RegionDispatch

open Dispatch

namespace Region

/-- What a lane sees when it asks for everything. -/
structure Sight where
  /-- Its rank. -/
  threadNum : Nat
  /-- The size of its team. -/
  teamSize : Nat
  /-- How deep it is in parallel regions. -/
  level : Nat
  /-- The thread limit of its team. -/
  threadLimit : Nat
  /-- Its pending clause. -/
  pendingThreads : Nat
  /-- Its pending simd limit. -/
  pendingSimd : Nat
  /-- Its loop state. -/
  loop : LoopState

/-- Asks for everything. -/
def see (lane : Nat) : Dispatch Block Sight := do
  let threadNum ← Block.threadNum lane
  let teamSize ← Block.teamSize lane
  let level ← Block.level lane
  let threadLimit ← Block.threadLimit lane
  let pendingThreads ← Block.pendingThreads lane
  let pendingSimd ← Block.pendingSimd lane
  let loop ← Block.loopState lane
  return { threadNum, teamSize, level, threadLimit, pendingThreads, pendingSimd, loop }

/-- A call that changes something of the calling lane. -/
inductive Deed where
  /-- Pushes a `num_threads` clause. -/
  | pushThreads (count : Nat)
  /-- Pushes a simd limit. -/
  | pushSimd (limit : Nat)
  /-- Sets the requested threads. -/
  | setThreads (count : Nat)
  /-- Sets the loop state. -/
  | setLoop (loop : LoopState)

/-- Does it. -/
def Deed.perform (lane : Nat) : Deed → Dispatch Block Unit
  | pushThreads count => Block.pushThreads lane count
  | pushSimd limit => Block.pushSimd lane limit
  | setThreads count => Block.setThreads lane count
  | setLoop loop => Block.setLoop lane loop

/-- The body of a region, as a tree. -/
inductive Plan where
  /-- Ends, with success or an error. -/
  | finish (result : Except DispatchError Unit)
  /-- Looks around, and goes on as that says. -/
  | look (next : Sight → Plan)
  /-- Changes something of its lane. -/
  | act (deed : Deed) (next : Plan)
  /-- Opens a region, and goes on as that ends. -/
  | nest (inner : Plan) (next : Except DispatchError Unit → Plan)

namespace Plan

/-- Runs a body on a lane that is in `depth` regions, and logs what the lane sees. -/
def run : Plan → (depth : Nat) → RegionBody (List (Nat × Sight))
  | finish result, _, _ => granted result
  | look next, depth, lane => do
    let sight ← Hosted.onBlock (see lane)
    Hosted.onHost (modify (· ++ [(depth, sight)]))
    (next sight).run depth lane
  | act deed next, depth, lane => do
    Hosted.onBlock (deed.perform lane)
    next.run depth lane
  | nest inner next, depth, lane => do
    let result ← attempt (nested lane (inner.run (depth + 1)))
    (next result).run depth lane

/-- A body that is run `depth` regions deep can see `log` and end with a result. A region inside it
ends as its own body does. -/
inductive Traces : Plan → (depth : Nat) → List (Nat × Sight) → Except DispatchError Unit → Prop
  | finish (result : Except DispatchError Unit) (depth : Nat) :
    Traces (finish result) depth [] result
  | look {next : Sight → Plan} {depth : Nat} {sight : Sight} {log : List (Nat × Sight)}
    {result : Except DispatchError Unit} (later : Traces (next sight) depth log result) :
    Traces (look next) depth ((depth, sight) :: log) result
  | act {deed : Deed} {next : Plan} {depth : Nat} {log : List (Nat × Sight)}
    {result : Except DispatchError Unit} (later : Traces next depth log result) :
    Traces (act deed next) depth log result
  | nest {inner : Plan} {next : Except DispatchError Unit → Plan} {depth : Nat}
    {log log' : List (Nat × Sight)} {ended result : Except DispatchError Unit}
    (inside : Traces inner (depth + 1) log ended)
    (later : Traces (next ended) depth log' result) :
    Traces (nest inner next) depth (log ++ log') result

end Plan

/-- A sight of a lane that is in `depth` regions, on top of the `outside` ones it was in before. -/
structure Sight.Nested (outside depth : Nat) (sight : Sight) : Prop where
  threadNum : sight.threadNum = 0
  teamSize : sight.teamSize = 1
  level : sight.level = min 2 (outside + depth)

/-- One of the counters for a further serialized region of a thread is full. -/
def Full (tid : Nat) (block : Block) : Prop :=
  UInt32.size ≤ block.counters.serialized + 1 ∨
    block.initialized = false ∧ UInt32.size ≤ (block.state.thread tid).openRegions + 1

/-- What has to hold of one lane for trees of regions to unwind on it. `Inside depth` says that the
lane is in that many regions, `Change` is what its body can do there, and `Back` is what is left of
a region once the lane has left it. -/
structure Unwinds (lane tid outside : Nat) (Inside : Nat → Block → Prop)
    (Change Back : Block → Block → Prop) : Prop where
  refl {depth : Nat} {block : Block} : Inside depth block → Change block block
  trans {before mid after : Block} : Change before mid → Change mid after → Change before after
  inside {depth : Nat} {before after : Block} :
    Inside depth before → Change before after → Inside depth after
  change {before after : Block} : Back before after → Change before after
  perform {depth : Nat} {block : Block} (deed : Deed) : Inside depth block →
    ∃ after, deed.perform lane block = .ok () after ∧ Change block after
  see {depth : Nat} {block : Block} : Inside (depth + 1) block →
    ∃ sight, see lane block = .ok sight block ∧ sight.Nested outside (depth + 1)
  /-- A region is entered unless a counter is full, and whatever its body does it can be left. -/
  enter {depth : Nat} {block : Block} : Inside depth block →
    Ends (beginNested lane) block
      (fun _ entered => Inside (depth + 1) entered ∧ ∀ after, Change entered after →
        ∃ left, Block.endSerial lane after = .ok () left ∧ Back block left)
      fun failure t => failure = .halted .addOverflow ∧ Full tid t

namespace Unwinds

variable {lane tid outside : Nat} {Inside : Nat → Block → Prop} {Change Back : Block → Block → Prop}

/-- What a body that is run `depth` regions deep comes to, from one state to another. -/
structure Ran (outside : Nat) (Change : Block → Block → Prop) (plan : Plan) (depth : Nat)
    (before : Hosted (List (Nat × Sight))) (result : Except DispatchError Unit)
    (after : Hosted (List (Nat × Sight))) : Prop where
  log : ∃ log, after.host = before.host ++ log ∧ plan.Traces depth log result ∧
    ∀ entry ∈ log, entry.2.Nested outside entry.1
  change : Change before.block after.block

/-- An attempt of two steps in a row is an attempt of the second one, once the first returns. -/
theorem ends_attempt_bind {σ α β : Type} {step : Dispatch σ α} {next : α → Dispatch σ β} {s : σ}
    {done : Except DispatchError β → σ → Prop} {stopped : Failure → σ → Prop} :
    Ends (attempt (step >>= next)) s done stopped ↔
      Ends step s (fun a t => Ends (attempt (next a)) t done stopped) fun failure t =>
        match failure with
        | .rejected error => done (.error error) t
        | .halted fault => stopped (.halted fault) t := by
  have second (a : α) (t : σ) : Ends (attempt (next a)) t done stopped ↔ _ := ends_attempt
  simp only [second]
  exact ends_attempt.trans ends_bind

variable (unwinds : Unwinds lane tid outside Inside Change Back)

include unwinds

/-- A region whose body runs as it should ends as its body does. -/
theorem nested {inner : Plan} {depth : Nat} {s : Hosted (List (Nat × Sight))}
    (inside : Inside depth s.block)
    (body : ∀ t : Hosted (List (Nat × Sight)), Inside (depth + 1) t.block →
      Ends (attempt (inner.run (depth + 1) lane)) t (Ran outside Change inner (depth + 1) t)
        fun failure t => failure = .halted .addOverflow ∧ Full tid t.block) :
    Ends (attempt (Region.nested lane (inner.run (depth + 1)))) s
      (fun result t => Ran outside Back inner (depth + 1) s result t ∧
        ∃ entered ended, beginNested lane s.block = .ok () entered ∧
          attempt (inner.run (depth + 1) lane) ⟨entered, s.host⟩ = .ok result ended)
      fun failure t => failure = .halted .addOverflow ∧ Full tid t.block := by
  rw [Region.nested, ends_attempt_bind, Hosted.ends_onBlock]
  refine ((ends_run _ _).and (unwinds.enter inside)).mono ?_ ?_
  · rintro ⟨⟩ entered ⟨began, inside', leaves⟩
    rw [ends_attempt_bind]
    -- however the body ended, the region can be left
    refine ((ends_run _ _).and (body ⟨entered, s.host⟩ inside')).mono ?_ ?_
    · rintro result t ⟨ended, ran⟩
      obtain ⟨left, hleft, back⟩ := leaves t.block ran.change
      rw [ends_attempt_bind, Hosted.ends_onBlock, ends_of_ok hleft]
      cases result with
      | ok => exact ⟨⟨ran.log, back⟩, entered, t, began, ended⟩
      | error error => exact ⟨⟨ran.log, back⟩, entered, t, began, ended⟩
    · rintro failure t ⟨-, rfl, full⟩
      exact ⟨rfl, full⟩
  · rintro failure t ⟨-, rfl, full⟩
    exact ⟨rfl, full⟩

/-- **A body that runs inside a region** makes a change of the lane, sees what it should, and ends
as its tree says. -/
theorem run (plan : Plan) : ∀ (depth : Nat) (s : Hosted (List (Nat × Sight))),
    Inside (depth + 1) s.block →
    Ends (attempt (plan.run (depth + 1) lane)) s (Ran outside Change plan (depth + 1) s)
      fun failure t => failure = .halted .addOverflow ∧ Full tid t.block := by
  -- by induction on the tree, at every depth, since the bodies of its regions run one deeper
  induction plan with
  | finish result =>
    intro depth s inside
    have here : Ran outside Change (.finish result) (depth + 1) s result s :=
      ⟨⟨[], (List.append_nil _).symm, .finish result _, fun _ none => absurd none List.not_mem_nil⟩,
        unwinds.refl inside⟩
    cases result with
    | ok => exact here
    | error error => exact here
  | look next ih =>
    intro depth s inside
    obtain ⟨sight, seen, nested⟩ := unwinds.see inside
    rw [Plan.run, ends_attempt_bind, Hosted.ends_onBlock, ends_of_ok seen, ends_attempt_bind,
      Hosted.onHost, ends_zoom, ends_modify]
    refine (ih sight depth ⟨s.block, s.host ++ [(depth + 1, sight)]⟩ inside).mono
      (fun result t ran => ?_) fun _ _ stopped => stopped
    obtain ⟨⟨log, extends_, traces, good⟩, change⟩ := ran
    refine ⟨⟨(depth + 1, sight) :: log, ?_, .look traces, List.forall_mem_cons.2 ⟨nested, good⟩⟩,
      change⟩
    rw [extends_, List.append_assoc, List.singleton_append]
  | act deed next ih =>
    intro depth s inside
    obtain ⟨after, performed, change⟩ := unwinds.perform deed inside
    rw [Plan.run, ends_attempt_bind, Hosted.ends_onBlock, ends_of_ok performed]
    refine (ih depth _ (unwinds.inside inside change)).mono (fun result t ran => ?_)
      fun _ _ stopped => stopped
    obtain ⟨⟨log, extends_, traces, good⟩, change'⟩ := ran
    exact ⟨⟨log, extends_, .act traces, good⟩, unwinds.trans change change'⟩
  | nest inner next ihInner ihNext =>
    intro depth s inside
    rw [Plan.run, ends_attempt_bind]
    refine (unwinds.nested inside (ihInner (depth + 1))).mono (fun ended mid ⟨ran, _⟩ => ?_) ?_
    · have inside' := unwinds.inside inside (unwinds.change ran.change)
      refine (ihNext ended depth mid inside').mono (fun result t ran' => ?_)
        fun _ _ stopped => stopped
      obtain ⟨log, extends_, traces, good⟩ := ran.log
      obtain ⟨log', extends', traces', good'⟩ := ran'.log
      refine ⟨⟨log ++ log', ?_, .nest traces traces', ?_⟩,
        unwinds.trans (unwinds.change ran.change) ran'.change⟩
      · rw [extends', extends_, List.append_assoc]
      · exact List.forall_mem_append.2 ⟨good, good'⟩
    · rintro failure t ⟨rfl, full⟩
      exact ⟨rfl, full⟩

end Unwinds

/-! ## With frame stacks -/

section Framed

open Block

variable {lane tid outside depth : Nat} {top : FrameId} {frame : Frame}
  {block before mid after : Block}

/-- What a lane with frames sees, it reads off its top frame and its thread. -/
theorem see_of_standing (standing : Standing lane tid top block)
    (hframe : block.state.arena.get? top = some frame) :
    see lane block = .ok ⟨frame.rank, frame.teamSize, frame.depth.level, frame.threadLimit,
      (block.state.thread tid).pendingThreads, (block.state.thread tid).pendingSimd,
      (block.state.thread tid).loop⟩ block := by
  have query {α : Type} (framed : Frame → α) (bare : BlockLayout → Nat → Thread → α) :=
    query_eq_ok standing.inside standing.owner standing.initialized standing.stands hframe framed
      bare
  have thread := thread_eq_ok standing.inside standing.owner
  refine eq_ok_of_ends ?_
  simp [see, threadNum, teamSize, level, threadLimit, pendingThreads, pendingSimd, loopState,
    ends_of_ok (query _ _), ends_of_ok thread]

/-- A lane with frames that is in `depth` serialized regions. -/
def FramedInside (lane tid outside depth : Nat) (block : Block) : Prop :=
  ∃ top frame, Standing lane tid top block ∧ block.state.arena.get? top = some frame ∧
    frame.depth.level = min 2 (outside + depth) ∧
    (0 < depth → frame.rank = 0 ∧ frame.teamSize = 1)

/-- What the body of a region can do to a lane with frames. -/
def FramedChange (tid : Nat) (before after : Block) : Prop :=
  ∃ top, (before.state.thread tid).top = some top ∧ LocalChange tid top before after

/-- What is left of a region on a lane with frames. -/
def FramedBack (tid : Nat) (before after : Block) : Prop :=
  ∃ top, (before.state.thread tid).top = some top ∧ Unwound tid top before after

theorem FramedChange.trans (first : FramedChange tid before mid)
    (second : FramedChange tid mid after) : FramedChange tid before after := by
  obtain ⟨top, htop, change⟩ := first
  obtain ⟨top', htop', change'⟩ := second
  rw [change.top_eq, htop, Option.some.injEq] at htop'
  exact ⟨top, htop, change.trans (htop' ▸ change')⟩

theorem FramedInside.of_change (inside : FramedInside lane tid outside depth before)
    (change : FramedChange tid before after) : FramedInside lane tid outside depth after := by
  obtain ⟨top, frame, standing, hframe, level, serialized⟩ := inside
  obtain ⟨top', htop', change⟩ := change
  rw [standing.stands, Option.some.injEq] at htop'
  subst htop'
  obtain ⟨n, hn⟩ := change.topFrame
  exact ⟨top, { frame with nthreads := n }, standing.of_localChange change, by rw [hn, hframe]; rfl,
    level, serialized⟩

theorem perform_of_standing (standing : Standing lane tid top block) (deed : Deed) :
    ∃ after, deed.perform lane block = .ok () after ∧ LocalChange tid top block after := by
  cases deed with
  | pushThreads count =>
    exact ⟨_, pushThreads_eq_ok standing.inside standing.owner,
      .modifyThread standing ({ · with pendingThreads := count }) fun _ => rfl⟩
  | pushSimd limit =>
    exact ⟨_, pushSimd_eq_ok standing.inside standing.owner,
      .modifyThread standing ({ · with pendingSimd := limit }) fun _ => rfl⟩
  | setThreads count =>
    obtain ⟨frame, hframe, -⟩ := standing.frame
    exact ⟨_, setThreads_eq_ok standing.inside standing.owner standing.initialized standing.stands
      hframe, .setNthreads standing count⟩
  | setLoop loop =>
    exact ⟨_, setLoop_eq_ok standing.inside standing.owner,
      .modifyThread standing ({ · with loop }) fun _ => rfl⟩

/-- Where a lane cannot enter a region, a counter is full. -/
theorem ends_beginSerial_full (inside : lane < block.layout.size)
    (owner : block.layout.threadOf lane = .ok tid) :
    Ends (beginSerial lane) block (fun _ _ => True) fun failure t =>
      failure = .halted .addOverflow → Full tid t := by
  rw [beginSerial, ends_bind, ends_of_ok (threadOf_of_lt inside owner)]
  simp only [tally, ends_bind, ends_get, ends_checked, ends_modify]
  refine ⟨fun counters _ => ?_, fun fault full _ => .inl (map_checkedAdd_eq_error.1 full).1⟩
  split
  · simp only [ends_bind, ends_granted, Block.onState, ends_modify]
    exact ⟨fun _ _ => ⟨fun _ _ => trivial, by simp⟩, by simp⟩
  · next bare =>
    simp only [ends_bind, ends_checked, Block.onState, ends_modify]
    refine ⟨fun _ _ => trivial, fun fault full _ => .inr ⟨?_, (checkedAdd_eq_error.1 full).1⟩⟩
    exact Bool.eq_false_of_not_eq_true bare

theorem ends_beginNested_full (inside : lane < block.layout.size)
    (owner : block.layout.threadOf lane = .ok tid) :
    Ends (beginNested lane) block (fun _ _ => True) fun failure t =>
      failure = .halted .addOverflow → Full tid t := by
  rw [beginNested, ends_bind, ends_of_ok (threadOf_of_lt inside owner)]
  exact ends_beginSerial_full inside owner

theorem unwinds_framed (lane tid outside : Nat) :
    Unwinds lane tid outside (FramedInside lane tid outside) (FramedChange tid)
      (FramedBack tid) where
  refl := by
    rintro depth block ⟨top, frame, standing, -⟩
    exact ⟨top, standing.stands, .refl standing.sound⟩
  trans := .trans
  inside := .of_change
  change := by
    rintro before after ⟨top, htop, unwound⟩
    exact ⟨top, htop, unwound.toLocalChange⟩
  perform := by
    rintro depth block deed ⟨top, frame, standing, -⟩
    obtain ⟨after, performed, change⟩ := perform_of_standing standing deed
    exact ⟨after, performed, top, standing.stands, change⟩
  see := by
    rintro depth block ⟨top, frame, standing, hframe, level, serialized⟩
    obtain ⟨rank, size⟩ := serialized (Nat.succ_pos depth)
    exact ⟨_, see_of_standing standing hframe, rank, size, level⟩
  enter := by
    rintro depth block ⟨top, frame, standing, hframe, level, -⟩
    refine ((ends_beginNested standing).and
      (ends_beginNested_full standing.inside standing.owner)).mono ?_ ?_
    · rintro _ _ ⟨⟨mid, frame', spent, standing', hframe', unparked, rfl⟩, -⟩
      have same : frame' = frame := by
        rw [spent.top, hframe, Option.some.injEq] at hframe'
        exact hframe'.symm
      subst same
      refine ⟨⟨mid.state.arena.nextId, frame'.serialized top, standing'.entered frame', ?_, ?_,
        fun _ => ⟨rfl, rfl⟩⟩, ?_⟩
      · rw [Block.entered, BlockState.get?_openSerial standing'.sound, if_pos rfl]
      · have deeper : (frame'.serialized top).depth.level = min 2 (frame'.depth.level + 1) :=
          Nesting.level_deeper frame'.depth
        omega
      · rintro after ⟨top', htop', change⟩
        rw [(standing'.entered frame').stands, Option.some.injEq] at htop'
        subst htop'
        obtain ⟨left, hleft, unwound⟩ := standing'.endSerial_eq hframe' unparked change
        exact ⟨left, hleft, top, standing.stands, spent.trans unwound⟩
    · rintro failure t ⟨halted, full⟩
      exact ⟨halted, full halted⟩

end Framed

/-! ## Without frame stacks -/

/-- What is left of a region on a lane of thread `tid`: its hints, and where there are no frame
stacks its loop state, may have changed, and nothing else. -/
structure Regained (tid : Nat) (before after : Block) : Prop where
  arch : after.arch = before.arch
  layout : after.layout = before.layout
  initialized : after.initialized = before.initialized
  board : after.board = before.board
  /-- Serialized regions are the only ones that are counted. -/
  counters : after.counters =
    { before.counters with serialized := after.counters.serialized }
  size : after.state.threads.size = before.state.threads.size
  others : ∀ other, other ≠ tid → after.state.thread other = before.state.thread other
  /-- The thread has its top, and as many regions open as before. -/
  self : after.state.thread tid =
    { before.state.thread tid with
      pendingThreads := (after.state.thread tid).pendingThreads
      pendingSimd := (after.state.thread tid).pendingSimd
      loop := (after.state.thread tid).loop }
  loop : before.initialized = true →
    (after.state.thread tid).loop = (before.state.thread tid).loop
  /-- All frames are as they were, the requested threads in them included. -/
  frames : ∀ id, after.state.arena.get? id = before.state.arena.get? id
  live : after.liveFrames = before.liveFrames

section Bare

open Block

variable {lane tid opened depth : Nat} {block before mid after : Block}

/-- A lane without frames that is in `depth` regions more than the `opened` ones it was in. -/
structure BareInside (lane tid opened depth : Nat) (block : Block) : Prop where
  inside : lane < block.layout.size
  owner : block.layout.threadOf lane = .ok tid
  bare : block.initialized = false
  thread : tid < block.state.threads.size
  regions : (block.state.thread tid).openRegions = opened + depth

theorem Regained.refl (tid : Nat) (block : Block) : Regained tid block block :=
  ⟨rfl, rfl, rfl, rfl, rfl, rfl, fun _ _ => rfl, rfl, fun _ => rfl, fun _ => rfl, rfl⟩

theorem Regained.trans (first : Regained tid before mid) (second : Regained tid mid after) :
    Regained tid before after where
  arch := second.arch.trans first.arch
  layout := second.layout.trans first.layout
  initialized := second.initialized.trans first.initialized
  board := second.board.trans first.board
  counters := by rw [second.counters, first.counters]
  size := second.size.trans first.size
  others other ne := (second.others other ne).trans (first.others other ne)
  self := by rw [second.self, first.self]
  loop framed := (second.loop (first.initialized.trans framed)).trans (first.loop framed)
  frames id := (second.frames id).trans (first.frames id)
  live := second.live.trans first.live

theorem BareInside.of_regained (inside : BareInside lane tid opened depth before)
    (regained : Regained tid before after) : BareInside lane tid opened depth after where
  inside := regained.layout ▸ inside.inside
  owner := regained.layout ▸ inside.owner
  bare := regained.initialized.trans inside.bare
  thread := regained.size ▸ inside.thread
  regions := by rw [regained.self, inside.regions]

/-- Without frames, changing the hints and the loop state of a thread leaves a region as it was. -/
theorem BareInside.modifyThread (inside : BareInside lane tid opened depth block)
    (f : Thread → Thread)
    (hf : ∀ thread, f thread = { thread with
      pendingThreads := (f thread).pendingThreads
      pendingSimd := (f thread).pendingSimd
      loop := (f thread).loop }) :
    Regained tid block { block with state := block.state.modifyThread tid f } where
  arch := rfl
  layout := rfl
  initialized := rfl
  board := rfl
  counters := rfl
  size := BlockState.size_modifyThread f
  others other ne := BlockState.thread_modifyThread_of_ne ne
  self := by
    rw [BlockState.thread_modifyThread_self inside.thread]
    exact hf _
  loop framed := by
    rw [inside.bare] at framed
    cases framed
  frames _ := rfl
  live := rfl

/-- Without frames, every query is answered from the thread's number and record. -/
theorem BareInside.query_eq_ok (inside : BareInside lane tid opened depth block) {α : Type}
    (framed : Frame → α) (bare : BlockLayout → Nat → Thread → α) :
    query lane framed bare block = .ok (bare block.layout tid (block.state.thread tid)) block := by
  refine eq_ok_of_ends ?_
  simp [query, ends_of_ok (threadOf_of_lt inside.inside inside.owner), inside.bare]

theorem BareInside.see_eq_ok (inside : BareInside lane tid opened depth block) :
    see lane block = .ok ⟨
      if 0 < (block.state.thread tid).openRegions then 0 else tid,
      if 0 < (block.state.thread tid).openRegions then 1 else block.layout.size,
      min (block.state.thread tid).openRegions 2, block.layout.size,
      (block.state.thread tid).pendingThreads, (block.state.thread tid).pendingSimd,
      (block.state.thread tid).loop⟩ block := by
  have thread := thread_eq_ok inside.inside inside.owner
  refine eq_ok_of_ends ?_
  simp [see, threadNum, teamSize, level, threadLimit, pendingThreads, pendingSimd, loopState,
    ends_of_ok (inside.query_eq_ok _ _), ends_of_ok thread]

theorem BareInside.perform_eq_ok (inside : BareInside lane tid opened depth block) (deed : Deed) :
    ∃ after, deed.perform lane block = .ok () after ∧ Regained tid block after := by
  cases deed with
  | pushThreads count =>
    exact ⟨_, pushThreads_eq_ok inside.inside inside.owner,
      inside.modifyThread ({ · with pendingThreads := count }) fun _ => rfl⟩
  | pushSimd limit =>
    exact ⟨_, pushSimd_eq_ok inside.inside inside.owner,
      inside.modifyThread ({ · with pendingSimd := limit }) fun _ => rfl⟩
  | setThreads count =>
    refine ⟨block, eq_ok_of_ends ?_, .refl tid block⟩
    simp [Deed.perform, setThreads, ends_of_ok (threadOf_of_lt inside.inside inside.owner),
      inside.bare]
  | setLoop loop =>
    exact ⟨_, setLoop_eq_ok inside.inside inside.owner,
      inside.modifyThread ({ · with loop }) fun _ => rfl⟩

/-- The block after a thread without frames has entered a region. -/
def counted (block : Block) (tid : Nat) : Block :=
  { block with
    counters := { block.counters with serialized := block.counters.serialized + 1 }
    state := block.state.modifyThread tid fun thread =>
      { thread with openRegions := thread.openRegions + 1 } }

theorem BareInside.ends_beginSerial (inside : BareInside lane tid opened depth block) :
    Ends (beginSerial lane) block (fun _ t => t = counted block tid)
      fun failure _ => failure = .halted .addOverflow := by
  rw [beginSerial, ends_bind, ends_of_ok (threadOf_of_lt inside.inside inside.owner)]
  simp only [tally, Counters.addSerialized, ends_bind, ends_get, ends_checked, ends_modify,
    inside.bare, Bool.false_eq_true, if_false, Block.onState]
  refine ⟨fun counters tallied => ⟨fun count counts => ?_, fun fault full => ?_⟩,
    fun fault full => ?_⟩
  · obtain rfl := eq_of_map_checkedAdd tallied
    have fits : count = (block.state.thread tid).openRegions + 1 := by
      unfold checkedAdd at counts
      split at counts
      · exact (Except.ok.inj counts).symm
      · cases counts
    subst fits
    have same : block.state.modifyThread tid
        ({ · with openRegions := (block.state.thread tid).openRegions + 1 }) =
          (counted block tid).state := by
      refine BlockState.ext_thread rfl ?_ fun other _ => ?_
      · rw [counted, BlockState.size_modifyThread, BlockState.size_modifyThread]
      · rw [counted, BlockState.thread_modifyThread, BlockState.thread_modifyThread]
        split
        · next own => rw [own.1]
        · rfl
    rw [same, ← inside.bare]
    rfl
  · rw [(checkedAdd_eq_error.1 full).2]
  · rw [(map_checkedAdd_eq_error.1 full).2]

/-- Entering a nested region spends the pending clause first. -/
theorem BareInside.ends_beginNested (inside : BareInside lane tid opened depth block) :
    Ends (beginNested lane) block (fun _ t => ∃ mid, Regained tid block mid ∧ t = counted mid tid)
      fun failure _ => failure = .halted .addOverflow := by
  have spent := inside.modifyThread ({ · with pendingThreads := 0 }) fun _ => rfl
  rw [beginNested, ends_bind, ends_of_ok (threadOf_of_lt inside.inside inside.owner), ends_bind,
    Block.onState, ends_modify]
  exact (inside.of_regained spent).ends_beginSerial.mono (fun _ _ entered => ⟨_, spent, entered⟩)
    fun _ _ stopped => stopped

theorem BareInside.counted (inside : BareInside lane tid opened depth block) :
    BareInside lane tid opened (depth + 1) (counted block tid) where
  inside := inside.inside
  owner := inside.owner
  bare := inside.bare
  thread := (BlockState.size_modifyThread _).symm ▸ inside.thread
  regions := by
    rw [Region.counted, BlockState.thread_modifyThread_self inside.thread]
    show (block.state.thread tid).openRegions + 1 = _
    rw [inside.regions, Nat.add_assoc]

/-- Whatever its body did, a region is left by counting it off. -/
theorem BareInside.endSerial_counted (inside : BareInside lane tid opened depth block)
    (regained : Regained tid (Region.counted block tid) after) :
    ∃ left, endSerial lane after = .ok () left ∧ Regained tid block left := by
  have inner := inside.counted.of_regained regained
  have self := regained.self
  rw [Region.counted, BlockState.thread_modifyThread_self inside.thread] at self
  refine ⟨{ after with
    state := after.state.modifyThread tid ({ · with openRegions := opened + depth }) },
    eq_ok_of_ends ?_, { regained with
      counters := ?_, size := ?_, others := ?_, self := ?_, loop := ?_ }⟩
  · simp [endSerial, ends_of_ok (threadOf_of_lt inner.inside inner.owner), inner.bare,
      inner.regions, Block.onState, ← Nat.add_assoc]
  · rw [regained.counters]
    rfl
  · rw [BlockState.size_modifyThread, regained.size]
    exact BlockState.size_modifyThread _
  · intro other ne
    rw [BlockState.thread_modifyThread_of_ne ne, regained.others other ne]
    exact BlockState.thread_modifyThread_of_ne ne
  · rw [BlockState.thread_modifyThread_self inner.thread, self]
    simp only [← inside.regions]
  · intro framed
    rw [inside.bare] at framed
    cases framed

theorem unwinds_bare (lane tid opened : Nat) :
    Unwinds lane tid (min opened 2) (BareInside lane tid opened) (Regained tid) (Regained tid) where
  refl _ := .refl tid _
  trans := .trans
  inside := .of_regained
  change regained := regained
  perform deed inside := inside.perform_eq_ok deed
  see := by
    intro depth block inside
    refine ⟨_, inside.see_eq_ok, ?_, ?_, ?_⟩
    · exact if_pos (inside.regions ▸ Nat.succ_pos _)
    · exact if_pos (inside.regions ▸ Nat.succ_pos _)
    · show min _ 2 = _
      rw [inside.regions]
      omega
  enter := by
    intro depth block inside
    refine (inside.ends_beginNested.and
      (ends_beginNested_full inside.inside inside.owner)).mono ?_ ?_
    · rintro _ _ ⟨⟨mid, spent, rfl⟩, -⟩
      have inside' := inside.of_regained spent
      refine ⟨inside'.counted, fun after regained => ?_⟩
      obtain ⟨left, hleft, back⟩ := inside'.endSerial_counted regained
      exact ⟨left, hleft, spent.trans back⟩
    · rintro failure t ⟨halted, full⟩
      exact ⟨halted, full halted⟩

end Bare

/-! ## The outermost region -/

/-- A lane that can open regions: with frame stacks, one in good standing; without, any lane of the
block. -/
inductive Ready (lane tid : Nat) (block : Block) : Prop where
  /-- Its top frame and its first-level frame are live, and no loop state is parked in the top. -/
  | framed {top : FrameId} (standing : Block.Standing lane tid top block)
  | bare (inside : lane < block.layout.size) (owner : block.layout.threadOf lane = .ok tid)
    (bare : block.initialized = false) (thread : tid < block.state.threads.size)

/-- With frame stacks, a thread that is back on its top frame has regained everything. -/
theorem regained_of_unwound {lane tid : Nat} {top : FrameId} {before after : Block}
    (standing : Block.Standing lane tid top before)
    (unwound : Block.Unwound tid top before after) : Regained tid before after where
  arch := unwound.arch
  layout := unwound.layout
  initialized := unwound.initialized
  board := unwound.board
  counters := unwound.counters
  size := unwound.size
  others := unwound.others
  self := unwound.self
  loop _ := unwound.loop
  frames id := by
    by_cases same : id = top
    · rw [same, unwound.top]
    · exact unwound.frames id same
  live := unwound.sound.live_congr standing.sound unwound.toLocalChange.isLive

/-- **Nested regions unwind completely.** Take any lane that can open regions, and any tree of
regions for it to open. Inside the outermost region the lane always sees a team of one, as deep as
the regions around it, and every region of the tree ends as its own body does. When the outermost
one returns, its result is that of its body, and the lane and the block have regained all they had.
Only a full counter can stop it. -/
theorem nested_unwinds {lane tid : Nat} {s : Hosted (List (Nat × Sight))}
    (ready : Ready lane tid s.block) (plan : Plan) :
    ∃ outside, Block.level lane s.block = .ok outside s.block ∧
      ((∃ result entered ended t,
        attempt (nested lane (plan.run 1)) s = .ok result t ∧
        beginNested lane s.block = .ok () entered ∧
        attempt (plan.run 1 lane) ⟨entered, s.host⟩ = .ok result ended ∧
        (∃ log, t.host = s.host ++ log ∧ plan.Traces 1 log result ∧
          ∀ entry ∈ log, entry.2.Nested outside entry.1) ∧
        Regained tid s.block t.block) ∨
      ∃ t, attempt (nested lane (plan.run 1)) s = .error (.halted .addOverflow) t ∧
        Full tid t.block) := by
  -- both kinds of blocks give the lane an invariant, a level and a way back
  obtain ⟨outside, Inside, Change, Back, level, unwinds, inside, back⟩ :
      ∃ outside Inside Change Back, Block.level lane s.block = .ok outside s.block ∧
        Unwinds lane tid outside Inside Change Back ∧ Inside 0 s.block ∧
        ∀ after, Back s.block after → Regained tid s.block after := by
    cases ready with
    | @framed top standing =>
      obtain ⟨frame, hframe, -⟩ := standing.frame
      have saturated : frame.depth.level = min 2 (frame.depth.level + 0) := by
        cases frame.depth <;> rfl
      refine ⟨_, _, _, _, Block.query_eq_ok standing.inside standing.owner standing.initialized
        standing.stands hframe _ _, unwinds_framed lane tid frame.depth.level,
        ⟨top, frame, standing, hframe, saturated, nofun⟩, ?_⟩
      rintro after ⟨top', htop', unwound⟩
      rw [standing.stands, Option.some.injEq] at htop'
      exact regained_of_unwound standing (htop' ▸ unwound)
    | bare inside owner bare thread =>
      have here : BareInside lane tid (s.block.state.thread tid).openRegions 0 s.block :=
        ⟨inside, owner, bare, thread, rfl⟩
      exact ⟨_, _, _, _, here.query_eq_ok _ _, unwinds_bare lane tid _, here,
        fun _ regained => regained⟩
  refine ⟨outside, level, ?_⟩
  have ends := unwinds.nested inside (unwinds.run plan 0)
  rcases run : attempt (nested lane (plan.run 1)) s with ⟨result, t⟩ | ⟨failure, t⟩
  · rw [ends_of_ok run] at ends
    obtain ⟨ran, entered, ended, began, body⟩ := ends
    exact .inl ⟨result, entered, ended, t, rfl, began, body, ran.log, back t.block ran.change⟩
  · rw [ends_of_error run] at ends
    obtain ⟨rfl, full⟩ := ends
    exact .inr ⟨t, rfl, full⟩

/-- A body that leaves its loop state and requested threads changed, opens a region that fails, and
fails with it. -/
def failing : Plan :=
  .look fun _ => .act (.setLoop { upper := 9 }) <| .act (.setThreads 7) <|
    .nest (.look fun _ => .act (.pushSimd 1) <| .finish (.error .numTeamsUnsupported)) .finish

/-- Two SPMD lanes without frames. -/
def barePair : Block := { Block.twoLanes with initialized := false, state := .simple 2 }

theorem nested_unwinds_failing :
    (∃ t, attempt (nested 1 (failing.run 1)) ⟨Block.twoLanes, []⟩ =
      .ok (.error .numTeamsUnsupported) t ∧ Regained 1 Block.twoLanes t.block) ∧
    ∃ t, attempt (nested 1 (failing.run 1)) ⟨barePair, []⟩ =
      .ok (.error .numTeamsUnsupported) t ∧ Regained 1 barePair t.block := by
  have fails {block : Block} (ready : Ready 1 1 block)
      (returns : (match attempt (nested 1 (failing.run 1)) ⟨block, []⟩ with
        | .ok result _ => decide (result = .error .numTeamsUnsupported)
        | .error _ _ => false) = true) :
      ∃ t, attempt (nested 1 (failing.run 1)) ⟨block, []⟩ =
        .ok (.error .numTeamsUnsupported) t ∧ Regained 1 block t.block := by
    obtain ⟨-, -, ⟨result, -, -, t, run, -, -, -, regained⟩ | ⟨t, run, -⟩⟩ :=
      nested_unwinds (s := ⟨block, []⟩) ready failing
    · rw [run] at returns
      exact ⟨t, of_decide_eq_true returns ▸ run, regained⟩
    · rw [run] at returns
      cases returns
  have standing : Block.Standing 1 1 (BlockState.homeId 1) Block.twoLanes :=
    ⟨by decide, rfl, rfl, BlockState.sound_spmd, by decide +kernel,
      ⟨(Frame.initial 0).spmdMember BlockState.baseId 1 2, by decide +kernel⟩, fun id home => by
        have mine : (Block.twoLanes.state.thread 1).home = some (BlockState.homeId 1) := by
          decide +kernel
        rw [mine, Option.some.injEq] at home
        subst home
        decide +kernel⟩
  exact ⟨fails (.framed standing) (by decide +kernel),
    fails (.bare (by decide) rfl rfl (by decide)) (by decide +kernel)⟩

end Region

end RegionDispatch
