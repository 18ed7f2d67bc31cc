import RegionDispatch.Proofs.Block.Limited
import RegionDispatch.Proofs.Convergent.Sources

/-! # The thread limit of a launch

Convergent regions move tops from lane to lane, put saved ones back, and release what was pushed,
with jobs that a program may keep as long as it likes and hand back on any lane, in any order and as
often as it likes. None of that leads a thread to a blank frame: what a job has saved was the top of
some thread when it was saved.

* **`Convergent.Custody`**, **`Convergent.Act`** — a block with every job it has handed out, and
  what a program can do with both.
* `Convergent.Custody.keeps_perform` — one act keeps the thread limit.
* `Convergent.obeys_of_create` — over all runs, what is queried and what is granted obey the launch.
-/

namespace RegionDispatch

open Dispatch
open BlockState (baseId homeId)

/-- What a lane saved on entry leads to no blank frame. -/
def Job.Away (blank : Set FrameId) (job : Job) : Prop := ∀ id, job.savedTop = some id → id ∉ blank

/-- A job that was never written leads nowhere. -/
theorem Job.away_blank (blank : Set FrameId) (hint : Nat) : Job.Away blank { hint } :=
  fun _ absent => nomatch absent

theorem Job.Away.mono {blank left : Set FrameId} {job : Job} (h : job.Away blank)
    (fewer : left ⊆ blank) : job.Away left :=
  fun id saved member => h id saved (fewer member)

namespace Convergent

variable {arch : Arch} {layout : BlockLayout} {limit : Nat} {blank : Set FrameId} {entry : Entry}
  {construct : Construct} {warp : Warp} {mask : LaneMask}

/-! ## Entering -/

/-- A block that keeps the limit, in an entry whose jobs lead to no blank frame. -/
structure Entering (arch : Arch) (layout : BlockLayout) (limit : Nat) (blank : Set FrameId)
    (entry : Entry) : Prop where
  block : Block.Limited arch layout limit blank entry.block
  jobs : ∀ lane, (entry.jobOf lane).Away blank

namespace Entering

theorem withJob (h : Entering arch layout limit blank entry) (lane : Nat) {f : Job → Job}
    (away : ∀ job, job.Away blank → (f job).Away blank) :
    Entering arch layout limit blank (entry.withJob lane f) := by
  refine ⟨h.block, fun other => ?_⟩
  rw [jobOf_withJob]
  split
  · exact away _ (h.jobs other)
  · exact h.jobs other

/-- A change of the frames and threads that keeps the limit. -/
theorem withState (h : Entering arch layout limit blank entry) {state : BlockState}
    (limited : state.Limited limit blank) :
    Entering arch layout limit blank { entry with block := { entry.block with state } } :=
  ⟨{ h.block with state := limited }, h.jobs⟩

theorem keeps_joinSimd {top : FrameId} (away : top ∉ blank) (seat : Seat) :
    Keeps (Entering arch layout limit blank) (joinSimd top seat) := fun _ h =>
  h.withState (h.block.state.setTop seat.thread away)

theorem keeps_joinParallel {top : FrameId} {frame : Frame} (away : top ∉ blank)
    (within : frame.Within limit blank) (size : Nat) (seat : Seat) (member : Member) :
    Keeps (Entering arch layout limit blank) (joinParallel top frame size seat member) := by
  intro entry h
  have derived : (frame.convergent top member.rank size).Within limit blank :=
    within.of_child away rfl rfl
  have pushed := h.block.state.push seat.thread derived
  exact (h.withJob seat.lane (f := ({ · with pushed := some _ })) fun _ away => away).withState
    pushed

/-- The members of a team join where its source stands. -/
theorem ends_joiner (h : Entering arch layout limit blank entry) (formation : Formation) :
    Ends (joiner construct formation) entry
      (fun join after => after = entry ∧
        ∀ seat member, Keeps (Entering arch layout limit blank) (join seat member))
      fun _ after => after = entry := by
  rw [joiner, ends_bind, ends_get, ends_bind, ends_granted]
  refine ⟨fun top htop => ?_, fun _ _ => rfl⟩
  have away := h.block.state.tops _ top (BlockState.top_eq_ok.1 htop)
  cases construct with
  | simd => exact ⟨rfl, fun seat _ => keeps_joinSimd away seat⟩
  | parallel =>
    rw [ends_bind, ends_granted]
    refine ⟨fun frame hframe => ⟨rfl, ?_⟩, fun _ _ => rfl⟩
    have within := h.block.state.frames top frame away (BlockState.frame_eq_ok.1 hframe)
    exact keeps_joinParallel away within _

/-- A lane saves its top, which is not blank. -/
theorem keeps_takeSeat {join : Seat → Member → Dispatch Entry Unit} (width : Nat)
    (joins : ∀ seat member, Keeps (Entering arch layout limit blank) (join seat member))
    (seat : Seat) (member : Member) :
    Keeps (Entering arch layout limit blank) (takeSeat width join seat member) := by
  intro entry h
  rw [takeSeat, ends_bind, ends_get, ends_bind, ends_refuseIf]
  refine ⟨fun _ => h, fun _ => ?_⟩
  rw [ends_bind, ends_of_ok (modifyJob_eq_ok _ _ _)]
  have fresh := h.withJob seat.lane (f := fun _ => { hint := seat.hint }) fun _ _ =>
    Job.away_blank blank seat.hint
  split
  · simp only [ends_bind, ends_get, ends_granted]
    refine ⟨fun saved htop => ?_, fun _ _ => fresh⟩
    rw [ends_of_ok (modifyJob_eq_ok _ _ _)]
    have away := h.block.state.tops _ saved (BlockState.top_eq_ok.1 htop)
    refine joins seat member _ (fresh.withJob seat.lane (f := ({ · with savedTop := some saved }))
      fun job _ id same => ?_)
    exact Option.some.inj same ▸ away
  · exact fresh

theorem keeps_takeSeats {join : Seat → Member → Dispatch Entry Unit} (width : Nat)
    (joins : ∀ seat member, Keeps (Entering arch layout limit blank) (join seat member))
    (pairs : List (Seat × Member)) :
    Keeps (Entering arch layout limit blank) (takeSeats width join pairs) := by
  induction pairs with
  | nil => exact Keeps.pure ()
  | cons pair pairs ih => exact (keeps_takeSeat width joins pair.1 pair.2).bind fun _ => ih

/-- **Entering** a convergent region keeps the limit, whether or not it is refused. -/
theorem keeps_enter : Keeps (Entering arch layout limit blank) (enter construct warp mask) := by
  intro entry h
  rw [enter, ends_bind, ends_get, ends_bind, ends_refuseIf]
  refine ⟨fun _ => h, fun _ => ?_⟩
  rw [ends_bind]
  -- a formed team has spent a hint, and no job is written yet
  have hinted (tid : Nat) : Block.Limited arch layout limit blank { entry.block with
      state := entry.block.state.modifyThread tid (construct.withHint 0) } :=
    h.block.modifyThread tid fun _ => by cases construct <;> rfl
  have jobs {after : Entry} (same : after.jobs = entry.jobs) (lane : Nat) :
      (after.jobOf lane).Away blank := by
    rw [Entry.jobOf, same]
    exact h.jobs lane
  refine (effect_formTeam h.block.runtime).mono ?_ ?_
  · intro formation formed forms
    have ready : Entering arch layout limit blank formed := by
      obtain ⟨counters, block⟩ := forms.block
      exact ⟨block ▸ { hinted formation.sourceThread with }, jobs forms.jobs⟩
    rw [ends_bind]
    refine (ready.ends_joiner formation).mono ?_ ?_
    · rintro join _ ⟨rfl, joins⟩
      rw [ends_bind]
      exact (keeps_takeSeats warp.width joins _ _ ready).mono (fun _ _ kept => kept)
        fun _ _ kept => kept
    · rintro _ _ rfl
      exact ready
  · rintro _ after ⟨same, unchanged | ⟨tid, spent⟩, -⟩
    · exact ⟨unchanged ▸ h.block, jobs same⟩
    · exact ⟨spent ▸ hinted tid, jobs same⟩

end Entering

/-! ## Everything a program can do -/

/-- A block with every job that it has handed out. -/
structure Custody where
  /-- The block. -/
  block : Block
  /-- The jobs, as they were after each entry. -/
  jobs : List Job

/-- A job that was handed out; a blank one where there is none of this number. -/
def Custody.job (custody : Custody) (number : Nat) : Job := custody.jobs.getD number {}

/-- What a program can do with a block and the jobs that the block has handed out. Every job may be
used on any lane, in any order, and again and again. What a whole convergent loop does is a sequence
of these: entries with one buffer, fences, what the body does, and exits. -/
inductive Act where
  /-- A call outside convergent regions. -/
  | call (op : Operation)
  /-- A parallel construct reached inside a region begins on a lane. -/
  | nested (lane : Nat)
  /-- A group enters a convergent region, with the jobs of these numbers in its buffer. -/
  | enter (construct : Construct) (warp : Warp) (mask : LaneMask) (cursor : Nat) (buffer : List Nat)
  /-- A lane leaves a convergent region, with the job of this number. -/
  | exit (construct : Construct) (hwLane number : Nat)
  /-- A fence of one warp. -/
  | fence

namespace Custody

/-- A step on the block. -/
def onBlock {α : Type} : Dispatch Block α → Dispatch Custody α :=
  zoom (fun custody => (custody.block, custody.jobs)) Custody.mk

/-- Enters a convergent region. What the buffer holds afterwards is handed out, whether or not the
entry was refused. -/
def enter (construct : Construct) (warp : Warp) (mask : LaneMask) (cursor : Nat)
    (buffer : List Nat) : Dispatch Custody Team := do
  let jobs := (buffer.map (← get).job).toArray
  zoom (fun custody => (⟨custody.block, cursor, jobs⟩, custody.jobs))
    (fun entry jobs => ⟨entry.block, jobs ++ entry.jobs.toList⟩)
    (Convergent.enter construct warp mask)

/-- What an act does. -/
def perform : Act → Dispatch Custody Unit
  | .call op => onBlock op.perform
  | .nested lane => onBlock (Region.beginNested lane)
  | .enter construct warp mask cursor buffer => do
    let _ ← enter construct warp mask cursor buffer
    return ()
  | .exit construct hwLane number => do
    onBlock (Convergent.exit construct hwLane ((← get).job number))
  | .fence => onBlock Block.fence

/-- What a sequence of acts leads to. A refused act changes what it changes; after a fault nothing
follows. -/
def after : List Act → Custody → Custody
  | [], custody => custody
  | act :: acts, custody =>
    match attempt (perform act) custody with
    | .ok _ next => after acts next
    | .error _ last => last

/-- A block that keeps the limit, and has handed out jobs that lead to no blank frame. -/
structure Limited (arch : Arch) (layout : BlockLayout) (limit : Nat) (custody : Custody) :
    Prop where
  limited : ∃ blank, Block.Limited arch layout limit blank custody.block ∧
    ∀ job ∈ custody.jobs, job.Away blank

variable {custody : Custody}

/-- A new generic block has handed out nothing. -/
theorem limited_of_create {config : LaunchConfig} {block : Block}
    (created : Block.create arch .generic config = .ok block) :
    Limited arch block.layout config.threadLimit.toNat ⟨block, []⟩ := by
  obtain ⟨blank, limited⟩ := Block.limited_of_create created
  exact ⟨blank, limited, fun _ none => absurd none List.not_mem_nil⟩

theorem job_away {blank : Set FrameId} (away : ∀ job ∈ custody.jobs, job.Away blank)
    (number : Nat) : (custody.job number).Away blank := by
  rw [job, List.getD_eq_getElem?_getD]
  cases found : custody.jobs[number]? with
  | none => exact Job.away_blank blank 0
  | some job => exact away job (List.mem_of_getElem? found)

/-- **One act** keeps the limit. -/
theorem keeps_perform (act : Act) : Keeps (Limited arch layout limit) (perform act) := by
  rintro custody ⟨blank, limited, away⟩
  -- blank frames only become fewer, and so the jobs stay away from them
  have fewer {left : Set FrameId} {block : Block} (le : left ⊆ blank)
      (limited : Block.Limited arch layout limit left block) :
      Limited arch layout limit ⟨block, custody.jobs⟩ :=
    ⟨left, limited, fun job handed => (away job handed).mono le⟩
  cases act with
  | call op =>
    rw [perform, onBlock, ends_zoom]
    refine (Block.effect_perform limited.runtime op).mono ?_ ?_
    all_goals
      intro _ block effect
      obtain ⟨left, le, limited'⟩ := effect.keepsLimit limited
      exact fewer le limited'
  | nested lane =>
    rw [perform, onBlock, ends_zoom]
    have begun {tid : Nat} {returned : Bool} {block : Block}
        (effect : Block.Effect { custody.block with
          state := (custody.block.state.takePendingThreads tid).2 } (.beginSerial lane) returned
          block) : Limited arch layout limit ⟨block, custody.jobs⟩ := by
      obtain ⟨left, le, limited'⟩ := effect.keepsLimit (limited.modifyThread tid fun _ => rfl)
      exact fewer le limited'
    refine (Block.effect_beginNested limited.runtime).mono ?_ ?_
    · rintro _ _ ⟨tid, -, effect⟩
      exact begun effect
    · rintro _ _ (rfl | ⟨tid, -, effect⟩)
      · exact fewer subset_rfl limited
      · exact begun effect
  | enter construct warp mask cursor buffer =>
    rw [perform, ends_bind, enter, ends_bind, ends_get, ends_zoom]
    have entering : Entering arch layout limit blank
        ⟨custody.block, cursor, (buffer.map custody.job).toArray⟩ := by
      refine ⟨limited, fun lane => ?_⟩
      rw [Entry.jobOf, Array.getD_eq_getD_getElem?, List.getElem?_toArray, List.getElem?_map]
      cases buffer[lane]? with
      | none => exact Job.away_blank blank 0
      | some number => exact job_away away number
    have done (entry : Entry) (kept : Entering arch layout limit blank entry) :
        Limited arch layout limit ⟨entry.block, custody.jobs ++ entry.jobs.toList⟩ := by
      refine ⟨blank, kept.block, fun job handed => ?_⟩
      rcases List.mem_append.1 handed with earlier | written
      · exact away job earlier
      · obtain ⟨lane, found⟩ := List.getElem?_of_mem written
        have kept := kept.jobs lane
        rwa [Entry.jobOf, Array.getD_eq_getD_getElem?, ← Array.getElem?_toList, found] at kept
    exact (Entering.keeps_enter _ entering).mono (fun _ => done) fun _ => done
  | exit construct hwLane number =>
    rw [perform, ends_bind, ends_get, onBlock, ends_zoom]
    refine (Block.effect_exit construct _).mono ?_ ?_
    · rintro _ _ ⟨tid, saved, -, same, rfl⟩
      have unblank := job_away away number saved same
      obtain ⟨left, le, state⟩ :=
        limited.state.vacate tid unblank (custody.job number) construct
      exact fewer le { limited with state, template := limited.template_mono le }
    · rintro _ _ (rfl | ⟨tid, -, rfl⟩)
      · exact fewer subset_rfl limited
      · exact fewer subset_rfl (limited.modifyThread tid fun _ => by cases construct <;> rfl)
  | fence =>
    rw [perform, onBlock, ends_zoom]
    refine (Block.effect_tally _).mono ?_ ?_
    · rintro _ _ ⟨counters, rfl⟩
      exact fewer subset_rfl { limited with }
    · rintro _ _ rfl
      exact fewer subset_rfl limited

/-- **A run** keeps the limit. -/
theorem limited_after (acts : List Act) :
    ∀ {custody : Custody}, Limited arch layout limit custody →
      Limited arch layout limit (after acts custody) := by
  induction acts with
  | nil => exact fun h => h
  | cons act acts ih =>
    intro custody h
    have step : Ends (attempt (perform act)) custody
        (fun _ t => Limited arch layout limit t) fun _ t => Limited arch layout limit t := by
      rw [ends_attempt]
      refine (keeps_perform act custody h).mono (fun _ _ kept => kept) fun failure _ kept => ?_
      cases failure <;> exact kept
    unfold Ends at step
    rw [after]
    split at step
    · next performed => rw [performed]; exact ih step
    · next performed => rw [performed]; exact step

end Custody

/-! ## What the launch promises -/

/-- **The launch is obeyed over all runs.** Whatever a program does with a new generic block of a
valid device and with the jobs it is handed: every lane that asks for its thread limit, or for its
frame, is told the limit of the launch, and every team that the master is granted keeps to the lanes
and the limit of the launch, to the pending clause or else the requested threads, and to whole
groups; and the clause is spent. -/
theorem obeys_of_create {config : LaunchConfig} {block : Block} (valid : arch.isValid = true)
    (created : Block.create arch .generic config = .ok block) (acts : List Act) {now : Block}
    (reached : (Custody.after acts ⟨block, []⟩).block = now) :
    (∀ lane count after, Block.threadLimit lane now = .ok count after →
      count = config.threadLimit.toNat) ∧
    (∀ lane frame after, Block.currentFrame lane now = .ok frame after →
      frame.threadLimit = config.threadLimit.toNat) ∧
    ∀ lane work fullRuntime decision after,
      Block.prepareRegion lane work fullRuntime now = .ok decision after →
      Block.Obeys config.threadLimit.toNat now after decision.size := by
  obtain ⟨blank, limited, -⟩ := Custody.limited_after acts (Custody.limited_of_create created)
  rw [reached] at limited
  have width : block.layout.groupWidth = arch.width := by
    obtain ⟨size, -, rfl⟩ :=
      Block.eq_of_create created (Block.initialized_of_create_generic created)
    rfl
  refine ⟨fun lane count after told => ?_, fun lane frame after told => ?_, ?_⟩
  · exact (ends_of_ok told).1 limited.ends_threadLimit
  · exact (ends_of_ok told).1 limited.ends_currentFrame
  · intro lane work fullRuntime decision after granted
    exact limited.obeys valid width granted

/-- A new generic block of four warps, launched with a thread limit of 70. -/
def fourWarps : Block where
  arch := .volta
  layout := ⟨128, 32, .generic⟩
  initialized := true
  state := .withStacks 128 (.initial 70)

/-- Lanes 4 and 5 enter together, while lane 5 is in a serialized region of its own. Lane 7 leaves
twice with the job of lane 4, and lane 5 once with the job of lane 7, which saved nothing. The
master asks for 40 threads. -/
def wanderingJobs : List Act :=
  [.call (.beginSerial 5), .enter .parallel ⟨0, 32⟩ (.ofLanes [4, 5]) 0 (List.replicate 32 0),
    .exit .parallel 7 4, .exit .parallel 7 4, .exit .parallel 5 7, .nested 4,
    .call (.pushThreads 96 40)]

theorem obeys_wanderingJobs : ∃ now after : Block,
    (Custody.after wanderingJobs ⟨fourWarps, []⟩).block = now ∧
    (∀ count last, Block.threadLimit 4 now = .ok count last → count = 70) ∧
    Block.prepareRegion 96 ⟨1, Nat.one_pos⟩ true now = .ok ⟨32, .groupRounding⟩ after ∧
    Block.Obeys 70 now after 32 := by
  have created : Block.create .volta .generic
      { grid := .line 1, block := .line 128, threadLimit := 70 } = .ok fourWarps := rfl
  have granted : (Block.prepareRegion 96 ⟨1, Nat.one_pos⟩ true
      (Custody.after wanderingJobs ⟨fourWarps, []⟩).block
        matches .ok ⟨32, .groupRounding⟩ _) = true := by decide +kernel
  obtain ⟨told, -, obeys⟩ := obeys_of_create (by decide) created wanderingJobs rfl
  split at granted
  · next after posts => exact ⟨_, after, rfl, told 4, posts, obeys _ _ _ _ _ posts⟩
  · cases granted

end Convergent

end RegionDispatch
