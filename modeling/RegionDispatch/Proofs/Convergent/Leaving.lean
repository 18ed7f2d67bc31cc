import RegionDispatch.Proofs.Convergent.Joining

/-! # Convergent exits commute

The lanes of a convergent team leave one by one, and nothing fixes who goes first. Each lane takes
its top, its hint and its own frame back from its job, and no job is about another lane's, so what
is left when all have gone can be said without the order they went in: it is the block before the
entry, with the hint of the source used up if nobody in the team was there to give it back. Only the
free list of the arena remembers the order.

* **`Block.Alike`** — equal but for that list.
* `BlockState.Vacated` — what is left when some lanes have gone, whatever their order was.
* **`Convergent.exits_commute`** — every order ends in the same block. -/

namespace RegionDispatch

open Dispatch

/-! ## Blocks up to the free list -/

namespace Block

variable {block other another : Block}

/-- The blocks store the same frames and agree in everything but the arena's bookkeeping. -/
structure Alike (block other : Block) : Prop where
  frames : ∀ id, block.state.arena.get? id = other.state.arena.get? id
  rest : block = { other with state := { other.state with arena := block.state.arena } }

theorem Alike.symm (h : block.Alike other) : other.Alike block :=
  ⟨fun id => (h.frames id).symm, by rw [h.rest]⟩

theorem Alike.trans (h : block.Alike other) (h' : other.Alike another) : block.Alike another := by
  refine ⟨fun id => (h.frames id).trans (h'.frames id), h.rest.trans ?_⟩
  rw [h'.rest]

end Block

/-! ## Leaving -/

/-- A thread that takes back what its lane had saved. -/
def Job.restore (job : Job) (construct : Construct) (thread : Thread) : Thread :=
  construct.withHint job.hint { thread with top := job.savedTop }

namespace BlockState

variable {state before mid after : BlockState} {construct : Construct} {tid other : Nat}
  {saved id : FrameId} {job : Job} {tidOf : Nat → Nat} {jobOf : Nat → Job} {lane : Nat}
  {lanes : List Nat}

@[simp] theorem size_vacate :
    (state.vacate tid saved job construct).threads.size = state.threads.size := by
  cases construct with
  | simd => simp [vacate]
  | parallel => cases pushed : job.pushed <;> simp [vacate, releases, pushed]

theorem thread_vacate_of_ne (ne : other ≠ tid) :
    (state.vacate tid saved job construct).thread other = state.thread other := by
  cases construct with
  | simd => rw [vacate, thread_setTop_of_ne ne, thread_modifyThread_of_ne ne]
  | parallel =>
    rw [vacate, thread_modifyThread_of_ne ne]
    cases job.pushed with
    | none => exact thread_setTop_of_ne ne
    | some id => exact thread_setTop_of_ne ne

theorem thread_vacate_self (inside : tid < state.threads.size) (holds : job.savedTop = some saved) :
    (state.vacate tid saved job construct).thread tid =
      job.restore construct (state.thread tid) := by
  rw [Job.restore, holds]
  cases construct with
  | simd =>
    rw [vacate, thread_setTop_self (by simpa using inside), thread_modifyThread_self inside]
    rfl
  | parallel =>
    cases pushed : job.pushed with
    | none =>
      rw [vacate, pushed, releases, thread_modifyThread_self (by simpa using inside),
        thread_setTop_self inside]
    | some id =>
      rw [vacate, pushed, releases, thread_modifyThread_self (by simpa using inside),
        thread_release, thread_setTop_self inside]

/-- Whoever leaves takes its own frame away. -/
theorem get?_vacate (blank : construct = .simd → job.pushed = none) :
    (state.vacate tid saved job construct).arena.get? id =
      if job.pushed = some id then none else state.arena.get? id := by
  cases construct with
  | simd =>
    rw [blank rfl]
    rfl
  | parallel =>
    cases pushed : job.pushed with
    | none =>
      rw [vacate, pushed]
      rfl
    | some gone =>
      rw [vacate, pushed, arena_modifyThread, releases, arena_release, arena_setTop,
        FrameArena.get?_release]
      simp only [Option.some.injEq, eq_comm]

/-- **The lanes have left**, in whatever order: their threads hold what their jobs say, their own
frames are gone, and nothing else has changed. -/
structure Vacated (construct : Construct) (tidOf : Nat → Nat) (jobOf : Nat → Job) (lanes : List Nat)
    (before after : BlockState) : Prop where
  size : after.threads.size = before.threads.size
  restored : ∀ lane ∈ lanes,
    after.thread (tidOf lane) = (jobOf lane).restore construct (before.thread (tidOf lane))
  others : ∀ tid, (∀ lane ∈ lanes, tidOf lane ≠ tid) → after.thread tid = before.thread tid
  gone : ∀ lane ∈ lanes, ∀ id, (jobOf lane).pushed = some id → after.arena.get? id = none
  kept : ∀ id, (∀ lane ∈ lanes, (jobOf lane).pushed ≠ some id) →
    after.arena.get? id = before.arena.get? id

theorem Vacated.nil (state : BlockState) : Vacated construct tidOf jobOf [] state state where
  size := rfl
  restored _ none := absurd none List.not_mem_nil
  others _ _ := rfl
  gone _ none := absurd none List.not_mem_nil
  kept _ _ := rfl

/-- One lane leaves and then others. -/
theorem Vacated.cons (inside : tidOf lane < state.threads.size)
    (holds : (jobOf lane).savedTop = some saved)
    (blank : construct = .simd → (jobOf lane).pushed = none)
    (apart : ∀ other ∈ lanes, tidOf other ≠ tidOf lane)
    (rest : Vacated construct tidOf jobOf lanes
      (state.vacate (tidOf lane) saved (jobOf lane) construct) after) :
    Vacated construct tidOf jobOf (lane :: lanes) state after where
  size := rest.size.trans size_vacate
  restored := by
    refine List.forall_mem_cons.2 ⟨?_, fun other member => ?_⟩
    · rw [rest.others _ apart, thread_vacate_self inside holds]
    · rw [rest.restored other member, thread_vacate_of_ne (apart other member)]
  others tid others := by
    rw [List.forall_mem_cons] at others
    rw [rest.others tid others.2, thread_vacate_of_ne others.1.symm]
  gone := by
    refine List.forall_mem_cons.2 ⟨fun id pushed => ?_, rest.gone⟩
    -- what the first lane released stays released
    by_cases again : ∃ other ∈ lanes, (jobOf other).pushed = some id
    · obtain ⟨other, member, pushed'⟩ := again
      exact rest.gone other member id pushed'
    · rw [rest.kept id fun other member pushed' => again ⟨other, member, pushed'⟩,
        get?_vacate blank, if_pos pushed]
  kept id others := by
    rw [List.forall_mem_cons] at others
    rw [rest.kept id others.2, get?_vacate blank, if_neg others.1]

end BlockState

namespace Convergent

variable {construct : Construct} {warp : Warp} {mask : LaneMask} {entry mid after : Entry}
  {block : Block} {hwOf tidOf : Nat → Nat} {jobs : Array Job} {lanes : List Nat} {lane : Nat}

/-- The members leave one after the other, each with its own job and nothing in between. -/
def leaveAll (construct : Construct) (jobs : Array Job) (order : List Member) :
    Dispatch Block Unit :=
  order.forM fun member => exit construct member.hwLane (jobs.getD member.lane {})

/-- A lane that has saved a top leaves. -/
theorem exit_eq_ok_vacate {hwLane tid : Nat} {saved : FrameId} {job : Job}
    (owns : block.Owns hwLane tid) (holds : job.savedTop = some saved) :
    exit construct hwLane job block =
      .ok () { block with state := block.state.vacate tid saved job construct } := by
  have ends : Ends (exit construct hwLane job) block _ _ := Block.ends_exit construct job
  rcases run : exit construct hwLane job block with ⟨⟨⟩, after⟩ | ⟨failure, after⟩
  · rw [ends_of_ok run] at ends
    obtain ⟨tid', saved', owns', holds', rfl⟩ := ends
    obtain rfl : tid = tid' := Except.ok.inj (owns.owner.symm.trans owns'.owner)
    obtain rfl : saved = saved' := Option.some.inj (holds.symm.trans holds')
    rfl
  · -- neither the lane nor the job gives a reason to refuse
    rw [ends_of_error run] at ends
    rcases ends with ⟨-, ⟨-, outside⟩ | ⟨-, unmapped⟩⟩ | ⟨-, -, none, -⟩
    · exact absurd owns.inside (Nat.not_lt.2 outside)
    · exact absurd owns.maps unmapped
    · rw [holds] at none
      cases none

/-- **All lanes leave.** -/
theorem leaveAll_eq_ok (memberOf : Nat → Member)
    (member_lane : ∀ lane, (memberOf lane).lane = lane ∧ (memberOf lane).hwLane = hwOf lane)
    (lanes : List Nat) :
    ∀ {block : Block}, (lanes.map tidOf).Nodup →
      (∀ lane ∈ lanes, block.Owns (hwOf lane) (tidOf lane)) →
      (∀ lane ∈ lanes, tidOf lane < block.state.threads.size) →
      (∀ lane ∈ lanes, ∃ saved, (jobs.getD lane {}).savedTop = some saved) →
      (∀ lane ∈ lanes, construct = .simd → (jobs.getD lane {}).pushed = none) →
      ∃ state, leaveAll construct jobs (lanes.map memberOf) block = .ok () { block with state } ∧
        BlockState.Vacated construct tidOf (fun lane => jobs.getD lane {}) lanes block.state
          state := by
  induction lanes with
  | nil => exact fun _ _ _ _ _ => ⟨_, rfl, .nil _⟩
  | cons lane lanes ih =>
    intro block nodup owns inside holds blank
    rw [List.map_cons, List.nodup_cons] at nodup
    rw [List.forall_mem_cons] at owns inside holds blank
    obtain ⟨saved, hsaved⟩ := holds.1
    have apart (other : Nat) (member : other ∈ lanes) : tidOf other ≠ tidOf lane :=
      fun same => nodup.1 (same ▸ List.mem_map_of_mem member)
    have first : exit construct (memberOf lane).hwLane (jobs.getD (memberOf lane).lane {}) block =
        .ok () { block with
          state := block.state.vacate (tidOf lane) saved (jobs.getD lane {}) construct } := by
      rw [(member_lane lane).1, (member_lane lane).2]
      exact exit_eq_ok_vacate owns.1 hsaved
    obtain ⟨state, run, vacated⟩ := @ih { block with
        state := block.state.vacate (tidOf lane) saved (jobs.getD lane {}) construct } nodup.2
      (fun other member => ⟨(owns.2 other member).inside, (owns.2 other member).owner⟩)
      (fun other member => BlockState.size_vacate.symm ▸ inside.2 other member) holds.2 blank.2
    exact ⟨state, (bind_of_ok first _).trans run, vacated.cons inside.1 hsaved blank.1 apart⟩

/-! ## Giving back -/

/-- A thread that has moved and comes back holds what it held, even if its hint was used up. -/
theorem restore_moved (thread : Thread) (moved own : Option FrameId) :
    (Job.mk (construct.hint thread) thread.top own).restore construct
        { thread with top := moved } = thread ∧
      (Job.mk (construct.hint thread) thread.top own).restore construct
        { construct.withHint 0 thread with top := moved } = thread := by
  cases construct <;> exact ⟨rfl, rfl⟩

section GivingBack

variable {source : Nat} {top : FrameId} {topOf : Nat → FrameId} {frameOf : Nat → Frame}
  {all team leaving : List Nat} {state : BlockState}
  (cleared : mid.block.state =
    entry.block.state.modifyThread (tidOf source) (construct.withHint 0))
  (taken : Taken construct top topOf frameOf (seatFor construct hwOf tidOf entry.block.outline) all
    team mid after)
  (members : ∀ lane, lane ∈ leaving ↔ lane ∈ team)
  (vacated : BlockState.Vacated construct tidOf (fun lane => after.jobs.getD lane {}) leaving
    after.block.state state)

include cleared taken members

/-- The job of a lane of the team says what its thread held before the entry. -/
theorem job_of_taken (among : lane ∈ leaving) :
    (after.jobs.getD lane {}) = ⟨construct.hint (entry.block.state.thread (tidOf lane)),
        (entry.block.state.thread (tidOf lane)).top, ownFrame construct (topOf lane)⟩ ∧
      ((entry.block.state.thread (tidOf lane)).top).isSome := by
  obtain ⟨old, stands, job⟩ := taken.saved lane ((members lane).1 among)
  rw [cleared, BlockState.top_modifyThread fun _ => Construct.top_withHint] at stands
  have stands' : (entry.block.state.thread (tidOf lane)).top = some old := stands
  rw [stands']
  exact ⟨job, rfl⟩

include vacated

/-- The frames are those before the entry. -/
theorem get?_of_vacated (id : FrameId) :
    state.arena.get? id = entry.block.state.arena.get? id := by
  have arena : mid.block.state.arena = entry.block.state.arena := by
    rw [cleared]
    rfl
  have pushed {lane : Nat} (among : lane ∈ leaving) :
      (after.jobs.getD lane {}).pushed = ownFrame construct (topOf lane) := by
    rw [(job_of_taken cleared taken members among).1]
  rw [← arena]
  by_cases own : ∃ lane ∈ leaving, (after.jobs.getD lane {}).pushed = some id
  · obtain ⟨lane, among, hid⟩ := own
    rw [vacated.gone lane among id hid]
    exact (taken.framed.get?_own ((members lane).1 among) (pushed among ▸ hid)).symm
  · rw [vacated.kept id fun lane among hid => own ⟨lane, among, hid⟩]
    refine taken.framed.get?_others fun lane among hid => own ⟨lane, (members lane).2 among, ?_⟩
    rw [pushed ((members lane).2 among), hid]

/-- A lane of the team gives its thread all of it back, also if it is the source. -/
theorem thread_of_member (among : lane ∈ leaving) :
    state.thread (tidOf lane) = entry.block.state.thread (tidOf lane) := by
  have moved : after.block.state.thread (tidOf lane) =
      { mid.block.state.thread (tidOf lane) with top := some (topOf lane) } :=
    taken.moved.moved lane ((members lane).1 among)
  rw [vacated.restored lane among, moved, (job_of_taken cleared taken members among).1, cleared,
    BlockState.thread_modifyThread]
  split
  · exact (restore_moved _ _ _).2
  · exact (restore_moved _ _ _).1

/-- All other threads are as the entry left them when the team formed. -/
theorem thread_of_others {tid : Nat} (others : ∀ lane ∈ leaving, tidOf lane ≠ tid) :
    state.thread tid = (entry.block.state.modifyThread (tidOf source)
      (construct.withHint 0)).thread tid := by
  have unmoved : after.block.state.thread tid = mid.block.state.thread tid :=
    taken.moved.others tid fun lane among => others lane ((members lane).2 among)
  rw [vacated.others tid others, unmoved, cleared]

end GivingBack

/-! ## A whole team -/

/-- **The block before the entry**, but for the hint of a source that is not in its own team, and
for the counters, which count the team. -/
def settled (construct : Construct) (warp : Warp) (team : Team) (entry after : Entry) : Block :=
  { entry.block with
    state :=
      if team.active.any (·.lane = team.source) then entry.block.state
      else entry.block.state.modifyThread (warp.owner entry.block.layout team.source)
        (construct.withHint 0)
    counters := after.block.counters }

theorem arena_settled (team : Team) :
    (settled construct warp team entry after).state.arena = entry.block.state.arena := by
  unfold settled
  dsimp only
  split <;> rfl

theorem size_settled (team : Team) :
    (settled construct warp team entry after).state.threads.size =
      entry.block.state.threads.size := by
  unfold settled
  dsimp only
  split
  · rfl
  · exact BlockState.size_modifyThread _

theorem thread_settled_of_ne {team : Team} {tid : Nat}
    (ne : tid ≠ warp.owner entry.block.layout team.source) :
    (settled construct warp team entry after).state.thread tid = entry.block.state.thread tid := by
  unfold settled
  dsimp only
  split
  · rfl
  · exact BlockState.thread_modifyThread_of_ne ne

section Leaving

variable {team : Team} {order : List Member}
  (entered : Entered construct warp mask entry team after)

include entered

/-- The lanes of the members in the order they leave. -/
theorem Entered.order_eq (perm : order.Perm team.active) :
    order = (order.map (·.lane)).map (memberFor (activity warp mask) warp.number team.size) ∧
      (order.map (·.lane)).Perm (teamLanes warp mask team.size) := by
  rw [entered.active] at perm
  constructor
  · rw [List.map_map]
    refine (List.map_id _).symm.trans (List.map_congr_left fun member among => ?_)
    obtain ⟨lane, -, rfl⟩ := List.mem_map.1 (perm.mem_iff.1 among)
    rfl
  · have lanes := perm.map (·.lane)
    rw [List.map_map] at lanes
    exact lanes.trans (.of_eq (List.map_id _))

/-- The source is active exactly if it is one of the lanes of the team. -/
theorem Entered.any_active :
    team.active.any (·.lane = team.source) = true ↔
      team.source ∈ teamLanes warp mask team.size := by
  rw [entered.active, List.any_map, List.any_eq_true]
  constructor
  · rintro ⟨lane, among, same⟩
    obtain rfl : lane = team.source := of_decide_eq_true same
    exact among
  · exact fun among => ⟨team.source, among, decide_eq_true rfl⟩

/-- Whoever has its thread back, and whoever has not, the threads are those of the settled block. -/
theorem Entered.thread_settled (distinct : Distinct warp mask entry.block.layout)
    {state : BlockState}
    (back : ∀ lane ∈ teamLanes warp mask team.size,
      state.thread (warp.owner entry.block.layout lane) =
        entry.block.state.thread (warp.owner entry.block.layout lane))
    (others : ∀ tid, (∀ lane ∈ teamLanes warp mask team.size,
        warp.owner entry.block.layout lane ≠ tid) →
      state.thread tid = (entry.block.state.modifyThread
        (warp.owner entry.block.layout team.source) (construct.withHint 0)).thread tid)
    (tid : Nat) :
    state.thread tid = (settled construct warp team entry after).state.thread tid := by
  by_cases mine : ∃ lane ∈ teamLanes warp mask team.size, warp.owner entry.block.layout lane = tid
  · obtain ⟨lane, among, rfl⟩ := mine
    rw [back lane among]
    by_cases same : lane = team.source
    · rw [settled, if_pos (entered.any_active.2 (same ▸ among))]
    · have masked := List.mem_of_mem_filter among
      rw [thread_settled_of_ne fun again => same (distinct lane masked _ entered.source again)]
  · have apart (lane : Nat) (among : lane ∈ teamLanes warp mask team.size) :
        warp.owner entry.block.layout lane ≠ tid := fun same => mine ⟨lane, among, same⟩
    rw [others tid apart]
    by_cases active : team.source ∈ teamLanes warp mask team.size
    · have ne := (apart team.source active).symm
      rw [BlockState.thread_modifyThread_of_ne ne, thread_settled_of_ne ne]
    · rw [settled, if_neg fun any => active (entered.any_active.1 any)]

/-- **All members leave**, in whatever order, and that settles the block. -/
theorem Entered.exists_leaveAll (distinct : Distinct warp mask entry.block.layout)
    (perm : order.Perm team.active) :
    ∃ final, leaveAll construct after.jobs order after.block = .ok () final ∧
      final.Alike (settled construct warp team entry after) := by
  obtain ⟨order_eq, lanes⟩ := entered.order_eq perm
  obtain ⟨mid, counters, top, topOf, frameOf, left, taken⟩ := entered.taken
  generalize order.map (·.lane) = leaving at order_eq lanes
  have members (lane : Nat) : lane ∈ leaving ↔ lane ∈ teamLanes warp mask team.size :=
    lanes.mem_iff
  have masked {lane : Nat} (among : lane ∈ leaving) : lane ∈ (activity warp mask).lanes :=
    List.mem_of_mem_filter ((members lane).1 among)
  have cleared : mid.block.state = entry.block.state.modifyThread
      (warp.owner entry.block.layout team.source) (construct.withHint 0) := by rw [left]
  have layout : after.block.layout = entry.block.layout := by rw [taken.block, left]
  have size : after.block.state.threads.size = entry.block.state.threads.size := by
    rw [taken.moved.size, cleared, BlockState.size_modifyThread]
  have job {lane : Nat} (among : lane ∈ leaving) := job_of_taken cleared taken members among
  have nodup : (leaving.map (warp.owner entry.block.layout)).Nodup := by
    refine (lanes.nodup_iff.2 ((LaneMask.nodup_lanes _).filter _)).map_on ?_
    exact fun lane among other among' => distinct lane (masked among) other (masked among')
  have owns (lane : Nat) (among : lane ∈ leaving) :
      after.block.Owns (warp.number lane) (warp.owner entry.block.layout lane) :=
    ⟨layout ▸ (entered.inside lane (masked among)).2.inside,
      layout ▸ (entered.inside lane (masked among)).2.owner⟩
  have inside (lane : Nat) (among : lane ∈ leaving) :
      warp.owner entry.block.layout lane < after.block.state.threads.size := by
    obtain ⟨old, stands⟩ := Option.isSome_iff_exists.1 (job among).2
    exact size ▸ BlockState.lt_size_of_top stands
  have holds (lane : Nat) (among : lane ∈ leaving) :
      ∃ saved, (after.jobs.getD lane {}).savedTop = some saved := by
    rw [(job among).1]
    exact Option.isSome_iff_exists.1 (job among).2
  have blank (lane : Nat) (among : lane ∈ leaving) (simd : construct = .simd) :
      (after.jobs.getD lane {}).pushed = none := by
    rw [(job among).1, simd]
    rfl
  obtain ⟨state, run, vacated⟩ := leaveAll_eq_ok
    (memberFor (activity warp mask) warp.number team.size) (fun _ => ⟨rfl, rfl⟩) leaving nodup owns
    inside holds blank
  have same : state =
      { (settled construct warp team entry after).state with arena := state.arena } := by
    refine BlockState.ext_thread rfl ?_ fun tid _ => entered.thread_settled distinct
      (fun lane among => thread_of_member cleared taken members vacated ((members lane).2 among))
      (fun tid others => thread_of_others cleared taken members vacated fun lane among =>
        others lane ((members lane).1 among)) tid
    exact vacated.size.trans (size.trans (size_settled team).symm)
  refine ⟨{ after.block with state }, order_eq ▸ run, fun id => ?_, ?_⟩
  · rw [arena_settled]
    exact get?_of_vacated cleared taken members vacated id
  · calc { after.block with state }
        = { entry.block with state, counters := after.block.counters } := by rw [taken.block, left]
      _ = { settled construct warp team entry after with
            state := { (settled construct warp team entry after).state with
              arena := state.arena } } :=
          congrArg (fun state => { entry.block with state, counters := after.block.counters }) same

end Leaving

/-- **Convergent exits commute.** Let the lanes of the activity mask belong to different threads.
After any entry that returned, the active lanes can leave in any two orders, each once, with its own
job and nothing in between: all exits return, and both orders end in the same block, but for the
arena's free list. But for its counters it is the block before the entry, with the hint of a source
that is not in its own team used up. -/
theorem exits_commute {team : Team} {order order' : List Member}
    (sound : entry.block.state.arena.Sound) (distinct : Distinct warp mask entry.block.layout)
    (returned : enter construct warp mask entry = .ok team after)
    (perm : order.Perm team.active) (perm' : order'.Perm team.active) :
    ∃ final final',
      leaveAll construct after.jobs order after.block = .ok () final ∧
      leaveAll construct after.jobs order' after.block = .ok () final' ∧
      final.Alike final' ∧ final.Alike (settled construct warp team entry after) := by
  have entered : Ends (enter construct warp mask) entry _ _ := ends_enter_entered sound distinct
  rw [ends_of_ok returned] at entered
  obtain ⟨final, run, alike⟩ := entered.exists_leaveAll distinct perm
  obtain ⟨final', run', alike'⟩ := entered.exists_leaveAll distinct perm'
  exact ⟨final, final', run, run', alike.trans alike'.symm, alike⟩

/-- Three SPMD lanes, of which the third asks for two threads and is to be the source. -/
def pairingEntry : Entry where
  block := {
    arch := .volta
    layout := ⟨3, 32, .spmd⟩
    initialized := true
    state := (BlockState.spmd 3 (.initial 0)).modifyThread 2 (Construct.parallel.withHint 2) }
  cursor := 2
  jobs := Array.replicate 32 {}

/-- The first two lanes form its team and leave in either order; the hint of the third is gone. -/
theorem exits_commute_pairing :
    ∃ team after final final',
      enter .parallel ⟨0, 32⟩ ⟨7⟩ pairingEntry = .ok team after ∧
      leaveAll .parallel after.jobs team.active after.block = .ok () final ∧
      leaveAll .parallel after.jobs team.active.reverse after.block = .ok () final' ∧
      final.Alike final' ∧ final.Alike (settled .parallel ⟨0, 32⟩ team pairingEntry after) := by
  have sound : pairingEntry.block.state.arena.Sound := BlockState.sound_spmd
  have distinct : Distinct ⟨0, 32⟩ ⟨7⟩ pairingEntry.block.layout := by
    intro lane _ other _ same
    have same : 0 * 32 + lane = 0 * 32 + other := same
    omega
  have returns : (enter .parallel ⟨0, 32⟩ ⟨7⟩ pairingEntry matches .ok _ _) = true := by
    decide +kernel
  -- from here on the entry is not to be run again
  generalize pairingEntry = entry at *
  rcases run : enter .parallel ⟨0, 32⟩ ⟨7⟩ entry with ⟨team, after⟩ | ⟨failure, after⟩
  · obtain ⟨final, final', leaves⟩ := exits_commute sound distinct run (.refl team.active)
      (List.reverse_perm team.active)
    exact ⟨team, after, final, final', rfl, leaves⟩
  · rw [run] at returns
    cases returns

end Convergent

end RegionDispatch
