import RegionDispatch.Proofs.Block.Create
import RegionDispatch.Proofs.Convergent.Team
import RegionDispatch.Proofs.Recording

/-! # Teams on one thread

The lanes of the master warp of a generic block all stand for logical thread 0. A parallel team of
theirs piles its frames up on one stack, one for each lane, and the lanes leave in the order in
which they came: each puts the thread back where it found it and releases its own frame. The lane
that leaves last found the thread on the frame of the lane before it, and that one is released
already. So only a team of one lane leaves its thread on a frame that is still there, and the next
lane that would be a source finds none.

* **`Outline.Lent`**, **`Outline.Chained`** — what a team has stored, and what its lanes have saved.
* `Convergent.takeSeats_chained`, `Convergent.exits_chained` — piling up, and leaving in order.
* `Convergent.loop_shared` — a loop with an idle body on lanes of one thread.
* `Convergent.loop_masterWarp` — the same for the master warp of a new block. -/

namespace RegionDispatch

open Dispatch

namespace Outline

variable {jobOf jobOf' : Nat → Job} {base outline : Outline} {lanes rest : List Nat} {lane : Nat}
  {old top id : FrameId}

/-- **What the lanes have stored**: one frame each, under ids that were not live in the base. -/
structure Lent (jobOf : Nat → Job) (lanes : List Nat) (base outline : Outline) : Prop where
  live : ∀ id, outline.live id = true ↔
    base.live id = true ∨ ∃ lane ∈ lanes, (jobOf lane).pushed = some id
  fresh : ∀ lane ∈ lanes, ∀ id, (jobOf lane).pushed = some id → base.live id = false ∧
    ∀ other ∈ lanes, (jobOf other).pushed = some id → other = lane

/-- **What lanes of one thread have saved**: each the frame of the lane before it, the first one
`old`. The frame of the last one is `top`. -/
def Chained (jobOf : Nat → Job) : (old : FrameId) → List Nat → (top : FrameId) → Prop
  | old, [], top => top = old
  | old, lane :: lanes, top => (jobOf lane).savedTop = some old ∧
    ∃ id, (jobOf lane).pushed = some id ∧ Chained jobOf id lanes top

theorem Chained.append (saved : (jobOf lane).savedTop = some top)
    (pushed : (jobOf lane).pushed = some id) (lanes : List Nat) :
    ∀ {old : FrameId}, Chained jobOf old lanes top → Chained jobOf old (lanes ++ [lane]) id := by
  induction lanes with
  | nil =>
    rintro _ rfl
    exact ⟨saved, id, pushed, rfl⟩
  | cons first lanes ih =>
    rintro _ ⟨saved', next, pushed', later⟩
    exact ⟨saved', next, pushed', ih later⟩

/-- Only the jobs of the lanes matter. -/
theorem Chained.congr (lanes : List Nat) (same : ∀ lane ∈ lanes, jobOf' lane = jobOf lane) :
    ∀ {old : FrameId}, Chained jobOf old lanes top → Chained jobOf' old lanes top := by
  induction lanes with
  | nil => exact fun chained => chained
  | cons lane lanes ih =>
    rintro _ ⟨saved, id, pushed, later⟩
    have here := same lane List.mem_cons_self
    refine ⟨here ▸ saved, id, here ▸ pushed, ih (fun other member => ?_) later⟩
    exact same other (List.mem_cons_of_mem lane member)

namespace Lent

theorem nil (outline : Outline) : Lent jobOf [] outline outline where
  live id := by simp
  fresh _ member := absurd member List.not_mem_nil

theorem congr (h : Lent jobOf lanes base outline)
    (same : ∀ lane ∈ lanes, jobOf' lane = jobOf lane) :
    Lent jobOf' lanes base outline where
  live id := by
    rw [h.live]
    refine or_congr_right (exists_congr fun lane => and_congr_right fun member => ?_)
    rw [same lane member]
  fresh lane member id pushed := by
    rw [same lane member] at pushed
    refine ⟨(h.fresh lane member id pushed).1, fun other member' pushed' => ?_⟩
    rw [same other member'] at pushed'
    exact (h.fresh lane member id pushed).2 other member' pushed'

/-- Storing a frame for one more lane. -/
theorem add (h : Lent jobOf lanes base outline) (pushed : (jobOf lane).pushed = some id)
    (dead : outline.live id = false) : Lent jobOf (lanes ++ [lane]) base (outline.add id) := by
  have new : ¬(base.live id = true ∨ ∃ other ∈ lanes, (jobOf other).pushed = some id) := by
    rw [← h.live, dead]
    exact Bool.false_ne_true
  refine ⟨fun other => ?_, fun other member other' stored => ?_⟩
  · refine (live_adds (some id)).trans ?_
    simp only [h.live, List.mem_append, List.mem_singleton, or_and_right, exists_or,
      exists_eq_left, pushed, or_assoc]
  · rcases List.mem_append.1 member with member | last
    · -- a frame stored before is not the one stored now
      have apart : other' ≠ id := fun same => new (.inr ⟨other, member, same ▸ stored⟩)
      refine ⟨(h.fresh other member other' stored).1, fun another member' stored' => ?_⟩
      rcases List.mem_append.1 member' with member' | last
      · exact (h.fresh other member other' stored).2 another member' stored'
      · rw [List.mem_singleton.1 last, pushed, Option.some.injEq] at stored'
        exact absurd stored'.symm apart
    · obtain rfl := List.mem_singleton.1 last
      obtain rfl := Option.some.inj (pushed.symm.trans stored)
      refine ⟨Bool.eq_false_of_not_eq_true fun live => new (.inl live), ?_⟩
      intro another member' stored'
      rcases List.mem_append.1 member' with member' | last
      · exact absurd (.inr ⟨another, member', stored'⟩) new
      · exact List.mem_singleton.1 last

/-- A lane that leaves gives up its own frame only. -/
theorem remove (h : Lent jobOf (lane :: rest) base outline) (alone : lane ∉ rest)
    (pushed : (jobOf lane).pushed = some id) : Lent jobOf rest base (outline.remove id) := by
  have mine : lane ∈ lane :: rest := List.mem_cons_self
  refine ⟨fun other => ?_, fun other member other' stored => ?_⟩
  · refine (live_removes (some id)).trans ((and_congr_left' (h.live other)).trans ?_)
    constructor
    · rintro ⟨live | ⟨another, member, stored⟩, kept⟩
      · exact .inl live
      · rcases List.mem_cons.1 member with rfl | member
        · exact absurd (pushed.symm.trans stored) kept
        · exact .inr ⟨another, member, stored⟩
    · rintro (live | ⟨another, member, stored⟩)
      · refine ⟨.inl live, fun same => ?_⟩
        obtain rfl := Option.some.inj same
        rw [(h.fresh lane mine id pushed).1] at live
        cases live
      · refine ⟨.inr ⟨another, List.mem_cons_of_mem lane member, stored⟩, fun same => ?_⟩
        obtain rfl := Option.some.inj same
        have again := (h.fresh lane mine id pushed).2 another (List.mem_cons_of_mem lane member)
          stored
        exact alone (again ▸ member)
  · refine ⟨(h.fresh other (List.mem_cons_of_mem lane member) other' stored).1, ?_⟩
    exact fun another member' => (h.fresh other (List.mem_cons_of_mem lane member) other' stored).2
      another (List.mem_cons_of_mem lane member')

/-- With nothing stored the live ids are those of the base. -/
theorem live_eq (h : Lent jobOf [] base outline) : outline.live = base.live := by
  funext id
  rw [Bool.eq_iff_iff, h.live]
  exact or_iff_left fun ⟨_, nobody, _⟩ => absurd nobody List.not_mem_nil

end Lent

end Outline

namespace Convergent

variable {ω : Type} {layout : BlockLayout} {warp : Warp} {mask : LaneMask} {hwOf : Nat → Nat}
  {tid limit size : Nat} {outline base : Outline} {entry : Entry} {block : Block}
  {old top source : FrameId} {frame : Frame} {seat : Seat} {member : Member}

/-! ## Piling up -/

/-- **Seating one lane** in a parallel team: it saves the top of its thread and puts the thread on a
new frame. -/
theorem takeSeat_parallel (limit size : Nat) (source : FrameId) (frame : Frame)
    (active : member.active = true) (inside : seat.lane < entry.jobs.size)
    (outlined : Block.Outlined layout outline entry.block)
    (standing : outline.tops seat.thread = some old) :
    ∃ after id, takeSeat limit (joinParallel source frame size) seat member entry = .ok () after ∧
      Kept (· = seat.lane) entry after ∧ after.block.counters = entry.block.counters ∧
      after.jobOf seat.lane = { hint := seat.hint, savedTop := some old, pushed := some id } ∧
      outline.live id = false ∧
      Block.Outlined layout ((outline.add id).setTop seat.thread id) after.block := by
  have blank := jobOf_withJob_self (fun _ => { hint := seat.hint }) inside
  have kept := kept_withJob entry seat.lane fun _ => { hint := seat.hint }
  generalize hinted : entry.withJob seat.lane (fun _ => { hint := seat.hint }) = noted
    at blank kept
  have saved := jobOf_withJob_self ({ · with savedTop := some old }) (kept.size.symm ▸ inside)
  have kept' := kept_withJob noted seat.lane ({ · with savedTop := some old })
  generalize saves : noted.withJob seat.lane ({ · with savedTop := some old }) = ready
    at saved kept'
  have same : ready.block = entry.block := by rw [← saves, ← hinted]; rfl
  have inside' : seat.lane < ready.jobs.size := (kept'.size.trans kept.size).symm ▸ inside
  have pushed := jobOf_withJob_self ({ · with pushed := some entry.block.state.arena.nextId })
    inside'
  have kept'' := kept_withJob ready seat.lane
    ({ · with pushed := some entry.block.state.arena.nextId })
  have id : (entry.block.state.push seat.thread
      (frame.convergent source member.rank size)).1 = entry.block.state.arena.nextId :=
    BlockState.push_fst
  refine ⟨{ ready.withJob seat.lane ({ · with pushed := some entry.block.state.arena.nextId }) with
      block := { entry.block with state := (entry.block.state.push seat.thread
        (frame.convergent source member.rank size)).2 } }, entry.block.state.arena.nextId,
    ?_, ?_, rfl, ?_, outlined.live_nextId, outlined.push standing _⟩
  · rw [takeSeat_of_active inside active ((outlined.top _).trans standing), hinted, saves, ← id]
    simp only [joinParallel, get_bind, same]
    show EStateM.Result.ok () _ = EStateM.Result.ok () _
    simp only [Entry.withJob, same]
  · have all := (kept.trans kept').trans kept''
    exact ⟨all.cursor, all.size, fun lane ne => all.others lane (by simpa using ne)⟩
  · refine pushed.trans ?_
    rw [saved, blank]

/-- **Seating lanes of one thread** piles their frames up on its stack. -/
theorem takeSeats_chained {seatOf : Nat → Seat} {memberOf : Nat → Member} (limit size : Nat)
    (source : FrameId) (frame : Frame) (hlane : ∀ lane, (seatOf lane).lane = lane)
    (hthread : ∀ lane, (seatOf lane).thread = tid) (waiting : List Nat) :
    ∀ {entry : Entry} {outline : Outline} {seated : List Nat} {top : FrameId},
      Block.Outlined layout outline entry.block → outline.tops tid = some top →
      Outline.Lent entry.jobOf seated base outline → Outline.Chained entry.jobOf old seated top →
      (seated ++ waiting).Nodup → (∀ lane ∈ waiting, (memberOf lane).active = true) →
      (∀ lane ∈ waiting, lane < entry.jobs.size) →
      ∃ after outline' top', takeSeats limit (joinParallel source frame size)
          (waiting.map fun lane => (seatOf lane, memberOf lane)) entry = .ok () after ∧
        after.cursor = entry.cursor ∧ after.jobs.size = entry.jobs.size ∧
        after.block.counters = entry.block.counters ∧
        Block.Outlined layout outline' after.block ∧ outline'.tops tid = some top' ∧
        Outline.Lent after.jobOf (seated ++ waiting) base outline' ∧
        Outline.Chained after.jobOf old (seated ++ waiting) top' := by
  -- by induction on the lanes still waiting, the frame pushed last being the top
  induction waiting with
  | nil =>
    intro entry outline seated top outlined standing lent chained _ _ _
    rw [List.append_nil]
    exact ⟨entry, outline, top, rfl, rfl, rfl, rfl, outlined, standing, lent, chained⟩
  | cons lane waiting ih =>
    intro entry outline seated top outlined standing lent chained nodup active inside
    have mine : lane ∈ lane :: waiting := List.mem_cons_self
    have inside' : (seatOf lane).lane < entry.jobs.size := by rw [hlane]; exact inside lane mine
    have standing' : outline.tops (seatOf lane).thread = some top := by rw [hthread, standing]
    obtain ⟨mid, id, run, kept, counters, job, dead, outlined'⟩ :=
      takeSeat_parallel limit size source frame (active lane mine) inside' outlined standing'
    rw [hlane] at kept job
    rw [hthread] at outlined'
    have others (other : Nat) (member : other ∈ seated) : mid.jobOf other = entry.jobOf other := by
      refine kept.others other fun same => ?_
      exact (List.disjoint_of_nodup_append nodup) member (same ▸ mine)
    have split : seated ++ lane :: waiting = (seated ++ [lane]) ++ waiting := by simp
    have lent' : Outline.Lent mid.jobOf (seated ++ [lane]) base
        ((outline.add id).setTop tid id) := by
      have added := (lent.congr others).add (congrArg Job.pushed job) dead
      exact ⟨added.live, added.fresh⟩
    obtain ⟨after, outline', top', run', cursor, size', counters', rest⟩ := ih outlined'
      (Function.update_self _ _ _) lent'
      ((chained.congr seated others).append (congrArg Job.savedTop job) (congrArg Job.pushed job))
      (split ▸ nodup) (fun other member => active other (List.mem_cons_of_mem lane member))
      (fun other member => kept.size.symm ▸ inside other (List.mem_cons_of_mem lane member))
    rw [split]
    exact ⟨after, outline', top', (bind_of_ok run _).trans run', cursor.trans kept.cursor,
      size'.trans kept.size, counters'.trans counters, rest⟩

/-- A team forms around the lowest lane left as long as there is room to count it. -/
theorem formTeam_eq_ok {construct : Construct} {source : Nat} {rest : List Nat}
    (placed : Placed warp (activity warp mask).lanes layout hwOf fun _ => tid)
    (left : ((activity warp mask).remainingFrom entry.cursor).lanes = source :: rest)
    (outlined : Block.Outlined layout outline entry.block) (standing : outline.tops tid = some old)
    (room : entry.block.counters.convergentTeams + 1 < UInt32.size) :
    ∃ after, formTeam construct warp mask entry =
        .ok ⟨teamFor construct (activity warp mask) hwOf (fun _ => tid) outline source rest,
          (activity warp mask).lanes.map (seatFor construct hwOf (fun _ => tid) outline), tid⟩
          after ∧
      after.cursor = source + 1 ∧ after.jobs = entry.jobs ∧
      Block.Outlined layout (outline.setHint construct tid 0) after.block ∧
      after.block.counters = { entry.block.counters with
        convergentTeams := entry.block.counters.convergentTeams + 1 } := by
  have forms : Ends (formTeam construct warp mask) entry _ _ :=
    ends_formTeam placed left outlined standing
  unfold Ends at forms
  split at forms
  · next formation after run =>
    obtain ⟨rfl, rest⟩ := forms
    exact ⟨after, run, rest⟩
  · exact absurd forms.2.2 (Nat.not_le.2 room)

/-- **Entering** on lanes of one thread, of which all join. -/
theorem enter_of_live (entry : Entry)
    (placed : Placed warp (activity warp mask).lanes layout hwOf fun _ => tid)
    {source : Nat} {rest : List Nat}
    (left : ((activity warp mask).remainingFrom entry.cursor).lanes = source :: rest)
    (outlined : Block.Outlined layout outline entry.block) (covered : warp.width ≤ entry.jobs.size)
    (standing : outline.tops tid = some old) (live : outline.live old = true)
    (unhinted : outline.hints .parallel tid = 0)
    (room : entry.block.counters.convergentTeams + 1 < UInt32.size) :
    ∃ after current top, enter .parallel warp mask entry =
        .ok (teamFor .parallel (activity warp mask) hwOf (fun _ => tid) outline source rest) after ∧
      after.cursor = source + 1 ∧ after.jobs.size = entry.jobs.size ∧
      after.block.counters = { entry.block.counters with
        convergentTeams := entry.block.counters.convergentTeams + 1 } ∧
      Block.Outlined layout current after.block ∧ current.tops tid = some top ∧
      Outline.Lent after.jobOf (activity warp mask).lanes outline current ∧
      Outline.Chained after.jobOf old (activity warp mask).lanes top := by
  obtain ⟨mid, formed, cursor, jobs, consumed, counters⟩ :=
    formTeam_eq_ok placed left outlined standing room
  have htop : mid.block.state.top tid = .ok old :=
    BlockState.top_eq_ok.2 ((consumed.top _).trans standing)
  obtain ⟨frame, hframe⟩ := FrameArena.isLive_iff.1 ((consumed.live old).trans live)
  have joined : joiner .parallel ⟨teamFor .parallel (activity warp mask) hwOf (fun _ => tid) outline
      source rest, (activity warp mask).lanes.map (seatFor .parallel hwOf (fun _ => tid) outline),
      tid⟩ mid = .ok (joinParallel old frame (share .parallel (activity warp mask) (fun _ => tid)
        outline source)) mid := by
    refine eq_ok_of_ends ?_
    simp [joiner, htop, BlockState.frame_eq_ok.2 hframe, teamFor]
  have all : share .parallel (activity warp mask) (fun _ => tid) outline source =
      (activity warp mask).count := by
    rw [share, unhinted, teamSize, if_neg (Nat.lt_irrefl 0)]
  have inside (lane : Nat) (member : lane ∈ (activity warp mask).lanes) : lane < mid.jobs.size :=
    jobs ▸ Nat.lt_of_lt_of_le (lt_width_of_mem member) covered
  have joins (lane : Nat) (member : lane ∈ (activity warp mask).lanes) :
      (memberFor (activity warp mask) hwOf (share .parallel (activity warp mask) (fun _ => tid)
        outline source) lane).active = true :=
    decide_eq_true (all ▸ LaneMask.rankOf_lt_count member)
  have hlane (lane : Nat) :
      (seatFor .parallel hwOf (fun _ => tid) outline lane).lane = lane := rfl
  have hthread (lane : Nat) :
      (seatFor .parallel hwOf (fun _ => tid) outline lane).thread = tid := rfl
  obtain ⟨after, current, top, run, cursor', size, counters', outlined', standing', lent,
      chained⟩ :=
    takeSeats_chained warp.width
      (share .parallel (activity warp mask) (fun _ => tid) outline source) old frame hlane hthread
      (activity warp mask).lanes consumed standing (Outline.Lent.nil _) rfl
      (LaneMask.nodup_lanes _) joins inside
  refine ⟨after, current, top, ?_, cursor'.trans cursor, size.trans (congrArg Array.size jobs),
    counters'.trans counters, outlined', standing', ⟨lent.live, lent.fresh⟩, chained⟩
  refine eq_ok_of_ends ?_
  rw [enter, ends_bind, ends_get, ends_bind, ends_refuseIf]
  refine ⟨fun short => absurd short (Nat.not_lt.2 covered), fun _ => ?_⟩
  rw [ends_bind, ends_of_ok formed, ends_bind, ends_of_ok joined, teamFor, List.zip_map', ends_bind,
    ends_of_ok run]
  exact ⟨rfl, rfl⟩

/-- **On a released frame no team forms.** -/
theorem enter_of_dead (entry : Entry)
    (placed : Placed warp (activity warp mask).lanes layout hwOf fun _ => tid)
    {source : Nat} {rest : List Nat}
    (left : ((activity warp mask).remainingFrom entry.cursor).lanes = source :: rest)
    (outlined : Block.Outlined layout outline entry.block) (covered : warp.width ≤ entry.jobs.size)
    (standing : outline.tops tid = some old) (dead : outline.live old = false)
    (room : entry.block.counters.convergentTeams + 1 < UInt32.size) :
    ∃ after, enter .parallel warp mask entry =
        .error (.rejected (.stackUnderflow anyThread)) after ∧
      Block.Outlined layout (outline.setHint .parallel tid 0) after.block := by
  obtain ⟨mid, formed, -, -, consumed, -⟩ :=
    formTeam_eq_ok placed left outlined standing room
  have htop : mid.block.state.top tid = .ok old :=
    BlockState.top_eq_ok.2 ((consumed.top _).trans standing)
  have gone : mid.block.state.frame old = .error (.stackUnderflow anyThread) := by
    have none := (consumed.live old).trans dead
    rw [FrameArena.isLive, Option.isSome_eq_false_iff, Option.isNone_iff_eq_none] at none
    rw [BlockState.frame, none]
  refine ⟨mid, eq_error_of_ends ?_, consumed⟩
  rw [enter, ends_bind, ends_get, ends_bind, ends_refuseIf]
  refine ⟨fun short => absurd short (Nat.not_lt.2 covered), fun _ => ?_⟩
  rw [ends_bind, ends_of_ok formed]
  simp [joiner, htop, gone]

/-! ## Leaving -/

theorem exit_parallel_counters {hwLane : Nat} {job : Job} {after : Block}
    (run : exit .parallel hwLane job block = .ok () after) : after.counters = block.counters := by
  have same : Ends (exit .parallel hwLane job) block (fun _ t => t.counters = block.counters)
      fun _ _ => True := by
    rw [exit, exitParallel]
    cases job.savedTop <;> simp [Block.threadOf, Block.onState]
  rw [ends_of_ok run] at same
  exact same

/-- **Leaving in order.** When all lanes have left, what they stored is gone. Only a lane that was
alone leaves its thread where it found it; several leave it on a frame that was not there before. -/
theorem exits_chained {lanes team : List Nat} {jobs : Array Job}
    (placed : Placed warp lanes layout hwOf fun _ => tid) (memberOf : Nat → Member)
    (member_lane : ∀ lane, (memberOf lane).lane = lane ∧ (memberOf lane).hwLane = hwOf lane)
    (some : team ≠ []) :
    ∀ {block : Block} {current : Outline} {old top standing : FrameId},
      team.Nodup → (∀ lane ∈ team, lane ∈ lanes) → Block.Outlined layout current block →
      current.tops tid = .some standing →
      Outline.Lent (fun lane => jobs.getD lane {}) team base current →
      Outline.Chained (fun lane => jobs.getD lane {}) old team top →
      ∃ after back,
        (team.map memberOf).forM
            (fun member => exit .parallel member.hwLane (jobs.getD member.lane {})) block =
          .ok () after ∧
        after.counters = block.counters ∧
        (∃ outline, Block.Outlined layout outline after ∧ outline.live = base.live ∧
          outline.tops tid = .some back) ∧
        (team.length = 1 ∧ back = old ∨ 1 < team.length ∧ base.live back = false) := by
  -- by induction on the lanes still there
  induction team with
  | nil => exact absurd rfl some
  | cons lane team ih =>
    intro block current old top standing nodup among outlined standing' lent chained
    have mine : lane ∈ lane :: team := List.mem_cons_self
    obtain ⟨saved, id, pushed, later⟩ := chained
    have alone := (List.nodup_cons.1 nodup).1
    have parallel : Construct.parallel = .simd → (jobs.getD lane {}).pushed = none :=
      fun simd => nomatch simd
    obtain ⟨mid, left, outlined'⟩ := exit_eq_ok (placed.inside lane (among lane mine))
      (placed.owner lane (among lane mine)) outlined standing' saved parallel
    have left' : exit .parallel (memberOf lane).hwLane (jobs.getD (memberOf lane).lane {}) block =
        .ok () mid := by
      rw [(member_lane lane).1, (member_lane lane).2]
      exact left
    have counters := exit_parallel_counters left
    have lent' := lent.remove alone pushed
    rw [pushed] at outlined'
    have back : (((current.setHint .parallel tid (jobs.getD lane {}).hint).setTop tid old).removes
        (.some id)).tops tid = .some old := by
      rw [Outline.tops_removes]
      exact Function.update_self _ _ _
    cases team with
    | nil =>
      refine ⟨mid, old, (bind_of_ok left' _).trans rfl, counters, ⟨_, outlined', ?_, back⟩,
        .inl ⟨rfl, rfl⟩⟩
      exact (⟨lent'.live, lent'.fresh⟩ : Outline.Lent (fun lane => jobs.getD lane {}) [] base
        (((current.setHint .parallel tid (jobs.getD lane {}).hint).setTop tid old).removes
          (.some id))).live_eq
    | cons next team =>
      obtain ⟨after, found, run, counters', outlined'', ends⟩ := ih (List.cons_ne_nil _ _)
        (List.nodup_cons.1 nodup).2
        (fun other member => among other (List.mem_cons_of_mem lane member)) outlined' back
        ⟨lent'.live, lent'.fresh⟩ later
      refine ⟨after, found, (bind_of_ok left' _).trans run, counters'.trans counters, outlined'',
        .inr ⟨by simp, ?_⟩⟩
      -- the lanes after this one started from its frame, which was not there before
      rcases ends with ⟨-, rfl⟩ | ⟨-, dead⟩
      · exact (lent.fresh lane mine _ pushed).1
      · exact dead

/-! ## A loop with an idle body -/

/-- A body that does nothing. -/
def idle : Team → Member → RegionM ω Unit := fun _ _ => pure ()

/-- A loop that gives back what it borrowed from a thread: the thread stands on the live frame it
stood on before, and as many frames are stored. -/
structure Balanced (tid : Nat) (before after : Block) : Prop where
  top : (after.state.thread tid).top = (before.state.thread tid).top
  standing : ∃ id, (after.state.thread tid).top = some id ∧
    after.state.arena.isLive id = true
  liveFrames : after.liveFrames = before.liveFrames

/-- A loop that leaves a thread on a frame that was released. As many frames are stored as before.
-/
structure Stranded (tid : Nat) (before after : Block) : Prop where
  gone : ∃ id, (after.state.thread tid).top = some id ∧ after.state.arena.isLive id = false
  liveFrames : after.liveFrames = before.liveFrames

theorem liveFrames_eq {before after : Block} {current : Outline}
    (outlined : Block.Outlined layout outline before)
    (outlined' : Block.Outlined layout current after) (live : current.live = outline.live) :
    after.liveFrames = before.liveFrames := by
  refine outlined'.sound.live_congr outlined.sound fun id => ?_
  rw [outlined'.live, outlined.live, live]

theorem forM_idle {team : Team} (members : List Member) (s : Hosted ω) :
    members.forM (idle team) s = .ok () s := by
  induction members with
  | nil => rfl
  | cons member members ih =>
    rw [forM_cons]
    exact (bind_of_ok rfl _).trans ih

theorem fence_eq_ok (room : block.counters.fences + 1 < UInt32.size) :
    Block.fence block = .ok () { block with
      counters := { block.counters with fences := block.counters.fences + 1 } } := by
  refine eq_ok_of_ends ?_
  simp [Block.fence, Block.tally, Counters.addFence, checkedAdd_of_lt room, Except.map]

variable {s : Hosted ω}

/-- **One team** of all lanes of one thread: what was stored is gone afterwards, and the thread is
back only if the team had one lane. -/
theorem team_of_shared (placed : Placed warp (activity warp mask).lanes layout hwOf fun _ => tid)
    {cursor source : Nat} {jobs : Array Job} {rest : List Nat}
    (left : ((activity warp mask).remainingFrom cursor).lanes = source :: rest)
    (outlined : Block.Outlined layout outline s.block) (covered : warp.width ≤ jobs.size)
    (standing : outline.tops tid = some old) (live : outline.live old = true)
    (unhinted : outline.hints .parallel tid = 0)
    (teams : s.block.counters.convergentTeams + 1 < UInt32.size)
    (fences : s.block.counters.fences + 1 < UInt32.size) :
    ∃ team jobs' mid t back, enterNext .parallel warp mask cursor jobs s =
        .ok (team, source + 1, jobs') mid ∧
      team.isFinal = decide (rest.length = 0) ∧ jobs'.size = jobs.size ∧
      runTeam .parallel idle team jobs' mid = .ok () t ∧
      t.block.counters.convergentTeams = s.block.counters.convergentTeams + 1 ∧
      (∃ current, Block.Outlined layout current t.block ∧ current.live = outline.live ∧
        current.tops tid = some back) ∧
      ((activity warp mask).lanes.length = 1 ∧ back = old ∨
        1 < (activity warp mask).lanes.length ∧ outline.live back = false) := by
  obtain ⟨after, current, top, run, cursor', size, counters, outlined', standing', lent, chained⟩ :=
    enter_of_live ⟨s.block, cursor, jobs⟩ placed left outlined covered standing live unhinted teams
  have entered : enterNext .parallel warp mask cursor jobs s =
      .ok (teamFor .parallel (activity warp mask) hwOf (fun _ => tid) outline source rest,
        source + 1, after.jobs) ⟨after.block, s.host⟩ := by
    refine eq_ok_of_ends ?_
    rw [enterNext, Hosted.ends_onBlock, ends_embed, ends_bind, ends_of_ok run, ends_bind, ends_get,
      ends_pure, cursor']
    exact ⟨rfl, rfl⟩
  -- all lanes of the mask are in the team
  have all : (activity warp mask).lanes.take (share .parallel (activity warp mask) (fun _ => tid)
      outline source) = (activity warp mask).lanes := by
    rw [share, unhinted, teamSize, if_neg (Nat.lt_irrefl 0), LaneMask.count_eq_length]
    exact List.take_length
  have fenced : Block.fence after.block = .ok () _ := fence_eq_ok (by rw [counters]; exact fences)
  have member : source ∈ (activity warp mask).lanes :=
    LaneMask.mem_of_mem_remainingFrom (left ▸ List.mem_cons_self)
  obtain ⟨final, back, left', counters', outlined'', ends⟩ := exits_chained placed
    (memberFor (activity warp mask) hwOf (share .parallel (activity warp mask) (fun _ => tid)
      outline source)) (fun _ => ⟨rfl, rfl⟩) (List.ne_nil_of_mem member)
    (LaneMask.nodup_lanes _) (fun _ member => member) (outlined'.withCounters _) standing' lent
    chained
  refine ⟨_, after.jobs, _, ⟨final, s.host⟩, back, entered, rfl, size, ?_, ?_, outlined'', ends⟩
  · refine eq_ok_of_ends ?_
    rw [runTeam, active_teamFor, all, Hosted.forM_onBlock, ends_bind, Hosted.ends_onBlock,
      ends_of_ok fenced, ends_bind, ends_of_ok (forM_idle _ _), Hosted.ends_onBlock,
      ends_of_ok left']
    exact ⟨rfl, rfl⟩
  · rw [counters', counters]

/-- **A loop with an idle body on lanes of one thread.** It forms its one team if there is one lane.
With several lanes the first team leaves the thread on a released frame, and the second source finds
none there. -/
theorem loop_shared
    (placed : Placed warp (activity warp mask).lanes s.block.layout hwOf fun _ => tid)
    (initialized : s.block.initialized = true) (sound : s.block.state.arena.Sound)
    (occupied : (activity warp mask).isEmpty = false)
    (standing : (s.block.state.thread tid).top = some old)
    (live : s.block.state.arena.isLive old = true)
    (unhinted : (s.block.state.thread tid).pendingThreads = 0)
    (teams : s.block.counters.convergentTeams + 2 < UInt32.size)
    (fences : s.block.counters.fences + 1 < UInt32.size) :
    ((activity warp mask).count = 1 ∧ ∃ t, loop .parallel warp mask idle s = .ok 1 t ∧
      Balanced tid s.block t.block) ∨
    1 < (activity warp mask).count ∧
      ∃ t, loop .parallel warp mask idle s = .error (.rejected (.stackUnderflow anyThread)) t ∧
        Stranded tid s.block t.block := by
  have outlined : Block.Outlined s.block.layout s.block.outline s.block :=
    ⟨rfl, initialized, sound, rfl⟩
  obtain ⟨source, rest, split⟩ := List.exists_cons_of_ne_nil (LaneMask.lanes_ne_nil occupied)
  have left : ((activity warp mask).remainingFrom 0).lanes = source :: rest := by
    rw [LaneMask.remainingFrom_zero, split]
  have covered : warp.width ≤ (Array.replicate warp.width ({} : Job)).size :=
    Nat.le_of_eq Array.size_replicate.symm
  obtain ⟨team, jobs, mid, t, back, entered, isFinal, size, ran, counters, ⟨current, outlined',
    live', standing'⟩, ends⟩ := team_of_shared placed left outlined covered standing live unhinted
      (by omega) fences
  rw [LaneMask.count_eq_length, loop, maxGroupWidth, rounds, bind_of_ok entered]
  dsimp only
  rw [bind_of_ok ran]
  rcases ends with ⟨one, rfl⟩ | ⟨several, dead⟩
  · have last : team.isFinal = true := by
      rw [isFinal, decide_eq_true_eq]
      rw [split, List.length_cons] at one
      omega
    have same := (outlined'.top tid).trans standing'
    rw [if_pos last]
    refine .inl ⟨one, t, rfl, same.trans standing.symm, ⟨back, same, ?_⟩,
      liveFrames_eq outlined outlined' live'⟩
    rw [outlined'.live, live']
    exact live
  · obtain ⟨next, later, rfl⟩ : ∃ next later, rest = next :: later := by
      refine List.exists_cons_of_ne_nil fun none => ?_
      rw [split, none] at several
      exact Nat.lt_irrefl 1 several
    have more : ¬team.isFinal = true := by simp [isFinal]
    have gone : current.live back = false := by rw [live']; exact dead
    have room : t.block.counters.convergentTeams + 1 < UInt32.size := by
      rw [counters]
      omega
    obtain ⟨after, stopped, outlined''⟩ := enter_of_dead ⟨t.block, source + 1, jobs⟩ placed
      (LaneMask.lanes_remainingFrom_succ left) outlined' (size ▸ covered) standing' gone room
    have refused : enterNext .parallel warp mask (source + 1) jobs t =
        .error (.rejected (.stackUnderflow anyThread)) ⟨after.block, t.host⟩ := by
      refine eq_error_of_ends ?_
      rw [enterNext, Hosted.ends_onBlock, ends_embed, ends_bind, ends_of_error stopped]
      exact ⟨rfl, rfl⟩
    rw [if_neg more, rounds, bind_of_error refused]
    refine .inr ⟨several, _, rfl, ⟨back, (outlined''.top tid).trans standing', ?_⟩,
      liveFrames_eq outlined outlined'' live'⟩
    rw [outlined''.live]
    exact gone

/-! ## The master warp -/

variable {arch : Arch} {config : LaunchConfig}

/-- All lanes of the master warp stand for thread 0. -/
theorem placed_masterWarp {lanes : List Nat} (valid : arch.isValid = true)
    (created : Block.create arch .generic config = .ok block)
    (inside : ∀ lane ∈ lanes, block.layout.master + lane < block.layout.size) :
    Placed block.layout.masterWarp lanes block.layout (block.layout.master + ·) fun _ => 0 := by
  have maps := Block.mapsLanes_of_create (fun _ => valid) created
  obtain ⟨k, power⟩ := Arch.exists_two_pow valid
  obtain ⟨size, hsize, rfl⟩ :=
    Block.eq_of_create created (Block.initialized_of_create_generic created)
  refine ⟨fun lane member => ?_, inside, fun lane _ => ?_⟩
  · exact BlockLayout.hwLane_masterWarp power
      (Nat.lt_trans (inside lane member) (Block.blockSize_lt hsize))
  · exact (maps.threadOf_eq _).trans
      (congrArg _ (BlockLayout.owner_of_master_le rfl (Nat.le_add_right _ _)))

/-- **Parallel teams of the master warp.** On a new generic block a convergent parallel loop with an
idle body, over any lanes of the master warp that lie in the block, is balanced exactly if there is
one lane. Over several lanes it is refused at the second source, for lack of the frame its thread
stands on: the first team has left thread 0 on a frame that was released. -/
theorem loop_masterWarp (valid : arch.isValid = true)
    (created : Block.create arch .generic config = .ok block) (mask : LaneMask)
    (occupied : (activity block.layout.masterWarp mask).isEmpty = false)
    (inside : ∀ lane ∈ (activity block.layout.masterWarp mask).lanes,
      block.layout.master + lane < block.layout.size) (host : ω) :
    ((activity block.layout.masterWarp mask).count = 1 ∧
      ∃ t, loop .parallel block.layout.masterWarp mask idle ⟨block, host⟩ = .ok 1 t ∧
        Balanced 0 block t.block) ∨
    1 < (activity block.layout.masterWarp mask).count ∧
      ∃ t, loop .parallel block.layout.masterWarp mask idle ⟨block, host⟩ =
          .error (.rejected (.stackUnderflow anyThread)) t ∧
        Stranded 0 block t.block := by
  have placed := placed_masterWarp valid created inside
  obtain ⟨lane, lanes, split⟩ := List.exists_cons_of_ne_nil (LaneMask.lanes_ne_nil occupied)
  have occupies : 0 < block.layout.size :=
    Nat.zero_lt_of_lt (inside lane (split ▸ List.mem_cons_self))
  have initialized := Block.initialized_of_create_generic created
  obtain ⟨size, -, rfl⟩ := Block.eq_of_create created initialized
  have thread : (BlockState.withStacks size (.initial config.threadLimit.toNat)).thread 0 =
      { top := some BlockState.baseId, home := some (BlockState.homeId 0) } :=
    BlockState.thread_withStacks occupies
  have base : (BlockState.withStacks size (.initial config.threadLimit.toNat)).arena.isLive
      BlockState.baseId = true := by
    rw [FrameArena.isLive, BlockState.get?_withStacks, if_pos rfl]
    rfl
  exact loop_shared placed rfl BlockState.sound_withStacks occupied
    (congrArg Thread.top thread) base (congrArg Thread.pendingThreads thread)
    (show 0 + 2 < UInt32.size by decide)
    (show 0 + 1 < UInt32.size by decide)

theorem loop_masterWarp_twoWarps :
    (∃ t, loop .parallel Block.twoWarps.layout.masterWarp ⟨1⟩ idle ⟨Block.twoWarps, ()⟩ = .ok 1 t ∧
      Balanced 0 Block.twoWarps t.block) ∧
    ∃ t, loop .parallel Block.twoWarps.layout.masterWarp ⟨3⟩ idle ⟨Block.twoWarps, ()⟩ =
        .error (.rejected (.stackUnderflow anyThread)) t ∧
      Stranded 0 Block.twoWarps t.block := by
  have valid : Arch.volta.isValid = true := by decide
  constructor
  · have one : (activity Block.twoWarps.layout.masterWarp ⟨1⟩).count = 1 := by decide +kernel
    have inside : ∀ lane ∈ (activity Block.twoWarps.layout.masterWarp ⟨1⟩).lanes,
        Block.twoWarps.layout.master + lane < Block.twoWarps.layout.size := by
      decide +kernel
    have cases := loop_masterWarp valid Block.create_twoWarps ⟨1⟩ (by decide +kernel) inside ()
    rw [one] at cases
    exact (cases.resolve_right fun several => Nat.lt_irrefl 1 several.1).2
  · have two : (activity Block.twoWarps.layout.masterWarp ⟨3⟩).count = 2 := by decide +kernel
    have inside : ∀ lane ∈ (activity Block.twoWarps.layout.masterWarp ⟨3⟩).lanes,
        Block.twoWarps.layout.master + lane < Block.twoWarps.layout.size := by
      decide +kernel
    have cases := loop_masterWarp valid Block.create_twoWarps ⟨3⟩ (by decide +kernel) inside ()
    rw [two] at cases
    exact (cases.resolve_left fun one => absurd one.1 (by decide)).2

/-- Two lanes of the master warp: their loop does not come back with two teams. -/
theorem not_balanced_masterPair :
    ¬∃ t, loop .parallel Block.twoWarps.layout.masterWarp ⟨3⟩ idle ⟨Block.twoWarps, ()⟩ = .ok 2 t ∧
      Balanced 0 Block.twoWarps t.block := by
  rintro ⟨t, run, -⟩
  have refused : (loop .parallel Block.twoWarps.layout.masterWarp ⟨3⟩ idle ⟨Block.twoWarps, ()⟩
      matches .error _ _) = true := by
    decide +kernel
  rw [run] at refused
  cases refused

end Convergent

end RegionDispatch
