import RegionDispatch.Proofs.Convergent.Sources

/-! # The effect of one entry

One call of a convergent construct reads what it needs of the source before any lane is touched, and
then moves the threads of the team one after the other. What that comes to is said here of the state
as a whole: the hint of the source is gone, the threads of the team stand on the source's own frame
or on new frames made after it, and everything else is as it was.

* **`BlockState.Moved`**, **`FrameArena.Allotted`** — threads moved to other tops, and new frames.
* `Convergent.takeSeats_eq_foldl` — seating a team does this lane by lane.
* **`Convergent.Effect`** — the effect of one entry.
* `Convergent.ends_enter_effect` — every entry that returns has it. -/

namespace RegionDispatch

open Dispatch

variable {tidOf : Nat → Nat} {topOf : Nat → FrameId} {frameOf : Nat → Frame} {lanes : List Nat}
  {lane : Nat}

namespace FrameArena

variable {before mid after : FrameArena}

/-- Every lane has a new frame of its own, and nothing else is stored or gone. -/
structure Allotted (topOf : Nat → FrameId) (frameOf : Nat → Frame) (lanes : List Nat)
    (before after : FrameArena) : Prop where
  fresh : ∀ lane ∈ lanes, before.isLive (topOf lane) = false
  distinct : ∀ lane ∈ lanes, ∀ other ∈ lanes, topOf lane = topOf other → lane = other
  stored : ∀ lane ∈ lanes, after.get? (topOf lane) = some (frameOf lane)
  others : ∀ id, (∀ lane ∈ lanes, topOf lane ≠ id) → after.get? id = before.get? id

/-- What was live before is as it was. -/
theorem Allotted.get?_of_isLive (h : Allotted topOf frameOf lanes before after) {id : FrameId}
    (live : before.isLive id = true) : after.get? id = before.get? id := by
  refine h.others id fun lane member same => ?_
  rw [← same, h.fresh lane member] at live
  cases live

theorem Allotted.nil (arena : FrameArena) : Allotted topOf frameOf [] arena arena where
  fresh _ none := absurd none List.not_mem_nil
  distinct _ none := absurd none List.not_mem_nil
  stored _ none := absurd none List.not_mem_nil
  others _ _ := rfl

/-- A frame for one lane and then frames for others. -/
theorem Allotted.cons (sound : before.Sound)
    (rest : Allotted topOf frameOf lanes (before.alloc (frameOf lane)).2 after)
    (new : lane ∉ lanes) :
    Allotted (Function.update topOf lane before.nextId) frameOf (lane :: lanes) before after := by
  have first : Function.update topOf lane before.nextId lane = before.nextId :=
    Function.update_self _ _ _
  have later (other : Nat) (member : other ∈ lanes) :
      Function.update topOf lane before.nextId other = topOf other :=
    Function.update_of_ne (fun same : other = lane => new (same ▸ member)) _ _
  -- the frame of the first lane is live when the others get theirs
  have live : (before.alloc (frameOf lane)).2.isLive before.nextId = true := by
    rw [isLive, sound.get?_alloc, if_pos rfl, Option.isSome_some]
  have apart (other : Nat) (member : other ∈ lanes) : topOf other ≠ before.nextId := by
    intro same
    have dead := rest.fresh other member
    rw [same, live] at dead
    cases dead
  refine ⟨List.forall_mem_cons.2 ⟨?_, fun other member => ?_⟩, ?_,
    List.forall_mem_cons.2 ⟨?_, fun other member => ?_⟩, fun id others => ?_⟩
  · rw [first, isLive, sound.get?_nextId, Option.isSome_none]
  · have dead := rest.fresh other member
    rw [isLive, sound.get?_alloc, if_neg (apart other member)] at dead
    rwa [later other member]
  · intro one among other among' same
    rcases List.mem_cons.1 among with rfl | member <;>
      rcases List.mem_cons.1 among' with rfl | member'
    · rfl
    · rw [first, later other member'] at same
      exact absurd same.symm (apart other member')
    · rw [first, later one member] at same
      exact absurd same (apart one member)
    · rw [later one member, later other member'] at same
      exact rest.distinct one member other member' same
  · rw [first, rest.get?_of_isLive live, sound.get?_alloc, if_pos rfl]
  · rw [later other member, rest.stored other member]
  · rw [List.forall_mem_cons, first] at others
    rw [rest.others id fun other member => later other member ▸ others.2 other member,
      sound.get?_alloc, if_neg (Ne.symm others.1)]

end FrameArena

namespace BlockState

variable {before mid after : BlockState}

/-- The threads of the lanes stand on other tops, and nothing else of any thread has changed. -/
structure Moved (tidOf : Nat → Nat) (topOf : Nat → FrameId) (lanes : List Nat)
    (before after : BlockState) : Prop where
  size : after.threads.size = before.threads.size
  moved : ∀ lane ∈ lanes,
    after.thread (tidOf lane) = { before.thread (tidOf lane) with top := some (topOf lane) }
  others : ∀ tid, (∀ lane ∈ lanes, tidOf lane ≠ tid) → after.thread tid = before.thread tid

theorem Moved.nil (state : BlockState) : Moved tidOf topOf [] state state :=
  ⟨rfl, fun _ none => absurd none List.not_mem_nil, fun _ _ => rfl⟩

/-- Whoever moved, nothing but its top has changed. -/
theorem Moved.thread_eq (h : Moved tidOf topOf lanes before after) (tid : Nat) :
    after.thread tid = { before.thread tid with top := (after.thread tid).top } := by
  by_cases named : ∃ lane ∈ lanes, tidOf lane = tid
  · obtain ⟨lane, member, rfl⟩ := named
    rw [h.moved lane member]
  · rw [h.others tid fun lane member same => named ⟨lane, member, same⟩]

/-- One thread moves and then others. -/
theorem Moved.cons {id : FrameId} (size : mid.threads.size = before.threads.size)
    (first : mid.thread (tidOf lane) = { before.thread (tidOf lane) with top := some id })
    (kept : ∀ tid, tid ≠ tidOf lane → mid.thread tid = before.thread tid)
    (apart : ∀ other ∈ lanes, tidOf other ≠ tidOf lane)
    (rest : Moved tidOf topOf lanes mid after) :
    Moved tidOf (Function.update topOf lane id) (lane :: lanes) before after where
  size := rest.size.trans size
  moved := by
    refine List.forall_mem_cons.2 ⟨?_, fun other member => ?_⟩
    · rw [rest.others _ apart, first, Function.update_self]
    · have ne : other ≠ lane := fun same => apart other member (congrArg tidOf same)
      rw [rest.moved other member, kept _ (apart other member), Function.update_of_ne ne]
  others tid others := by
    rw [List.forall_mem_cons] at others
    rw [rest.others tid others.2, kept tid (Ne.symm others.1)]

/-- The threads of the lanes move to one frame that is there already. -/
theorem moved_foldl_setTop {state : BlockState} (top : FrameId) (nodup : (lanes.map tidOf).Nodup)
    (inside : ∀ lane ∈ lanes, tidOf lane < state.threads.size) :
    Moved tidOf (fun _ => top) lanes state
      (lanes.foldl (fun state lane => state.setTop (tidOf lane) top) state) := by
  induction lanes generalizing state with
  | nil => exact .nil state
  | cons lane lanes ih =>
    rw [List.map_cons, List.nodup_cons] at nodup
    rw [List.forall_mem_cons] at inside
    have apart (other : Nat) (member : other ∈ lanes) : tidOf other ≠ tidOf lane :=
      fun same => nodup.1 (same ▸ List.mem_map_of_mem member)
    have rest := @ih (state.setTop (tidOf lane) top) nodup.2 (by simpa using inside.2)
    have moved := rest.cons size_setTop (thread_setTop_self inside.1)
      (fun _ => thread_setTop_of_ne) apart
    rwa [Function.update_eq_self] at moved

theorem arena_foldl_setTop {state : BlockState} (top : FrameId) :
    (lanes.foldl (fun state lane => state.setTop (tidOf lane) top) state).arena = state.arena := by
  induction lanes generalizing state with
  | nil => rfl
  | cons lane lanes ih => exact ih

/-- The threads of the lanes move to new frames. -/
theorem moved_foldl_push {state : BlockState} (sound : state.arena.Sound)
    (nodup : (lanes.map tidOf).Nodup)
    (inside : ∀ lane ∈ lanes, tidOf lane < state.threads.size) :
    ∃ topOf,
      Moved tidOf topOf lanes state
        (lanes.foldl (fun state lane => (state.push (tidOf lane) (frameOf lane)).2) state) ∧
      FrameArena.Allotted topOf frameOf lanes state.arena
        (lanes.foldl (fun state lane =>
          (state.push (tidOf lane) (frameOf lane)).2) state).arena := by
  induction lanes generalizing state with
  | nil => exact ⟨fun _ => state.arena.nextId, .nil state, .nil state.arena⟩
  | cons lane lanes ih =>
    rw [List.map_cons, List.nodup_cons] at nodup
    rw [List.forall_mem_cons] at inside
    have apart (other : Nat) (member : other ∈ lanes) : tidOf other ≠ tidOf lane :=
      fun same => nodup.1 (same ▸ List.mem_map_of_mem member)
    obtain ⟨topOf, moved, allotted⟩ := @ih (state.push (tidOf lane) (frameOf lane)).2
      (sound.alloc (frameOf lane)) nodup.2 (by simpa using inside.2)
    exact ⟨Function.update topOf lane state.arena.nextId,
      moved.cons size_push (thread_push_self inside.1) (fun _ => thread_push_of_ne) apart,
      allotted.cons sound fun member => apart lane member rfl⟩

end BlockState

/-- Hints are no part of the stack. -/
theorem Construct.hint_withTop (kind : Construct) (thread : Thread) (top : Option FrameId) :
    kind.hint { thread with top } = kind.hint thread := by
  cases kind <;> rfl

namespace Convergent

variable {construct : Construct} {warp : Warp} {mask : LaneMask} {entry : Entry} {limit : Nat}
  {join : Seat → Member → Dispatch Entry Unit} {move : BlockState → Seat → Member → BlockState}

/-! ## Seating -/

theorem teamSize_eq_ite (count hint : Nat) :
    teamSize count hint = if hint = 0 then count else min hint count := by
  rw [teamSize, Nat.min_comm]
  split
  · next some => rw [if_neg (Nat.ne_of_gt some)]
  · next none => rw [if_pos (by omega)]

/-- How a lane of a team of `size` lanes moves: onto the frame `top` of the source, or onto a new
one made after it. -/
def place (construct : Construct) (top : FrameId) (frame : Frame) (size : Nat) (state : BlockState)
    (seat : Seat) (member : Member) : BlockState :=
  match construct with
  | .simd => state.setTop seat.thread top
  | .parallel => (state.push seat.thread (frame.convergent top member.rank size)).2

/-- Joining comes to a change of the frames and threads, and writes jobs. The change leaves every
thread that has a top with one. -/
structure JoinsBy (join : Seat → Member → Dispatch Entry Unit)
    (move : BlockState → Seat → Member → BlockState) : Prop where
  run : ∀ entry seat member, ∃ jobs : Array Job, jobs.size = entry.jobs.size ∧
    join seat member entry = .ok ()
      ⟨{ entry.block with state := move entry.block.state seat member }, entry.cursor, jobs⟩
  standing : ∀ (state : BlockState) seat member tid, ((state.thread tid).top).isSome →
    (((move state seat member).thread tid).top).isSome

theorem joinsBy_simd (top : FrameId) (frame : Frame) (size : Nat) :
    JoinsBy (fun seat _ => joinSimd top seat) (place .simd top frame size) where
  run entry seat member := ⟨entry.jobs, rfl, rfl⟩
  standing state seat member tid standing := by
    rw [place, BlockState.setTop, BlockState.thread_modifyThread]
    split
    · rfl
    · exact standing

theorem joinsBy_parallel (top : FrameId) (frame : Frame) (size : Nat) :
    JoinsBy (joinParallel top frame size) (place .parallel top frame size) where
  run entry seat member := ⟨entry.jobs.modify seat.lane
    ({ · with pushed := some (entry.block.state.push seat.thread
      (frame.convergent top member.rank size)).1 }), Array.size_modify, rfl⟩
  standing state seat member tid standing := by
    rw [place, BlockState.push_snd, BlockState.setTop, BlockState.thread_modifyThread]
    split
    · rfl
    · exact standing

/-- **Seating a team** changes frames and threads by one active lane after the other. -/
theorem takeSeats_eq_foldl (joins : JoinsBy join move) (limit : Nat)
    (pairs : List (Seat × Member)) (inside : ∀ pair ∈ pairs, pair.1.lane < entry.jobs.size)
    (standing : ∀ pair ∈ pairs, ((entry.block.state.thread pair.1.thread).top).isSome) :
    ∃ jobs : Array Job, takeSeats limit join pairs entry = .ok ()
      ⟨{ entry.block with
        state := (pairs.filter (·.2.active)).foldl (fun state pair => move state pair.1 pair.2)
          entry.block.state }, entry.cursor, jobs⟩ := by
  induction pairs generalizing entry with
  | nil => exact ⟨entry.jobs, rfl⟩
  | cons pair pairs ih =>
    obtain ⟨seat, member⟩ := pair
    rw [List.forall_mem_cons] at inside standing
    cases active : member.active with
    | false =>
      have seated : takeSeat limit join seat member entry =
          .ok () (entry.withJob seat.lane fun _ => { hint := seat.hint }) :=
        takeSeat_of_inactive inside.1 active
      obtain ⟨jobs, run⟩ := @ih (entry.withJob seat.lane fun _ => { hint := seat.hint })
        (by simpa [Entry.withJob] using inside.2) standing.2
      refine ⟨jobs, (bind_of_ok seated _).trans (run.trans ?_)⟩
      rw [List.filter_cons_of_neg (by simp [active])]
      rfl
    | true =>
      obtain ⟨top, htop⟩ := Option.isSome_iff_exists.1 standing.1
      obtain ⟨jobs, size, joined⟩ := joins.run
        ((entry.withJob seat.lane fun _ => { hint := seat.hint }).withJob seat.lane
          ({ · with savedTop := some top })) seat member
      have seated : takeSeat limit join seat member entry = .ok () _ :=
        (takeSeat_of_active inside.1 active htop).trans joined
      obtain ⟨jobs', run⟩ := @ih ⟨{ entry.block with
        state := move entry.block.state seat member }, entry.cursor, jobs⟩
        (by simpa [size, Entry.withJob] using inside.2)
        fun pair among => joins.standing _ _ _ _ (standing.2 pair among)
      refine ⟨jobs', (bind_of_ok seated _).trans (run.trans ?_)⟩
      rw [List.filter_cons_of_pos (by simp [active])]
      rfl

/-! ## The effect -/

/-- What a team of `lanes` does to the frames: a simd team shares the source's frame `top`, in a
parallel team every lane has a new one. -/
def Framed (construct : Construct) (top : FrameId) (topOf : Nat → FrameId) (frameOf : Nat → Frame)
    (lanes : List Nat) (before after : FrameArena) : Prop :=
  match construct with
  | .simd => (∀ lane, topOf lane = top) ∧ after = before
  | .parallel => FrameArena.Allotted topOf frameOf lanes before after

theorem Framed.get?_of_isLive {before after : FrameArena} {top id : FrameId}
    (h : Framed construct top topOf frameOf lanes before after) (live : before.isLive id = true) :
    after.get? id = before.get? id := by
  cases construct with
  | simd => rw [h.2]
  | parallel => exact FrameArena.Allotted.get?_of_isLive h live

/-- **The effect of one entry** that makes `team`: `sourceTop` is the frame the source stood on, and
`topOf` says where the lanes of the team stand now. -/
structure Effect (construct : Construct) (warp : Warp) (mask : LaneMask) (tidOf : Nat → Nat)
    (entry : Entry) (team : Team) (after : Entry) (sourceTop : FrameId) (sourceFrame : Frame)
    (topOf : Nat → FrameId) : Prop where
  source : (sources warp mask entry.cursor).head? = some team.source
  /-- Without a hint all lanes of the mask form the team. -/
  size : team.size =
    if construct.hint (entry.block.state.thread (tidOf team.source)) = 0
    then (activity warp mask).count
    else min (construct.hint (entry.block.state.thread (tidOf team.source)))
      (activity warp mask).count
  top : (entry.block.state.thread (tidOf team.source)).top = some sourceTop
  frame : entry.block.state.arena.get? sourceTop = some sourceFrame
  /-- The source's hint is used up, and no other. -/
  hints : ∀ kind tid, kind.hint (after.block.state.thread tid) =
    if kind = construct ∧ tid = tidOf team.source then 0
    else kind.hint (entry.block.state.thread tid)
  /-- The lanes of the team move, and no one else. -/
  seated : ∀ lane ∈ (activity warp mask).lanes, (activity warp mask).rankOf lane < team.size →
    (after.block.state.thread (tidOf lane)).top = some (topOf lane)
  others : ∀ tid, (∀ lane ∈ (activity warp mask).lanes,
      (activity warp mask).rankOf lane < team.size → tidOf lane ≠ tid) →
    (after.block.state.thread tid).top = (entry.block.state.thread tid).top
  frames : Framed construct sourceTop topOf
    (fun lane => {
      rank := (activity warp mask).rankOf lane
      teamSize := team.size
      threadLimit := sourceFrame.threadLimit
      nthreads := sourceFrame.nthreads
      depth := sourceFrame.depth.deeper
      parkedLoop := none
      parent := some sourceTop })
    ((activity warp mask).lanes.filter ((activity warp mask).rankOf · < team.size))
    entry.block.state.arena after.block.state.arena
  /-- What was stored before is as it was. -/
  kept : ∀ id, entry.block.state.arena.isLive id = true →
    after.block.state.arena.get? id = entry.block.state.arena.get? id
  /-- Of a thread, only its top and its hints can change. -/
  loop : ∀ tid, (after.block.state.thread tid).loop = (entry.block.state.thread tid).loop
  own : ∀ tid, (after.block.state.thread tid).home = (entry.block.state.thread tid).home ∧
    (after.block.state.thread tid).event = (entry.block.state.thread tid).event ∧
    (after.block.state.thread tid).openRegions = (entry.block.state.thread tid).openRegions
  threads : after.block.state.threads.size = entry.block.state.threads.size
  /-- Of the block, only its state changes and one team is counted. -/
  block : after.block = { entry.block with
    state := after.block.state
    counters := { entry.block.counters with
      convergentTeams := entry.block.counters.convergentTeams + 1 } }

theorem joiner_eq_ok_joinsBy (construct : Construct) (formation : Formation) {top : FrameId}
    {frame : Frame} (standing : (entry.block.state.thread formation.sourceThread).top = some top)
    (hframe : entry.block.state.arena.get? top = some frame) :
    ∃ join, joiner construct formation entry = .ok join entry ∧
      JoinsBy join (place construct top frame formation.team.size) := by
  have found : entry.block.state.top formation.sourceThread = .ok top :=
    BlockState.top_eq_ok.2 standing
  have found' : entry.block.state.frame top = .ok frame := BlockState.frame_eq_ok.2 hframe
  cases construct with
  | simd =>
    refine ⟨_, eq_ok_of_ends ?_, joinsBy_simd top frame formation.team.size⟩
    simp [joiner, found]
  | parallel =>
    refine ⟨_, eq_ok_of_ends ?_, joinsBy_parallel top frame formation.team.size⟩
    simp [joiner, found, found']

/-- All lanes of a team have moved. -/
theorem moved_foldl_place (construct : Construct) (seatOf : Nat → Seat) (memberOf : Nat → Member)
    (thread : ∀ lane, (seatOf lane).thread = tidOf lane) {state : BlockState} (top : FrameId)
    (frame : Frame) (size : Nat) (sound : state.arena.Sound) (nodup : (lanes.map tidOf).Nodup)
    (inside : ∀ lane ∈ lanes, tidOf lane < state.threads.size) :
    ∃ topOf,
      BlockState.Moved tidOf topOf lanes state (lanes.foldl (fun state lane =>
        place construct top frame size state (seatOf lane) (memberOf lane)) state) ∧
      Framed construct top topOf (fun lane => frame.convergent top (memberOf lane).rank size) lanes
        state.arena (lanes.foldl (fun state lane =>
          place construct top frame size state (seatOf lane) (memberOf lane)) state).arena := by
  cases construct with
  | simd =>
    simp only [place, thread]
    exact ⟨fun _ => top, BlockState.moved_foldl_setTop top nodup inside, fun _ => rfl,
      BlockState.arena_foldl_setTop top⟩
  | parallel =>
    simp only [place, thread]
    exact BlockState.moved_foldl_push sound nodup inside

/-- The lanes of a team by rank. -/
theorem mem_team {active : LaneMask} {size : Nat} :
    lane ∈ active.lanes.filter (active.rankOf · < size) ↔
      lane ∈ active.lanes ∧ active.rankOf lane < size := by
  rw [List.mem_filter, decide_eq_true_eq]

/-- Seating a team of `size` lanes moves them, and no one else. -/
theorem takeSeats_moved (construct : Construct) (active : LaneMask) (hwOf : Nat → Nat)
    (outline : Outline) (size : Nat) {top : FrameId} {frame : Frame}
    (joins : JoinsBy join (place construct top frame size)) (limit : Nat)
    (sound : entry.block.state.arena.Sound)
    (distinct : ∀ lane ∈ active.lanes, ∀ other ∈ active.lanes,
      tidOf lane = tidOf other → lane = other)
    (inside : ∀ lane ∈ active.lanes, lane < entry.jobs.size)
    (standing : ∀ lane ∈ active.lanes, ((entry.block.state.thread (tidOf lane)).top).isSome) :
    ∃ topOf state jobs,
      takeSeats limit join (active.lanes.map fun lane =>
        (seatFor construct hwOf tidOf outline lane, memberFor active hwOf size lane)) entry =
          .ok () ⟨{ entry.block with state }, entry.cursor, jobs⟩ ∧
      BlockState.Moved tidOf topOf (active.lanes.filter (active.rankOf · < size))
        entry.block.state state ∧
      Framed construct top topOf (fun lane => frame.convergent top (active.rankOf lane) size)
        (active.lanes.filter (active.rankOf · < size)) entry.block.state.arena state.arena := by
  have nodup : ((active.lanes.filter (active.rankOf · < size)).map tidOf).Nodup :=
    ((LaneMask.nodup_lanes active).filter _).map_on fun lane member other member' =>
      distinct lane (List.mem_of_mem_filter member) other (List.mem_of_mem_filter member')
  have block (lane : Nat) (member : lane ∈ active.lanes.filter (active.rankOf · < size)) :
      tidOf lane < entry.block.state.threads.size := by
    obtain ⟨id, hid⟩ := Option.isSome_iff_exists.1 (standing lane (List.mem_of_mem_filter member))
    exact BlockState.lt_size_of_top hid
  obtain ⟨topOf, moved, framed⟩ := moved_foldl_place construct
    (seatFor construct hwOf tidOf outline) (memberFor active hwOf size) (fun _ => rfl) top frame
    size sound nodup block
  obtain ⟨jobs, run⟩ := takeSeats_eq_foldl joins limit (active.lanes.map fun lane =>
    (seatFor construct hwOf tidOf outline lane, memberFor active hwOf size lane))
    (List.forall_mem_map.2 inside) (List.forall_mem_map.2 standing)
  rw [List.filter_map, List.foldl_map] at run
  exact ⟨topOf, _, jobs, run, moved, framed⟩

/-- The hint of the source goes, and then the team moves: that is the effect. -/
theorem effect_of_moved {hwOf : Nat → Nat} {after : Entry} {source : Nat} {rest : List Nat}
    {top : FrameId} {frame : Frame} (left : sources warp mask entry.cursor = source :: rest)
    (htop : (entry.block.state.thread (tidOf source)).top = some top)
    (hframe : entry.block.state.arena.get? top = some frame)
    (moved : BlockState.Moved tidOf topOf
      ((activity warp mask).lanes.filter ((activity warp mask).rankOf · <
        share construct (activity warp mask) tidOf entry.block.outline source))
      (entry.block.state.modifyThread (tidOf source) (construct.withHint 0)) after.block.state)
    (framed : Framed construct top topOf
      (fun lane => frame.convergent top ((activity warp mask).rankOf lane)
        (share construct (activity warp mask) tidOf entry.block.outline source))
      ((activity warp mask).lanes.filter ((activity warp mask).rankOf · <
        share construct (activity warp mask) tidOf entry.block.outline source))
      entry.block.state.arena after.block.state.arena)
    (block : after.block = { entry.block with
      state := after.block.state
      counters := { entry.block.counters with
        convergentTeams := entry.block.counters.convergentTeams + 1 } }) :
    Effect construct warp mask tidOf entry
      (teamFor construct (activity warp mask) hwOf tidOf entry.block.outline source rest) after top
      frame topOf where
  source := by rw [left]; rfl
  size := teamSize_eq_ite _ (construct.hint (entry.block.state.thread (tidOf source)))
  top := htop
  frame := hframe
  hints kind tid := by
    have inside := BlockState.lt_size_of_top htop
    rw [moved.thread_eq tid, Construct.hint_withTop]
    by_cases same : tid = tidOf source
    · subst same
      simp [BlockState.thread_modifyThread_self inside, Construct.hint_withHint, teamFor]
    · simp [BlockState.thread_modifyThread_of_ne same, same, teamFor]
  seated lane member ranked := by
    rw [moved.moved lane (mem_team.2 ⟨member, ranked⟩)]
  others tid others := by
    rw [moved.others tid fun lane member => others lane (mem_team.1 member).1 (mem_team.1 member).2,
      BlockState.top_modifyThread fun _ => Construct.top_withHint]
  frames := framed
  kept _ live := framed.get?_of_isLive live
  loop tid := by
    rw [moved.thread_eq tid, BlockState.thread_modifyThread]
    split
    · cases construct <;> rfl
    · rfl
  own tid := by
    rw [moved.thread_eq tid, BlockState.thread_modifyThread]
    split
    · cases construct <;> exact ⟨rfl, rfl, rfl⟩
    · exact ⟨rfl, rfl, rfl⟩
  threads := moved.size.trans (BlockState.size_modifyThread _)
  block := block

/-- Once the team is formed its lanes take their seats without a stop, and the entry has its
effect. -/
theorem ends_seating {hwOf : Nat → Nat} {source : Nat} {rest : List Nat} {top : FrameId}
    {frame : Frame} {mid : Entry} (left : sources warp mask entry.cursor = source :: rest)
    (sound : entry.block.state.arena.Sound)
    (gathered : Gathered warp (activity warp mask).lanes entry.block.layout hwOf tidOf)
    (standing : ∀ lane ∈ (activity warp mask).lanes,
      ((entry.block.state.thread (tidOf lane)).top).isSome)
    (covered : warp.width ≤ mid.jobs.size)
    (htop : (entry.block.state.thread (tidOf source)).top = some top)
    (hframe : entry.block.state.arena.get? top = some frame)
    (formed : mid.block = { entry.block with
      state := entry.block.state.modifyThread (tidOf source) (construct.withHint 0)
      counters := { entry.block.counters with
        convergentTeams := entry.block.counters.convergentTeams + 1 } }) :
    Ends (do
        let join ← joiner construct
          ⟨teamFor construct (activity warp mask) hwOf tidOf entry.block.outline source rest,
            (activity warp mask).lanes.map (seatFor construct hwOf tidOf entry.block.outline),
            tidOf source⟩
        takeSeats warp.width join
          (((activity warp mask).lanes.map (seatFor construct hwOf tidOf entry.block.outline)).zip
            (teamFor construct (activity warp mask) hwOf tidOf entry.block.outline source
              rest).members)
        return teamFor construct (activity warp mask) hwOf tidOf entry.block.outline source rest)
      mid
      (fun team after => ∃ topOf, Effect construct warp mask tidOf entry team after top frame topOf)
      fun _ _ => False := by
  have cleared : mid.block.state =
      entry.block.state.modifyThread (tidOf source) (construct.withHint 0) := by rw [formed]
  have sameTop (tid : Nat) :
      (mid.block.state.thread tid).top = (entry.block.state.thread tid).top := by
    rw [cleared, BlockState.top_modifyThread fun _ => Construct.top_withHint]
  have sameArena : mid.block.state.arena = entry.block.state.arena := by rw [cleared]; rfl
  obtain ⟨join, joined, joins⟩ := joiner_eq_ok_joinsBy construct
    ⟨teamFor construct (activity warp mask) hwOf tidOf entry.block.outline source rest,
      (activity warp mask).lanes.map (seatFor construct hwOf tidOf entry.block.outline),
      tidOf source⟩ ((sameTop _).trans htop) (sameArena ▸ hframe)
  obtain ⟨topOf, state, written, run, moved, framed⟩ := takeSeats_moved construct
    (activity warp mask) hwOf entry.block.outline
    (share construct (activity warp mask) tidOf entry.block.outline source) joins warp.width
    (sameArena ▸ sound) gathered.distinct
    (fun lane among => Nat.lt_of_lt_of_le (lt_width_of_mem among) covered)
    fun lane among => sameTop _ ▸ standing lane among
  rw [ends_bind, ends_of_ok joined, teamFor, List.zip_map', ends_bind, ends_of_ok run, ends_pure]
  refine ⟨topOf, effect_of_moved left htop hframe (cleared ▸ moved) (sameArena ▸ framed) ?_⟩
  show Block.mk _ _ _ _ _ _ = _
  rw [formed]

/-- **One entry.** Let the lanes of the activity mask lie in the block and belong to different
threads with live tops, and let the jobs cover the warp. Then an entry that returns has its effect,
whatever the cursor is and whether or not the source is a lane of its own team. It returns if a lane
is left and the teams formed so far can be counted. -/
theorem ends_enter_effect {hwOf : Nat → Nat} (initialized : entry.block.initialized = true)
    (sound : entry.block.state.arena.Sound)
    (gathered : Gathered warp (activity warp mask).lanes entry.block.layout hwOf tidOf)
    (standing : ∀ lane ∈ (activity warp mask).lanes, ∃ id,
      (entry.block.state.thread (tidOf lane)).top = some id ∧
        entry.block.state.arena.isLive id = true)
    (covered : warp.width ≤ entry.jobs.size) :
    Ends (enter construct warp mask) entry
      (fun team after => ∃ sourceTop sourceFrame topOf,
        Effect construct warp mask tidOf entry team after sourceTop sourceFrame topOf)
      fun failure _ =>
        sources warp mask entry.cursor = [] ∧
          failure = .rejected (.noRemainingLanes (activity warp mask) entry.cursor) ∨
        failure = .halted .addOverflow ∧
          UInt32.size ≤ entry.block.counters.convergentTeams + 1 := by
  cases left : sources warp mask entry.cursor with
  | nil =>
    refine (ends_enter_source initialized).mono ?_ ?_
    · rintro team after ⟨-, rest, serves⟩
      have some := serves.source
      rw [left] at some
      cases some
    · rintro failure after ⟨-, refused⟩
      exact .inl ⟨rfl, (refused left).2 covered⟩
  | cons source rest =>
    have left' : ((activity warp mask).remainingFrom entry.cursor).lanes = source :: rest :=
      (LaneMask.lanes_remainingFrom _ _).trans left
    have member : source ∈ (activity warp mask).lanes :=
      LaneMask.mem_of_mem_remainingFrom (left' ▸ List.mem_cons_self)
    have outlined : Block.Outlined entry.block.layout entry.block.outline entry.block :=
      ⟨rfl, initialized, sound, rfl⟩
    obtain ⟨sourceTop, htop, hlive⟩ := standing source member
    obtain ⟨sourceFrame, hframe⟩ := FrameArena.isLive_iff.1 hlive
    have forms : Ends (formTeam construct warp mask) entry _ _ :=
      (ends_formTeam gathered.placed left' outlined htop).and (effect_formTeam initialized)
    rw [enter, ends_bind, ends_get, ends_bind, ends_refuseIf]
    refine ⟨fun short => absurd short (Nat.not_lt.2 covered), fun _ => ?_⟩
    rw [ends_bind]
    refine forms.mono ?_ fun _ _ stopped => .inr ⟨stopped.1.1, stopped.1.2.2⟩
    rintro _ mid ⟨⟨rfl, cursor, jobs, consumed, counted⟩, formed⟩
    obtain ⟨counters, hmid⟩ := formed.block
    have spent : mid.block = { entry.block with
        state := entry.block.state.modifyThread (tidOf source) (construct.withHint 0)
        counters := { entry.block.counters with
          convergentTeams := entry.block.counters.convergentTeams + 1 } } := by
      rw [← counted, hmid]
    refine (ends_seating left sound gathered (fun lane among => ?_) (jobs ▸ covered) htop hframe
      spent).mono (fun team after effect => ⟨sourceTop, sourceFrame, effect⟩) fun _ _ => False.elim
    obtain ⟨id, hid, -⟩ := standing lane among
    rw [hid, Option.isSome_some]

/-- Two SPMD lanes, of which the second asks for one thread. -/
def askingPair : Block where
  arch := .volta
  layout := ⟨2, 32, .spmd⟩
  initialized := true
  state := (BlockState.spmd 2 (.initial 0)).modifyThread 1 (Construct.parallel.withHint 1)

/-- The second lane is to be the source. -/
def askingEntry : Entry := ⟨askingPair, 1, Array.replicate 32 {}⟩

/-- The second lane is the source of a team of one, and that one is the first lane. -/
theorem ends_enter_effect_askingPair :
    ∃ team after sourceTop sourceFrame topOf,
      enter .parallel ⟨0, 32⟩ ⟨3⟩ askingEntry = .ok team after ∧
      Effect .parallel ⟨0, 32⟩ ⟨3⟩ id askingEntry team after sourceTop sourceFrame topOf := by
  have lanes : (activity ⟨0, 32⟩ ⟨3⟩).lanes = [0, 1] := by decide +kernel
  have gathered : Gathered ⟨0, 32⟩ (activity ⟨0, 32⟩ ⟨3⟩).lanes askingEntry.block.layout id id := by
    rw [lanes]
    exact ⟨by decide, by decide, by decide, fun _ _ _ _ same => same⟩
  have standing : ∀ lane ∈ (activity ⟨0, 32⟩ ⟨3⟩).lanes, ∃ frame,
      (askingEntry.block.state.thread (id lane)).top = some frame ∧
        askingEntry.block.state.arena.isLive frame = true := by
    rw [lanes]
    refine List.forall_mem_cons.2 ⟨⟨BlockState.homeId 0, by decide +kernel⟩, ?_⟩
    exact List.forall_mem_singleton.2 ⟨BlockState.homeId 1, by decide +kernel⟩
  have sound : askingEntry.block.state.arena.Sound := BlockState.sound_spmd
  have covered : 32 ≤ askingEntry.jobs.size := Nat.le_of_eq Array.size_replicate.symm
  have initialized : askingEntry.block.initialized = true := rfl
  have returns : (enter .parallel ⟨0, 32⟩ ⟨3⟩ askingEntry matches .ok _ _) = true := by
    decide +kernel
  -- from here on the entry is not to be run again
  generalize askingEntry = entry at *
  have ends : Ends (enter .parallel ⟨0, 32⟩ ⟨3⟩) entry _ _ :=
    ends_enter_effect initialized sound gathered standing covered
  rcases run : enter .parallel ⟨0, 32⟩ ⟨3⟩ entry with ⟨team, after⟩ | ⟨failure, after⟩
  · rw [ends_of_ok run] at ends
    obtain ⟨sourceTop, sourceFrame, topOf, effect⟩ := ends
    exact ⟨team, after, sourceTop, sourceFrame, topOf, rfl, effect⟩
  · rw [run] at returns
    cases returns

end Convergent

end RegionDispatch
