import RegionDispatch.Proofs.Convergent.Refusal

/-! # How a team sits down

An entry that returned has used up the hint of its source and then led the lanes of lowest rank, one
after the other, to the source's frame or to frames made after it. That it returned is all that is
asked of the threads here: their tops may be gone. What each lane needs to leave again stands in its
job.

* **`Convergent.Taken`** — where the lanes of a team stand, and what their jobs hold.
* `Convergent.ends_takeSeats_joinOn` — seating a list of lanes.
* **`Convergent.ends_enter_entered`** — every entry that returned. -/

namespace RegionDispatch

open Dispatch

namespace Convergent

variable {construct : Construct} {warp : Warp} {mask : LaneMask} {entry mid after : Entry}
  {lanes : List Nat} {lane : Nat}

/-! ## Joining -/

/-- How the active lanes join once the source's frame is known. -/
def joinOn (construct : Construct) (top : FrameId) (frame : Frame) (size : Nat) :
    Seat → Member → Dispatch Entry Unit :=
  match construct with
  | .simd => fun seat _ => joinSimd top seat
  | .parallel => joinParallel top frame size

theorem ends_joiner_joinOn (formation : Formation) :
    Ends (joiner construct formation) entry
      (fun join after => after = entry ∧
        ∃ top frame, join = joinOn construct top frame formation.team.size)
      fun _ _ => True := by
  rw [joiner, ends_bind, ends_get, ends_bind, ends_granted]
  refine ⟨fun top _ => ?_, fun _ _ => trivial⟩
  cases construct with
  | simd => exact ⟨rfl, top, {}, rfl⟩
  | parallel =>
    rw [ends_bind, ends_granted]
    exact ⟨fun frame _ => ⟨rfl, top, frame, rfl⟩, fun _ _ => trivial⟩

/-- The frame the next lane moves to: the source's own, or a new one. -/
def nextTop : Construct → FrameId → FrameArena → FrameId
  | .simd, top, _ => top
  | .parallel, _, arena => arena.nextId

variable {top old : FrameId} {frame : Frame} {size : Nat} {seat : Seat} {member : Member}
  {state : BlockState}

theorem size_place : (place construct top frame size state seat member).threads.size =
    state.threads.size := by
  cases construct with
  | simd => exact BlockState.size_setTop
  | parallel => exact BlockState.size_push

theorem thread_place_of_ne {tid : Nat} (ne : tid ≠ seat.thread) :
    (place construct top frame size state seat member).thread tid = state.thread tid := by
  cases construct with
  | simd => exact BlockState.thread_setTop_of_ne ne
  | parallel => exact BlockState.thread_push_of_ne ne

theorem thread_place_self (inside : seat.thread < state.threads.size) :
    (place construct top frame size state seat member).thread seat.thread =
      { state.thread seat.thread with top := some (nextTop construct top state.arena) } := by
  cases construct with
  | simd => exact BlockState.thread_setTop_self inside
  | parallel => exact BlockState.thread_push_self inside

theorem sound_place (sound : state.arena.Sound) :
    (place construct top frame size state seat member).arena.Sound := by
  cases construct with
  | simd => exact sound
  | parallel => exact sound.alloc _

/-! ## Frames of the lanes -/

/-- The frame that belongs to a lane of the team alone. -/
def ownFrame : Construct → FrameId → Option FrameId
  | .simd, _ => none
  | .parallel, top => some top

variable {topOf : Nat → FrameId} {frameOf : Nat → Frame} {arena arena' : FrameArena}

theorem Framed.nil (arena : FrameArena) :
    ∃ topOf, Framed construct top topOf frameOf [] arena arena := by
  refine ⟨fun _ => top, ?_⟩
  cases construct with
  | simd => exact ⟨fun _ => rfl, rfl⟩
  | parallel => exact .nil arena

/-- A frame for one lane and then frames for others. -/
theorem Framed.cons (sound : state.arena.Sound)
    (hframe : frameOf lane = frame.convergent top member.rank size) (new : lane ∉ lanes)
    (rest : Framed construct top topOf frameOf lanes
      (place construct top frame size state seat member).arena arena) :
    Framed construct top (Function.update topOf lane (nextTop construct top state.arena)) frameOf
      (lane :: lanes) state.arena arena := by
  cases construct with
  | simd =>
    refine ⟨fun other => ?_, rest.2⟩
    rw [Function.update_apply]
    split
    · rfl
    · exact rest.1 other
  | parallel =>
    have first : (state.push seat.thread (frame.convergent top member.rank size)).2.arena =
        (state.arena.alloc (frameOf lane)).2 := by
      rw [hframe]
      rfl
    have rest' : FrameArena.Allotted topOf frameOf lanes _ arena := rest
    exact FrameArena.Allotted.cons sound (first ▸ rest') new

/-- A frame of a lane's own was not stored before. -/
theorem Framed.get?_own {id : FrameId}
    (h : Framed construct top topOf frameOf lanes arena arena')
    (among : lane ∈ lanes) (own : ownFrame construct (topOf lane) = some id) :
    arena.get? id = none := by
  cases construct with
  | simd => cases own
  | parallel =>
    obtain rfl : topOf lane = id := Option.some.inj own
    have dead := FrameArena.Allotted.fresh h lane among
    exact Option.isNone_iff_eq_none.1 (Option.isSome_eq_false_iff.1 dead)

/-- All other frames are as they were. -/
theorem Framed.get?_others {id : FrameId}
    (h : Framed construct top topOf frameOf lanes arena arena')
    (others : ∀ lane ∈ lanes, ownFrame construct (topOf lane) ≠ some id) :
    arena'.get? id = arena.get? id := by
  cases construct with
  | simd => rw [h.2]
  | parallel =>
    exact FrameArena.Allotted.others h id fun lane among same =>
      others lane among (congrArg some same)

/-- Joining moves the thread of the lane, and writes the lane's own frame down. -/
theorem joinOn_eq_ok (inside : seat.lane < entry.jobs.size)
    (blank : (entry.jobOf seat.lane).pushed = none) :
    ∃ after, joinOn construct top frame size seat member entry = .ok () after ∧
      Kept (· = seat.lane) entry after ∧
      after.jobOf seat.lane = { entry.jobOf seat.lane with
        pushed := ownFrame construct (nextTop construct top entry.block.state.arena) } ∧
      after.block = { entry.block with
        state := place construct top frame size entry.block.state seat member } := by
  cases construct with
  | simd =>
    refine ⟨_, rfl, ⟨rfl, rfl, fun _ _ => rfl⟩, ?_, rfl⟩
    rw [ownFrame, ← blank]
    rfl
  | parallel =>
    have kept := kept_withJob entry seat.lane ({ · with
      pushed := some (entry.block.state.push seat.thread
        (frame.convergent top member.rank size)).1 })
    have id : (entry.block.state.push seat.thread (frame.convergent top member.rank size)).1 =
        entry.block.state.arena.nextId := BlockState.push_fst
    refine ⟨_, rfl, ⟨rfl, kept.size, kept.others⟩, ?_, rfl⟩
    rw [ownFrame, nextTop, ← id]
    exact jobOf_withJob_self _ inside

/-! ## Taking seats -/

/-- **Taking a seat** writes the job of the lane, which says what it takes to leave again. -/
theorem ends_takeSeat_joinOn (limit : Nat) :
    Ends (takeSeat limit (joinOn construct top frame size) seat member) entry
      (fun _ after => Kept (· = seat.lane) entry after ∧
        if member.active then
          ∃ old, (entry.block.state.thread seat.thread).top = some old ∧
            after.jobOf seat.lane = ⟨seat.hint, some old,
              ownFrame construct (nextTop construct top entry.block.state.arena)⟩ ∧
            after.block = { entry.block with
              state := place construct top frame size entry.block.state seat member }
        else after.block = entry.block)
      fun _ _ => True := by
  rw [takeSeat, ends_bind, ends_get, ends_bind, ends_refuseIf]
  refine ⟨fun _ => trivial, fun covered => ?_⟩
  have inside : seat.lane < entry.jobs.size := Nat.lt_of_not_le covered
  have kept := kept_withJob entry seat.lane fun _ => { hint := seat.hint }
  have blank := jobOf_withJob_self (fun _ => { hint := seat.hint }) inside
  rw [ends_bind, ends_of_ok (modifyJob_eq_ok _ _ _)]
  cases member.active with
  | false => exact ⟨kept, rfl⟩
  | true =>
    rw [if_pos rfl, ends_bind, ends_get, ends_bind, ends_granted]
    refine ⟨fun old htop => ?_, fun _ _ => trivial⟩
    have inside' := kept.size ▸ inside
    have kept' := kept_withJob (entry.withJob seat.lane fun _ => { hint := seat.hint }) seat.lane
      ({ · with savedTop := some old })
    have saved := jobOf_withJob_self ({ · with savedTop := some old }) inside'
    rw [blank] at saved
    rw [ends_bind, ends_of_ok (modifyJob_eq_ok _ _ _)]
    obtain ⟨after, run, joined, job, block⟩ := joinOn_eq_ok (kept'.size ▸ inside')
      (congrArg Job.pushed saved)
    rw [ends_of_ok run, if_pos rfl]
    exact ⟨(kept.append kept').append joined, old, BlockState.top_eq_ok.1 htop,
      job.trans (by rw [saved]; rfl), block⟩

variable {seatOf : Nat → Seat} {memberOf : Nat → Member} {all active : List Nat}

/-- **The lanes of `all` have taken their seats**, and those of `active` have joined: their threads
stand on other frames, and their jobs say where they stood and which frames are theirs alone. -/
structure Taken (construct : Construct) (top : FrameId) (topOf : Nat → FrameId)
    (frameOf : Nat → Frame) (seatOf : Nat → Seat) (all active : List Nat) (before after : Entry) :
    Prop where
  moved : BlockState.Moved (fun lane => (seatOf lane).thread) topOf active before.block.state
    after.block.state
  framed : Framed construct top topOf frameOf active before.block.state.arena
    after.block.state.arena
  saved : ∀ lane ∈ active, ∃ old,
    (before.block.state.thread (seatOf lane).thread).top = some old ∧
      after.jobOf lane = ⟨(seatOf lane).hint, some old, ownFrame construct (topOf lane)⟩
  kept : Kept (· ∈ all) before after
  block : after.block = { before.block with state := after.block.state }

/-- Nobody has taken a seat. -/
theorem Taken.nil (entry : Entry) :
    ∃ topOf, Taken construct top topOf frameOf seatOf [] [] entry entry := by
  obtain ⟨topOf, framed⟩ := Framed.nil entry.block.state.arena
  exact ⟨topOf, .nil _, framed, fun _ none => absurd none List.not_mem_nil,
    ⟨rfl, rfl, fun _ _ => rfl⟩, rfl⟩

/-- A lane outside the team and then others. -/
theorem Taken.skip (first : Kept (· = lane) entry mid) (same : mid.block = entry.block)
    (rest : Taken construct top topOf frameOf seatOf all active mid after) :
    Taken construct top topOf frameOf seatOf (lane :: all) active entry after where
  moved := same ▸ rest.moved
  framed := same ▸ rest.framed
  saved := same ▸ rest.saved
  kept := first.cons rest.kept
  block := same ▸ rest.block

/-- A lane of the team and then others. -/
theorem Taken.cons (sound : entry.block.state.arena.Sound)
    (hframe : frameOf lane = frame.convergent top member.rank size)
    (first : Kept (· = lane) entry mid)
    (stands : (entry.block.state.thread (seatOf lane).thread).top = some old)
    (job : mid.jobOf lane = ⟨(seatOf lane).hint, some old,
      ownFrame construct (nextTop construct top entry.block.state.arena)⟩)
    (placed : mid.block = { entry.block with
      state := place construct top frame size entry.block.state (seatOf lane) member })
    (new : lane ∉ all) (among : ∀ other ∈ active, other ∈ all)
    (apart : ∀ other ∈ active, (seatOf other).thread ≠ (seatOf lane).thread)
    (rest : Taken construct top topOf frameOf seatOf all active mid after) :
    Taken construct top
      (Function.update topOf lane (nextTop construct top entry.block.state.arena)) frameOf seatOf
      (lane :: all) (lane :: active) entry after := by
  have inside := BlockState.lt_size_of_top stands
  have state : mid.block.state =
      place construct top frame size entry.block.state (seatOf lane) member := by rw [placed]
  refine ⟨rest.moved.cons ?_ ?_ (fun tid ne => ?_) apart,
    .cons sound hframe (fun again => new (among lane again)) (state ▸ rest.framed),
    List.forall_mem_cons.2 ⟨⟨old, stands, ?_⟩, fun other later => ?_⟩, first.cons rest.kept, ?_⟩
  · rw [state, size_place]
  · rw [state, thread_place_self inside]
  · rw [state, thread_place_of_ne ne]
  · rw [rest.kept.others lane new, job, Function.update_self]
  · obtain ⟨saved, stands', job'⟩ := rest.saved other later
    rw [state, thread_place_of_ne (apart other later)] at stands'
    have ne : other ≠ lane := fun same => new (same ▸ among other later)
    exact ⟨saved, stands', by rw [job', Function.update_of_ne ne]⟩
  · rw [rest.block, placed]

/-- **Taking seats**, if it comes to an end, leaves the lanes of the team seated. -/
theorem ends_takeSeats_joinOn (limit : Nat) (hlane : ∀ lane, (seatOf lane).lane = lane)
    (lanes : List Nat) :
    ∀ {entry : Entry}, entry.block.state.arena.Sound →
      (lanes.map fun lane => (seatOf lane).thread).Nodup →
      Ends (takeSeats limit (joinOn construct top frame size)
          (lanes.map fun lane => (seatOf lane, memberOf lane))) entry
        (fun _ after => ∃ topOf, Taken construct top topOf
          (fun lane => frame.convergent top (memberOf lane).rank size) seatOf lanes
          (lanes.filter fun lane => (memberOf lane).active) entry after)
        fun _ _ => True := by
  -- by induction on the lanes still waiting
  induction lanes with
  | nil => exact fun _ _ => Taken.nil _
  | cons lane lanes ih =>
    intro entry sound nodup
    rw [List.map_cons, List.nodup_cons] at nodup
    have new : lane ∉ lanes := fun again => nodup.1 (List.mem_map_of_mem again)
    rw [List.map_cons, takeSeats, ends_bind]
    refine (ends_takeSeat_joinOn limit).mono ?_ fun _ _ _ => trivial
    rintro ⟨⟩ mid ⟨first, seated⟩
    rw [hlane] at first
    cases joins : (memberOf lane).active with
    | false =>
      rw [joins, if_neg Bool.false_ne_true] at seated
      rw [List.filter_cons_of_neg (by simp [joins])]
      refine (ih (seated ▸ sound) nodup.2).mono ?_ fun _ _ _ => trivial
      rintro ⟨⟩ after ⟨topOf, rest⟩
      exact ⟨topOf, rest.skip first seated⟩
    | true =>
      rw [joins, if_pos rfl] at seated
      obtain ⟨old, stands, job, placed⟩ := seated
      rw [hlane] at job
      rw [List.filter_cons_of_pos (by simp [joins])]
      have sound' : mid.block.state.arena.Sound := by
        rw [placed]
        exact sound_place sound
      refine (ih sound' nodup.2).mono ?_ fun _ _ _ => trivial
      rintro ⟨⟩ after ⟨topOf, rest⟩
      have among (other : Nat) (later : other ∈ lanes.filter fun lane => (memberOf lane).active) :
          other ∈ lanes := List.mem_of_mem_filter later
      refine ⟨_, rest.cons sound rfl first stands job placed new among ?_⟩
      exact fun other later same => nodup.1 (same ▸ List.mem_map_of_mem (among other later))

/-! ## A whole team -/

/-- The lanes of lowest rank, which make up a team of `size`. -/
def teamLanes (warp : Warp) (mask : LaneMask) (size : Nat) : List Nat :=
  (activity warp mask).lanes.filter ((activity warp mask).rankOf · < size)

/-- **What an entry that returned left**: the hint of the source was used up, and then the lanes of
lowest rank joined. -/
structure Entered (construct : Construct) (warp : Warp) (mask : LaneMask) (entry : Entry)
    (team : Team) (after : Entry) : Prop where
  inside : Inside warp mask entry.block
  source : team.source ∈ (activity warp mask).lanes
  active : team.active = (teamLanes warp mask team.size).map
    (memberFor (activity warp mask) warp.number team.size)
  taken : ∃ (mid : Entry) (counters : Counters) (top : FrameId) (topOf : Nat → FrameId)
    (frameOf : Nat → Frame),
    mid.block = { entry.block with
      state := entry.block.state.modifyThread (warp.owner entry.block.layout team.source)
        (construct.withHint 0)
      counters } ∧
    Taken construct top topOf frameOf
      (seatFor construct warp.number (warp.owner entry.block.layout) entry.block.outline)
      (activity warp mask).lanes (teamLanes warp mask team.size) mid after

/-- The lanes of the mask belong to different threads. -/
def Distinct (warp : Warp) (mask : LaneMask) (layout : BlockLayout) : Prop :=
  ∀ lane ∈ (activity warp mask).lanes, ∀ other ∈ (activity warp mask).lanes,
    warp.owner layout lane = warp.owner layout other → lane = other

theorem ends_enter_entered (sound : entry.block.state.arena.Sound)
    (distinct : Distinct warp mask entry.block.layout) :
    Ends (enter construct warp mask) entry (Entered construct warp mask entry)
      fun _ _ => True := by
  rw [enter, ends_bind, ends_get, ends_bind, ends_refuseIf]
  refine ⟨fun _ => trivial, fun enough => ?_⟩
  rw [ends_bind]
  cases initialized : entry.block.initialized with
  | false =>
    rw [formTeam, ends_bind, ends_get, ends_bind, ends_refuseIf]
    exact ⟨fun _ => trivial, fun full => absurd (by simp [initialized]) full⟩
  | true =>
    have forms : Ends (formTeam construct warp mask) entry _ _ :=
      (effect_formTeam initialized).and
        (ends_formTeam_refusal (Nat.le_of_not_lt enough) initialized)
    refine forms.mono ?_ fun _ _ _ => trivial
    rintro formation mid ⟨formed, -, inside⟩
    have seats := formed.seats_eq inside
    obtain ⟨counters, left⟩ := formed.block
    obtain ⟨origin, among, source, thread, -⟩ := formed.origin
    have member : formation.team.source ∈ (activity warp mask).lanes := by
      rw [← formed.named, ← source]
      exact List.mem_map_of_mem among
    have sourceThread : formation.sourceThread =
        warp.owner entry.block.layout formation.team.source := by
      rw [← thread, formed.seat_eq inside among, ← source]
      rfl
    have members : formation.team.members = (activity warp mask).lanes.map
        (memberFor (activity warp mask) warp.number formation.team.size) := by
      rw [formed.members, seats, List.map_map]
      rfl
    have sound' : mid.block.state.arena.Sound := by
      rw [left]
      exact sound
    have nodup : ((activity warp mask).lanes.map fun lane => (seatFor construct warp.number
        (warp.owner entry.block.layout) entry.block.outline lane).thread).Nodup :=
      (LaneMask.nodup_lanes _).map_on fun lane among other among' =>
        distinct lane among other among'
    rw [ends_bind]
    refine (ends_joiner_joinOn formation).mono ?_ fun _ _ _ => trivial
    rintro _ _ ⟨rfl, top, frame, rfl⟩
    rw [ends_bind, seats, members, List.zip_map']
    refine (ends_takeSeats_joinOn warp.width (fun _ => rfl) _ sound' nodup).mono ?_
      fun _ _ _ => trivial
    rintro ⟨⟩ after ⟨topOf, taken⟩
    rw [sourceThread] at left
    refine ⟨inside, member, ?_, _, counters, top, topOf, _, left, taken⟩
    rw [Team.active, members, List.filter_map]
    rfl

end Convergent

end RegionDispatch
