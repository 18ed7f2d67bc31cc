import RegionDispatch.Convergent.Loop
import RegionDispatch.Proofs.Block.Guarded
import RegionDispatch.Proofs.Block.Serial
import RegionDispatch.Proofs.Convergent.Team
import RegionDispatch.Proofs.LaneMask

/-! # Convergent regions with their accesses guarded

A group that enters a convergent region publishes its hints in an array by lane and reads the
source's hint from there, and the lanes that leave a loop look up their jobs by lane. Here these
indices are guarded, and so are the differences that lane masks are computed with and the places of
the frames that a parallel construct stores. The lanes of an activity mask lie below the width of
their warp and below 64, so no guard halts the group.

* `LaneMask.checkedBelow`, `Convergent.publish` — the accesses that are guarded.
* `Convergent.guardedFormTeam`, `Convergent.guardedEnter`, `Convergent.guardedLoop` — the steps with
  their accesses guarded.
* **`Warp.Fits`** — a warp whose lane numbers fit their word.
* `Convergent.guards_enter`, `Convergent.guards_loop` — with such a warp and on intact blocks they
  do what the steps do, for every mask, cursor and buffer of jobs. -/

namespace RegionDispatch

open Dispatch

/-! ## Masks -/

namespace LaneMask

/-- The lanes strictly below `lane`, with the difference guarded. -/
def checkedBelow (lane : Nat) : Except Fault LaneMask :=
  if lane < maxGroupWidth then do
    let bits ← checkedSub (bit lane).toNat 1
    return ofNat bits
  else
    return ⟨BitVec.allOnes 64⟩

/-- A bit is never zero, so one can be taken from it. -/
theorem checkedBelow_eq (lane : Nat) : checkedBelow lane = .ok (below lane) := by
  unfold checkedBelow below
  split
  · next small =>
    have power : (bit lane).toNat = 2 ^ lane := by
      have fits : 2 ^ lane < 2 ^ 64 := Nat.pow_lt_pow_right (by decide) small
      rw [bit, if_pos small, BitVec.toNat_shiftLeft, Nat.shiftLeft_eq]
      simpa using Nat.mod_eq_of_lt fits
    have pos : 1 ≤ (bit lane).toNat := power ▸ Nat.one_le_two_pow
    have word : BitVec.ofNat 64 ((bit lane).toNat - 1) = bit lane - 1 := by
      have inside : (bit lane).toNat < 2 ^ 64 := (bit lane).isLt
      refine BitVec.eq_of_toNat_eq ?_
      rw [BitVec.toNat_ofNat, BitVec.toNat_sub_of_le (by simpa [BitVec.le_def] using pos)]
      exact Nat.mod_eq_of_lt (Nat.lt_of_le_of_lt (Nat.sub_le _ _) inside)
    rw [checkedSub_of_le pos, ← word]
    rfl
  · rfl

/-- The lanes of a group are those below its width. -/
theorem full_eq_below (width : Nat) : full width = below width := by
  unfold full below bit
  split <;> rfl

/-- The lanes of the mask at or above `lane`, with the difference guarded. -/
def checkedRemainingFrom (m : LaneMask) (lane : Nat) : Except Fault LaneMask := do
  let below ← checkedBelow lane
  return ⟨m.bits &&& ~~~below.bits⟩

theorem checkedRemainingFrom_eq (m : LaneMask) (lane : Nat) :
    m.checkedRemainingFrom lane = .ok (m.remainingFrom lane) := by
  rw [checkedRemainingFrom, checkedBelow_eq]
  rfl

end LaneMask

/-- **The lane numbers of the warp fit their word**, whatever lane of a mask is looked at. -/
def Warp.Fits (warp : Warp) : Prop := warp.id * warp.width + 63 < UInt32.size

instance {warp : Warp} : Decidable warp.Fits := inferInstanceAs (Decidable (_ < _))

namespace Convergent

variable {construct : Construct} {warp : Warp} {mask : LaneMask} {block : Block} {lane n : Nat}

/-- The member that takes a seat, with the difference in its rank guarded. -/
def Seat.checkedMember (mask : LaneMask) (size : Nat) (seat : Seat) : Except Fault Member := do
  let below ← LaneMask.checkedBelow seat.lane
  let rank := (mask.inter below).count
  return { lane := seat.lane, hwLane := seat.hwLane, rank, active := rank < size }

theorem Seat.checkedMember_eq (mask : LaneMask) (size : Nat) (seat : Seat) :
    seat.checkedMember mask size = .ok (seat.member mask size) := by
  rw [checkedMember, LaneMask.checkedBelow_eq]
  rfl

/-! ## Publishing hints -/

/-- Writes the hints of the seats into `values`, which is indexed by lane without a look at its
size. -/
def publish : List Seat → Array Nat → Except Fault (Array Nat)
  | [], values => return values
  | seat :: seats, values => do
    let index ← checkedIndex values.size seat.lane
    publish seats (values.setIfInBounds index seat.hint)

/-- **Hints of lanes that the array covers** are published without a fault and can be read there. -/
theorem exists_publish {seats : List Seat} (nodup : (seats.map (·.lane)).Nodup) {values : Array Nat}
    (inside : ∀ seat ∈ seats, seat.lane < values.size) :
    ∃ published, publish seats values = .ok published ∧
      (∀ seat ∈ seats, published[seat.lane]? = some seat.hint) ∧
      ∀ lane, lane ∉ seats.map (·.lane) → published[lane]? = values[lane]? := by
  induction seats generalizing values with
  | nil => exact ⟨values, rfl, fun _ absent => absurd absent List.not_mem_nil, fun _ _ => rfl⟩
  | cons seat seats ih =>
    rw [List.map_cons, List.nodup_cons] at nodup
    rw [List.forall_mem_cons] at inside
    obtain ⟨published, run, written, kept⟩ :=
      @ih nodup.2 (values.setIfInBounds seat.lane seat.hint) (by simpa using inside.2)
    refine ⟨published, ?_, List.forall_mem_cons.2 ⟨?_, written⟩, fun lane absent => ?_⟩
    · rw [publish, checkedIndex_of_lt inside.1]
      exact run
    · rw [kept _ nodup.1, Array.getElem?_setIfInBounds, if_pos rfl, if_pos inside.1]
    · rw [List.map_cons, List.mem_cons, not_or] at absent
      rw [kept lane absent.2, Array.getElem?_setIfInBounds, if_neg (Ne.symm absent.1)]

/-! ## Forming a team -/

/-- What is left of forming a team once the lanes have their seats. -/
def staff (construct : Construct) (mask : LaneMask) (source : Nat) (isFinal : Bool)
    (seats : List Seat) : Dispatch Entry Formation :=
  match seats.find? (·.lane = source) with
  | none => reject (.sourceLaneInactive source)
  | some origin => do
    let size := teamSize mask.count origin.hint
    onBlock (Block.onState fun state => state.modifyThread origin.thread (construct.withHint 0))
    modify ({ · with cursor := source + 1 })
    onBlock (Block.tally Counters.addTeam)
    return {
      team := { source, isFinal, size, members := seats.map (·.member mask size) },
      seats, sourceThread := origin.thread }

/-- The same with its accesses guarded. The hint of the source is read from the array that the lanes
publish theirs in, its thread is looked up again, and a hint of zero is not written back. -/
def guardedStaff (construct : Construct) (warp : Warp) (mask : LaneMask) (source : Nat)
    (isFinal : Bool) (seats : List Seat) : Dispatch Entry Formation := do
  let values ← checked (publish seats (Array.replicate warp.width 0))
  match Warp.shuffle mask values.toList source with
  | none => reject (.sourceLaneInactive source)
  | some hint =>
    let hwLane ← checked (warp.hwLane source)
    let tid ← onBlock (Block.threadOf hwLane)
    let size := teamSize mask.count hint
    if 0 < hint then
      onBlock (Block.onState fun state => state.modifyThread tid (construct.withHint 0))
    else
      pure ()
    let members ← checked (seats.mapM (·.checkedMember mask size))
    let cursor ← checked (checkedAdd UInt32.size source 1)
    modify ({ · with cursor })
    onBlock (Block.tally Counters.addTeam)
    return { team := { source, isFinal, size, members }, seats, sourceThread := tid }

/-- Forms the next team with its accesses guarded. -/
def guardedFormTeam (construct : Construct) (warp : Warp) (mask : LaneMask) :
    Dispatch Entry Formation := do
  let entry ← get
  refuseIf (!entry.block.initialized) .runtimeUninitialized
  let full ← checked (LaneMask.checkedBelow warp.width)
  let mask := mask.inter full
  let remaining ← checked (mask.checkedRemainingFrom entry.cursor)
  match remaining.lowestFrom 0 with
  | none => reject (.noRemainingLanes mask entry.cursor)
  | some source =>
    let seats ← onBlock (seats construct warp mask.lanes)
    guardedStaff construct warp mask source (remaining.count = 1) seats

/-- What the seat of a lane says. -/
structure Seat.Taken (construct : Construct) (warp : Warp) (block : Block) (seat : Seat) :
    Prop where
  hwLane : warp.hwLane seat.lane = .ok seat.hwLane
  thread : Block.threadOf seat.hwLane block = .ok seat.thread block
  hint : seat.hint = construct.hint (block.state.thread seat.thread)

/-- A lane of a fitting warp gets its seat without a fault. -/
theorem ends_seat_taken (fits : warp.Fits) (intact : block.Intact) (small : lane < maxGroupWidth) :
    Ends (seat construct warp lane) block
      (fun seat t => t = block ∧ seat.lane = lane ∧ seat.Taken construct warp block)
      fun failure t => t = block ∧ ∃ error, failure = .rejected error := by
  have within : warp.id * warp.width + lane < UInt32.size := by
    have := fits
    unfold Warp.Fits maxGroupWidth at *
    omega
  have found : Ends (Block.threadOf (warp.id * warp.width + lane)) block _ _ :=
    intact.ends_threadOf
  rw [seat, Warp.hwLane_of_lt within, checked_ok, ends_bind, ends_pure, ends_bind]
  rcases run : Block.threadOf (warp.id * warp.width + lane) block with ⟨tid, t⟩ | ⟨failure, t⟩
  · rw [ends_of_ok run] at found ⊢
    subst found
    exact ⟨rfl, rfl, Warp.hwLane_of_lt within, run, rfl⟩
  · rw [ends_of_error run] at found ⊢
    exact found

theorem ends_seats_taken (fits : warp.Fits) (intact : block.Intact) (lanes : List Nat)
    (small : ∀ lane ∈ lanes, lane < maxGroupWidth) :
    Ends (seats construct warp lanes) block
      (fun seats t => t = block ∧ seats.map (·.lane) = lanes ∧
        ∀ seat ∈ seats, seat.Taken construct warp block)
      fun failure t => t = block ∧ ∃ error, failure = .rejected error := by
  induction lanes with
  | nil => exact ⟨rfl, rfl, fun _ absent => absurd absent List.not_mem_nil⟩
  | cons lane lanes ih =>
    rw [List.forall_mem_cons] at small
    rw [seats, ends_bind]
    refine (ends_seat_taken fits intact small.1).mono ?_ fun _ _ stopped => stopped
    rintro first _ ⟨rfl, named, taken⟩
    rw [ends_bind]
    refine (ih small.2).mono ?_ fun _ _ stopped => stopped
    rintro others _ ⟨rfl, named', taken'⟩
    exact ⟨rfl, by rw [List.map_cons, named, named'], List.forall_mem_cons.2 ⟨taken, taken'⟩⟩

/-- A hint of zero is consumed by doing nothing. -/
theorem modifyThread_withHint_of_zero {state : BlockState} {tid : Nat}
    (none : construct.hint (state.thread tid) = 0) :
    state.modifyThread tid (construct.withHint 0) = state := by
  refine BlockState.ext_thread rfl (BlockState.size_modifyThread _) fun other _ => ?_
  rw [BlockState.thread_modifyThread]
  split
  · next same =>
    rw [← same.1, ← none]
    cases construct <;> rfl
  · rfl

/-- An entry on an intact block with `n` jobs. -/
structure Entry.Intact (n : Nat) (entry : Entry) : Prop where
  block : entry.block.Intact
  jobs : entry.jobs.size = n

/-- On intact blocks with `n` jobs the guarded step does what the step does. -/
abbrev Safe {α : Type} (n : Nat) (value : α → Prop) (guarded step : Dispatch Entry α) : Prop :=
  Guards (Entry.Intact n) (fun entry => entry.block.counters.Full) value guarded step

/-- A formation whose members are lanes of the warp. -/
def Formation.Within (warp : Warp) (formation : Formation) : Prop :=
  ∀ member ∈ formation.team.members, member.lane < warp.width

theorem guards_onBlock {α : Type} {value : α → Prop} {guarded step : Dispatch Block α}
    (h : Block.Safe value guarded step) : Safe n value (onBlock guarded) (onBlock step) :=
  h.zoom (fun _ kept => kept.block) (fun _ _ kept block => ⟨block, kept.jobs⟩) fun _ _ full => full

theorem onBlock_of_ok {α : Type} {step : Dispatch Block α} {entry : Entry} {a : α}
    (h : step entry.block = .ok a entry.block) : onBlock step entry = .ok a entry := by
  refine eq_ok_of_ends ?_
  rw [onBlock, ends_zoom]
  exact (ends_of_ok h).2 ⟨rfl, rfl⟩

/-- A step that only looks at the block only looks at the entry. -/
theorem ends_onBlock_look {α : Type} {step : Dispatch Block α} {entry : Entry} {seen : α → Prop}
    (looks : Ends step entry.block (fun a t => t = entry.block ∧ seen a)
      fun failure t => t = entry.block ∧ ∃ error, failure = .rejected error) :
    Ends (onBlock step) entry (fun a t => t = entry ∧ seen a)
      fun failure t => t = entry ∧ ∃ error, failure = .rejected error := by
  rw [onBlock, ends_zoom]
  refine looks.mono ?_ ?_
  · rintro a _ ⟨rfl, saw⟩
    exact ⟨rfl, saw⟩
  · rintro failure _ ⟨rfl, refused⟩
    exact ⟨rfl, refused⟩

theorem mapM_checkedMember (mask : LaneMask) (size : Nat) (seats : List Seat) :
    seats.mapM (·.checkedMember mask size) = .ok (seats.map (·.member mask size)) := by
  simp only [Seat.checkedMember_eq]
  exact List.mapM_pure

section Staff

variable {source : Nat} {isFinal : Bool} {seats : List Seat} {entry : Entry}
  (named : seats.map (·.lane) = (activity warp mask).lanes)

include named

theorem lt_width_of_seat {seat : Seat} (among : seat ∈ seats) : seat.lane < warp.width :=
  lt_width_of_mem (named ▸ List.mem_map_of_mem among)

/-- **The source's hint.** With a seat for every lane of the mask, the array holds the hint that the
seat of the source says. -/
theorem exists_source (member : source ∈ (activity warp mask).lanes) :
    ∃ published, ∃ origin ∈ seats,
      publish seats (Array.replicate warp.width 0) = .ok published ∧
      seats.find? (·.lane = source) = some origin ∧
      Warp.shuffle (activity warp mask) published.toList source = some origin.hint := by
  have covered : ∀ seat ∈ seats, seat.lane < (Array.replicate warp.width 0).size := by
    intro seat among
    rw [Array.size_replicate]
    exact lt_width_of_seat named among
  obtain ⟨published, publishes, written, -⟩ :=
    exists_publish (named ▸ LaneMask.nodup_lanes _) covered
  obtain ⟨origin, found⟩ : ∃ origin, seats.find? (decide <| ·.lane = source) = some origin := by
    rw [← Option.isSome_iff_exists, List.find?_isSome]
    obtain ⟨seat, among, same⟩ := List.mem_map.1 (named ▸ member)
    exact ⟨seat, among, decide_eq_true same⟩
  have among := List.mem_of_find?_eq_some found
  obtain rfl : origin.lane = source := by simpa using List.find?_some found
  refine ⟨published, origin, among, publishes, found, ?_⟩
  rw [Warp.shuffle, if_pos (LaneMask.mem_lanes.1 member), Array.getElem?_toList,
    written origin among]

/-- **Staffing a team** with its accesses guarded is staffing it, if the seats are taken as the
block has it. -/
theorem guardedStaff_eq (member : source ∈ (activity warp mask).lanes)
    (taken : ∀ seat ∈ seats, seat.Taken construct warp entry.block) :
    guardedStaff construct warp (activity warp mask) source isFinal seats entry =
      staff construct (activity warp mask) source isFinal seats entry := by
  obtain ⟨published, origin, among, publishes, found, read⟩ := exists_source named member
  obtain rfl : origin.lane = source := by simpa using List.find?_some found
  have next : origin.lane + 1 < UInt32.size := by
    have small := LaneMask.lt_of_contains (LaneMask.mem_lanes.1 member)
    exact Nat.lt_of_le_of_lt small (by decide)
  have taken := taken origin among
  rw [guardedStaff, publishes, checked_ok, pure_bind, read, staff, found]
  dsimp only
  rw [taken.hwLane, checked_ok, pure_bind, bind_of_ok (onBlock_of_ok taken.thread)]
  simp only [mapM_checkedMember, checkedAdd_of_lt next, checked_ok, pure_bind]
  split
  · rfl
  · next none =>
    -- one of the two writes the hint of zero back, and the other leaves it
    have zero := taken.hint.symm.trans (Nat.eq_zero_of_not_pos none)
    have idle : Block.onState (fun state =>
        state.modifyThread origin.thread (construct.withHint 0)) entry.block =
        .ok () entry.block := by
      refine eq_ok_of_ends ?_
      rw [Block.onState, ends_modify, modifyThread_withHint_of_zero zero]
      exact ⟨rfl, rfl⟩
    rw [bind_of_ok (onBlock_of_ok idle)]

/-- It leaves no fault behind, and its team has the lanes of the seats. -/
theorem safe_staff (source : Nat) (isFinal : Bool) :
    Safe n (Formation.Within warp) (staff construct (activity warp mask) source isFinal seats)
      (staff construct (activity warp mask) source isFinal seats) := by
  unfold staff
  split
  · exact .reject _
  · next origin _ =>
    have spends := Block.safe_onState fun _ sound =>
      BlockState.Orderly.withHint sound construct 0 origin.thread
    have moves : Safe n Any (modify fun entry : Entry => { entry with cursor := source + 1 })
        (modify fun entry : Entry => { entry with cursor := source + 1 }) :=
      .modify fun _ h => ⟨h.block, h.jobs⟩
    refine (guards_onBlock spends).bind fun _ _ => moves.bind fun _ _ =>
      (guards_onBlock (Block.safe_tally Counters.counts_addTeam)).bind fun _ _ => .pure ?_
    intro member among
    obtain ⟨seat, seated, rfl⟩ := List.mem_map.1 among
    exact lt_width_of_seat named seated

end Staff

/-- **Forming a team** on a fitting warp passes all guards, and gives the source its hint. -/
theorem guards_formTeam (fits : warp.Fits) (construct : Construct) (mask : LaneMask) :
    Safe n (Formation.Within warp) (guardedFormTeam construct warp mask)
      (formTeam construct warp mask) := by
  refine .get_bind fun captured _ => (Guards.refuseIf _ _).bind fun _ _ => ?_
  simp only [LaneMask.checkedBelow_eq, ← LaneMask.full_eq_below, LaneMask.checkedRemainingFrom_eq,
    checked_ok, pure_bind]
  have active : mask.inter (LaneMask.full warp.width) = activity warp mask := rfl
  rw [active]
  cases left : ((activity warp mask).remainingFrom captured.cursor).lowestFrom 0 with
  | none => exact .reject _
  | some source =>
    have member : source ∈ (activity warp mask).lanes := by
      rw [LaneMask.lowestFrom_zero] at left
      exact LaneMask.mem_of_mem_remainingFrom (List.mem_of_mem_head? left)
    intro entry h
    refine Guards.look_bind h (ends_onBlock_look (ends_seats_taken fits h.block _ fun lane among =>
      LaneMask.lt_of_contains (LaneMask.mem_lanes.1 among))) ?_
    rintro seats ⟨named, taken⟩
    exact ⟨guardedStaff_eq named member taken, (safe_staff named source _ entry h).2⟩

/-! ## Entering -/

/-- Puts an active lane on a fresh frame, with the place of the frame guarded. -/
def guardedJoinParallel (sourceTop : FrameId) (sourceFrame : Frame) (size : Nat) (seat : Seat)
    (member : Member) : Dispatch Entry Unit := do
  let state := (← get).block.state
  let (id, pushed) ←
    checked (state.checkedPush seat.thread (sourceFrame.convergent sourceTop member.rank size))
  modifyJob seat.lane ({ · with pushed := some id })
  onBlock (Block.onState fun _ => pushed)

/-- How the active lanes of a formed team join it, with their accesses guarded. -/
def guardedJoiner (construct : Construct) (formation : Formation) :
    Dispatch Entry (Seat → Member → Dispatch Entry Unit) := do
  let state := (← get).block.state
  let sourceTop ← granted (state.top formation.sourceThread)
  match construct with
  | .simd => return fun seat _ => joinSimd sourceTop seat
  | .parallel =>
    let sourceFrame ← granted (state.frame sourceTop)
    return guardedJoinParallel sourceTop sourceFrame formation.team.size

/-- Enters a convergent region with its accesses guarded. -/
def guardedEnter (construct : Construct) (warp : Warp) (mask : LaneMask) : Dispatch Entry Team := do
  let jobs := (← get).jobs.size
  refuseIf (jobs < warp.width) (.laneOutOfRange jobs warp.width)
  let formation ← guardedFormTeam construct warp mask
  let join ← guardedJoiner construct formation
  takeSeats warp.width join (formation.seats.zip formation.team.members)
  return formation.team

theorem guards_modifyJob (lane : Nat) (f : Job → Job) :
    Safe n Any (modifyJob lane f) (modifyJob lane f) :=
  .modify fun _ h => ⟨h.block, Array.size_modify.trans h.jobs⟩

theorem guards_joinSimd (top : FrameId) (seat : Seat) :
    Safe n Any (joinSimd top seat) (joinSimd top seat) :=
  guards_onBlock (Block.safe_onState fun _ sound => .setTop sound seat.thread top)

/-- **A fresh frame has a place**, because the free list is sound. -/
theorem guards_joinParallel (top : FrameId) (frame : Frame) (size : Nat) (seat : Seat)
    (member : Member) :
    Safe n Any (guardedJoinParallel top frame size seat member)
      (joinParallel top frame size seat member) := by
  intro entry h
  refine ⟨?_, ?_⟩
  -- the push is written with the arena it is made in, so no rule for steps applies
  · rw [guardedJoinParallel, get_bind, BlockState.checkedPush_eq h.block.sound, checked_ok,
      pure_bind]
    rfl
  · have pushed := h.block.withState (.push h.block.sound seat.thread
      (frame.convergent top member.rank size))
    exact ⟨⟨pushed, Array.size_modify.trans h.jobs⟩, trivial⟩

theorem guards_takeSeats {limit : Nat} {join join' : Seat → Member → Dispatch Entry Unit}
    (joins : ∀ seat member, Safe n Any (join' seat member) (join seat member))
    (pairs : List (Seat × Member)) :
    Safe n Any (takeSeats limit join' pairs) (takeSeats limit join pairs) := by
  induction pairs with
  | nil => exact .pure trivial
  | cons pair pairs ih =>
    obtain ⟨seat, member⟩ := pair
    have first : Safe n Any (takeSeat limit join' seat member) (takeSeat limit join seat member) :=
      .get_bind fun _ _ => (Guards.refuseIf _ _).bind fun _ _ =>
        (guards_modifyJob _ _).bind fun _ _ => .ite (fun _ => .get_bind fun _ _ =>
          (Guards.granted _).bind fun _ _ => (guards_modifyJob _ _).bind fun _ _ =>
            joins seat member) fun _ => .pure trivial
    exact first.bind fun _ _ => ih

/-- **Entering.** Whatever the mask, the cursor and the jobs are, the guarded entry does what the
entry does, and no member of its team lies outside the warp. -/
theorem guards_enter (fits : warp.Fits) (construct : Construct) (mask : LaneMask) :
    Safe n (fun team => ∀ member ∈ team.members, member.lane < warp.width)
      (guardedEnter construct warp mask) (enter construct warp mask) := by
  refine .get_bind fun _ _ => (Guards.refuseIf _ _).bind fun _ _ =>
    (guards_formTeam fits construct mask).bind fun formation within => ?_
  unfold guardedJoiner joiner
  simp only [bind_assoc]
  refine .get_bind fun _ _ => (Guards.granted _).bind fun top _ => ?_
  cases construct with
  | simd =>
    simp only [pure_bind]
    exact (guards_takeSeats (fun seat _ => guards_joinSimd top seat) _).bind fun _ _ => .pure within
  | parallel =>
    simp only [bind_assoc, pure_bind]
    refine (Guards.granted _).bind fun frame _ => ?_
    exact (guards_takeSeats (guards_joinParallel top frame _) _).bind fun _ _ => .pure within

end Convergent

/-! ## Loops -/

namespace Hosted

variable {ω α : Type} {value : α → Prop}

/-- On intact blocks the guarded step does what the step does, whatever the program's data is. -/
abbrev Safe (value : α → Prop) (guarded step : RegionM ω α) : Prop :=
  Guards (fun s => s.block.Intact) (fun s => s.block.counters.Full) value guarded step

theorem guards_onBlock {guarded step : Dispatch Block α} (h : Block.Safe value guarded step) :
    Safe value (onBlock guarded : RegionM ω α) (onBlock step) :=
  h.zoom (fun _ kept => kept) (fun _ _ _ block => block) fun _ _ full => full

end Hosted

namespace Convergent

variable {ω : Type} {construct : Construct} {warp : Warp} {mask : LaneMask}
  {body body' : Team → Member → RegionM ω Unit}

/-- Enters the next team with its accesses guarded. -/
def guardedEnterNext (construct : Construct) (warp : Warp) (mask : LaneMask) (cursor : Nat)
    (jobs : Array Job) : RegionM ω (Team × Nat × Array Job) :=
  Hosted.onBlock <| embed (fun block => ⟨block, cursor, jobs⟩) Entry.block do
    let team ← guardedEnter construct warp mask
    let entry ← get
    return (team, entry.cursor, entry.jobs)

/-- One team, with the lanes that leave looked up among the jobs. -/
def guardedRunTeam (construct : Construct) (body : Team → Member → RegionM ω Unit) (team : Team)
    (jobs : Array Job) : RegionM ω Unit := do
  Hosted.onBlock Block.fence
  team.active.forM (body team)
  team.active.forM fun member => do
    let index ← checked (checkedIndex jobs.size member.lane)
    Hosted.onBlock (exit construct member.hwLane (jobs.getD index {}))

/-- At most so many more teams, counted in a word. -/
def guardedRounds (construct : Construct) (warp : Warp) (mask : LaneMask)
    (body : Team → Member → RegionM ω Unit) :
    (rounds : Nat) → (cursor : Nat) → Array Job → (teams : Nat) → RegionM ω Nat
  | 0, _, _, teams => return teams
  | left + 1, cursor, jobs, teams => do
    let (team, cursor, jobs) ← guardedEnterNext construct warp mask cursor jobs
    guardedRunTeam construct body team jobs
    let teams ← checked (checkedAdd UInt32.size teams 1)
    if team.isFinal then
      return teams
    else
      guardedRounds construct warp mask body left cursor jobs teams

/-- Runs a convergent construct to its end with its accesses guarded. -/
def guardedLoop (construct : Construct) (warp : Warp) (mask : LaneMask)
    (body : Team → Member → RegionM ω Unit) : RegionM ω Nat :=
  guardedRounds construct warp mask body maxGroupWidth 0 (Array.replicate warp.width {}) 0

theorem guards_enterNext (fits : warp.Fits) (construct : Construct) (mask : LaneMask) (cursor : Nat)
    (jobs : Array Job) :
    Hosted.Safe (ω := ω) (fun entered => entered.2.2.size = jobs.size ∧
        ∀ member ∈ entered.1.members, member.lane < warp.width)
      (guardedEnterNext construct warp mask cursor jobs)
      (enterNext construct warp mask cursor jobs) := by
  refine Hosted.guards_onBlock (Guards.embed (P := Entry.Intact jobs.size) ?_
    (fun _ h => ⟨h, rfl⟩) (fun _ h => h.block) fun _ full => full)
  exact (guards_enter fits construct mask).bind fun team within =>
    .get_bind fun _ h => .pure ⟨h.jobs, within⟩

theorem guards_runTeam (construct : Construct) {team : Team} {jobs : Array Job}
    (bodies : ∀ team member, Hosted.Safe Any (body' team member) (body team member))
    (covered : ∀ member ∈ team.members, member.lane < jobs.size) :
    Hosted.Safe Any (guardedRunTeam construct body' team jobs)
      (runTeam construct body team jobs) := by
  refine (Hosted.guards_onBlock (Block.safe_tally Counters.counts_addFence)).bind fun _ _ =>
    (Guards.forM _ fun member _ => bodies team member).bind fun _ _ =>
      .forM _ fun member among => ?_
  rw [checkedIndex_of_lt (covered member (List.mem_of_mem_filter among)), checked_ok, pure_bind]
  exact Hosted.guards_onBlock (Block.safe_exit construct member.hwLane _)

/-- **Every round** finds a job for each lane of the warp, and leaves as many. -/
theorem guards_rounds (fits : warp.Fits) (construct : Construct) (mask : LaneMask)
    (bodies : ∀ team member, Hosted.Safe Any (body' team member) (body team member)) (left : Nat) :
    ∀ (cursor : Nat) {jobs : Array Job} {teams : Nat}, jobs.size = warp.width →
      teams + left < UInt32.size →
      Hosted.Safe Any (guardedRounds construct warp mask body' left cursor jobs teams)
        (rounds construct warp mask body left cursor jobs teams) := by
  -- by induction on the rounds left, which also bound how many teams are still to be counted
  induction left with
  | zero => exact fun _ _ _ _ _ => .pure trivial
  | succ left ih =>
    intro cursor jobs teams covered room
    refine (guards_enterNext fits construct mask cursor jobs).bind ?_
    rintro ⟨team, cursor', jobs'⟩ ⟨size, within⟩
    have covered' : jobs'.size = warp.width := size.trans covered
    refine (guards_runTeam construct bodies fun member among =>
      covered' ▸ within member among).bind fun _ _ => ?_
    rw [checkedAdd_of_lt (by omega), checked_ok, pure_bind]
    exact .ite (fun _ => .pure trivial) fun _ => ih cursor' covered' (by omega)

/-- **A whole loop** passes all guards if its bodies do. -/
theorem guards_loop (fits : warp.Fits) (construct : Construct) (mask : LaneMask)
    (bodies : ∀ team member, Hosted.Safe Any (body' team member) (body team member)) :
    Hosted.Safe Any (guardedLoop construct warp mask body') (loop construct warp mask body) :=
  guards_rounds fits construct mask bodies maxGroupWidth 0 Array.size_replicate (by decide)

end Convergent

end RegionDispatch
