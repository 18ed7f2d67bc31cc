import RegionDispatch.Proofs.Convergent.Entry

/-! # Refused entries and exits

A convergent entry consumes a hint, moves a cursor, writes jobs and moves tops, and between any two
of these steps stands a call that can fail in general. On threads that all stand on live frames none
of them fails once the hint is consumed: the checks before it leave no reason. An exit is refused
where the lane has saved no top, which a parallel exit looks for first and a simd exit last.

* **`Convergent.refusal`** — why an entry is refused: the first reason that applies.
* **`Convergent.enter_refusal`** — an entry is refused for that reason and as it stands, and returns
  if there is none.
* **`Convergent.ends_exit_refused`** — a refused exit changes nothing, but for the hint that a simd
  exit has given back before. -/

namespace RegionDispatch

open Dispatch

/-- The hardware lane of a lane of the warp, if it fits its word. -/
def Warp.number (warp : Warp) (lane : Nat) : Nat := warp.id * warp.width + lane

/-- The thread that a lane of the warp has in a block. -/
def Warp.owner (warp : Warp) (layout : BlockLayout) (lane : Nat) : Nat :=
  layout.owner (warp.number lane)

theorem Warp.hwLane_eq_ok {warp : Warp} {lane hwLane : Nat} :
    warp.hwLane lane = .ok hwLane ↔ warp.number lane < UInt32.size ∧ hwLane = warp.number lane := by
  constructor
  · intro found
    have fits : warp.number lane < UInt32.size := by
      unfold Warp.hwLane at found
      cases first : warp.firstLane with
      | error fault =>
        rw [first] at found
        cases found
      | ok low =>
        rw [first] at found
        obtain ⟨-, rfl⟩ := checkedMul_eq_ok.1 first
        by_contra large
        have full := checkedAdd_eq_error.2 ⟨Nat.le_of_not_lt large, rfl⟩
        exact nomatch full.symm.trans found
    exact ⟨fits, Except.ok.inj (found.symm.trans (Warp.hwLane_of_lt fits))⟩
  · rintro ⟨fits, rfl⟩
    exact Warp.hwLane_of_lt fits

/-- All threads of the block stand on live frames. -/
def Block.Upright (block : Block) : Prop :=
  ∀ tid < block.layout.size, ∃ top,
    (block.state.thread tid).top = some top ∧ block.state.arena.isLive top = true

theorem Block.upright_twoLanes : Block.twoLanes.Upright := by
  intro tid inside
  have bound : tid < 2 := inside
  obtain rfl | rfl : tid = 0 ∨ tid = 1 := by omega
  · exact ⟨BlockState.homeId 0, by decide +kernel⟩
  · exact ⟨BlockState.homeId 1, by decide +kernel⟩

namespace Convergent

variable {construct : Construct} {warp : Warp} {mask : LaneMask} {entry : Entry} {block : Block}

/-! ## Entries -/

/-- The hardware lanes of the activity mask, in ascending order. -/
def numbers (warp : Warp) (mask : LaneMask) : List Nat := (activity warp mask).lanes.map warp.number

/-- **Why an entry is refused**: the jobs do not cover the warp, the block lacks the full runtime,
no lane is left to be a source, or a lane of the mask lies outside the block. -/
def refusal (warp : Warp) (mask : LaneMask) (entry : Entry) : Option DispatchError :=
  if entry.jobs.size < warp.width then some (.laneOutOfRange entry.jobs.size warp.width)
  else if entry.block.initialized = false then some .runtimeUninitialized
  else if sources warp mask entry.cursor = [] then
    some (.noRemainingLanes (activity warp mask) entry.cursor)
  else ((numbers warp mask).find? (entry.block.layout.size ≤ ·)).map
    (.laneOutOfRange · entry.block.layout.size)

/-- That the source is not in the mask is never the reason. -/
theorem refusal_ne_sourceLaneInactive (lane : Nat) :
    refusal warp mask entry ≠ some (.sourceLaneInactive lane) := by
  unfold refusal
  split
  · nofun
  split
  · nofun
  split
  · nofun
  · simp

/-- **Publishing hints** reaches the end only where all lanes lie in the block, and is refused by
the lowest one outside. -/
theorem ends_seats_number (lanes : List Nat) :
    Ends (seats construct warp lanes) block
      (fun _ _ => ∀ lane ∈ lanes, warp.number lane < UInt32.size ∧
        block.Owns (warp.number lane) (warp.owner block.layout lane))
      fun failure _ =>
        (∃ number, (lanes.map warp.number).find? (block.layout.size ≤ ·) = some number ∧
          failure = .rejected (.laneOutOfRange number block.layout.size)) ∨
        (∃ fault, failure = .halted fault) ∧
          ((∃ lane ∈ lanes, UInt32.size ≤ warp.number lane) ∨ ¬block.layout.MapsLanes) := by
  induction lanes with
  | nil => exact fun _ none => absurd none List.not_mem_nil
  | cons lane lanes ih =>
    rw [seats, ends_bind, seat, ends_bind, ends_checked]
    simp only [Warp.hwLane_eq_ok]
    refine ⟨?_, fun fault overflows => .inr ⟨⟨fault, rfl⟩, .inl ⟨lane, List.mem_cons_self, ?_⟩⟩⟩
    · rintro _ ⟨fits, rfl⟩
      rw [ends_bind]
      refine (Block.ends_threadOf (warp.number lane)).mono ?_ ?_
      · rintro tid _ ⟨rfl, owns⟩
        rw [ends_bind, ends_get, ends_pure, ends_bind]
        obtain rfl : tid = warp.owner _ lane := owns.eq_owner owns.maps
        refine ih.mono (fun _ _ others => ?_) fun failure _ stopped => ?_
        · exact List.forall_mem_cons.2 ⟨⟨fits, owns⟩, others⟩
        · rcases stopped with ⟨number, first, rfl⟩ | ⟨halted, ⟨other, member, large⟩ | unmapped⟩
          · refine .inl ⟨number, ?_, rfl⟩
            rwa [List.map_cons, List.find?_cons_of_neg (by simpa using owns.inside)]
          · exact .inr ⟨halted, .inl ⟨other, List.mem_cons_of_mem lane member, large⟩⟩
          · exact .inr ⟨halted, .inr unmapped⟩
      · rintro failure _ ⟨rfl, ⟨rfl, outside⟩ | ⟨halted, unmapped⟩⟩
        · exact .inl ⟨warp.number lane, List.find?_cons_of_pos (by simpa using outside), rfl⟩
        · exact .inr ⟨halted, .inr unmapped⟩
    · by_contra small
      rw [Warp.hwLane_eq_ok.2 ⟨Nat.lt_of_not_le small, rfl⟩] at overflows
      cases overflows

/-- What can halt an entry: a lane number that does not fit its word, a device without lanes, or a
full counter once there is no reason to refuse. -/
def Halts (warp : Warp) (mask : LaneMask) (entry : Entry) : Prop :=
  (∃ number ∈ numbers warp mask, UInt32.size ≤ number) ∨ ¬entry.block.layout.MapsLanes ∨
    refusal warp mask entry = none ∧ UInt32.size ≤ entry.block.counters.convergentTeams + 1

/-- The lanes of the mask lie in the block. -/
def Inside (warp : Warp) (mask : LaneMask) (block : Block) : Prop :=
  ∀ lane ∈ (activity warp mask).lanes, warp.number lane < UInt32.size ∧
    block.Owns (warp.number lane) (warp.owner block.layout lane)

theorem refusal_of_inside (covered : warp.width ≤ entry.jobs.size)
    (initialized : entry.block.initialized = true) (left : sources warp mask entry.cursor ≠ [])
    (inside : Inside warp mask entry.block) : refusal warp mask entry = none := by
  rw [refusal, if_neg (Nat.not_lt.2 covered), if_neg (by simp [initialized]), if_neg left,
    Option.map_eq_none_iff, List.find?_eq_none]
  intro number member
  obtain ⟨lane, among, rfl⟩ := List.mem_map.1 member
  simpa using (inside lane among).2.inside

/-- **Forming a team** is refused before anything is written. -/
theorem ends_formTeam_refusal (covered : warp.width ≤ entry.jobs.size)
    (initialized : entry.block.initialized = true) :
    Ends (formTeam construct warp mask) entry
      (fun _ _ => refusal warp mask entry = none ∧ Inside warp mask entry.block)
      fun failure after =>
        (∃ error, failure = .rejected error ∧ refusal warp mask entry = some error ∧
          after = entry) ∨
        (∃ fault, failure = .halted fault) ∧ Halts warp mask entry := by
  have listed : ((activity warp mask).remainingFrom entry.cursor).lanes =
      sources warp mask entry.cursor := LaneMask.lanes_remainingFrom _ _
  have named : mask.inter (LaneMask.full warp.width) = activity warp mask := rfl
  have checked : refusal warp mask entry = if sources warp mask entry.cursor = [] then
      some (.noRemainingLanes (activity warp mask) entry.cursor)
    else ((numbers warp mask).find? (entry.block.layout.size ≤ ·)).map
      (.laneOutOfRange · entry.block.layout.size) := by
    rw [refusal, if_neg (Nat.not_lt.2 covered), if_neg (by simp [initialized])]
  rw [formTeam, ends_bind, ends_get, ends_bind, ends_refuseIf]
  refine ⟨fun bare => ?_, fun _ => ?_⟩
  · rw [initialized] at bare
    cases bare
  simp only [named, LaneMask.lowestFrom_zero, listed]
  cases left : sources warp mask entry.cursor with
  | nil =>
    rw [if_pos left] at checked
    exact .inl ⟨_, rfl, checked, rfl⟩
  | cons source rest =>
    have some : sources warp mask entry.cursor ≠ [] := left ▸ List.cons_ne_nil _ _
    have among : source ∈ sources warp mask entry.cursor := left ▸ List.mem_cons_self
    have member : source ∈ (activity warp mask).lanes := List.mem_of_mem_filter among
    rw [if_neg some] at checked
    simp only [List.head?_cons]
    rw [ends_bind, onBlock, ends_zoom]
    have published : Ends (seats construct warp (activity warp mask).lanes) entry.block _ _ :=
      (ends_seats _).and (ends_seats_number _)
    refine published.mono ?_ ?_
    · rintro seats _ ⟨⟨⟨inOrder, -⟩, rfl⟩, inside⟩
      have free := refusal_of_inside covered initialized some inside
      cases found : seats.find? (decide <| ·.lane = source) with
      | none =>
        -- the source is one of the lanes that published their hints
        rw [← inOrder] at member
        obtain ⟨seat, among, itself⟩ := List.mem_map.1 member
        exact absurd itself (by simpa using List.find?_eq_none.1 found seat among)
      | some origin =>
        simp only [ends_bind, onBlock, ends_zoom, Block.onState, ends_modify, Block.tally, ends_get,
          ends_checked, ends_pure]
        refine ⟨fun counters _ => ⟨free, inside⟩, fun fault full => .inr ⟨⟨fault, rfl⟩, ?_⟩⟩
        exact .inr (.inr ⟨free, (map_checkedAdd_eq_error.1 full).1⟩)
    · rintro failure _ ⟨rfl, ⟨number, first, rfl⟩ | ⟨halted, large | unmapped⟩⟩
      · have reason : (numbers warp mask).find? (entry.block.layout.size ≤ ·) = _ := first
        rw [reason] at checked
        exact .inl ⟨_, rfl, checked, rfl⟩
      · obtain ⟨lane, among, large⟩ := large
        exact .inr ⟨halted, .inl ⟨_, List.mem_map_of_mem among, large⟩⟩
      · exact .inr ⟨halted, .inr (.inl unmapped)⟩

/-- The seats of a formed team are those of its lanes. -/
theorem Formed.seat_eq {formation : Formation} {after : Entry} {seat : Seat}
    (formed : Formed construct warp mask entry formation after)
    (inside : Inside warp mask entry.block) (member : seat ∈ formation.seats) :
    seat = seatFor construct warp.number (warp.owner entry.block.layout) entry.block.outline
      seat.lane := by
  have among : seat.lane ∈ (activity warp mask).lanes := formed.named ▸ List.mem_map_of_mem member
  have published := formed.published seat member
  obtain ⟨-, number⟩ := Warp.hwLane_eq_ok.1 published.hwLane
  have owner := published.thread
  rw [number, (inside seat.lane among).2.owner, Except.ok.injEq] at owner
  have hint := published.hint
  rw [← owner] at hint
  obtain ⟨lane, hwLane, thread, held⟩ := seat
  obtain rfl : hwLane = warp.number lane := number
  obtain rfl : warp.owner entry.block.layout lane = thread := owner
  obtain rfl : held = construct.hint
    (entry.block.state.thread (warp.owner entry.block.layout lane)) := hint
  rfl

/-- One seat for each lane of the mask, in order. -/
theorem Formed.seats_eq {formation : Formation} {after : Entry}
    (formed : Formed construct warp mask entry formation after)
    (inside : Inside warp mask entry.block) :
    formation.seats = (activity warp mask).lanes.map
      (seatFor construct warp.number (warp.owner entry.block.layout) entry.block.outline) := by
  rw [← formed.named, List.map_map]
  exact (List.map_id _).symm.trans
    (List.map_congr_left fun seat member => formed.seat_eq inside member)

/-- They belong to threads of the block. -/
theorem Formed.thread_lt {formation : Formation} {after : Entry} {seat : Seat}
    (formed : Formed construct warp mask entry formation after)
    (inside : Inside warp mask entry.block) (member : seat ∈ formation.seats) :
    seat.thread < entry.block.layout.size := by
  have among : seat.lane ∈ (activity warp mask).lanes := formed.named ▸ List.mem_map_of_mem member
  rw [formed.seat_eq inside member]
  exact BlockLayout.owner_lt (inside seat.lane among).2.inside

/-- **Once a team is formed**, its lanes take their seats without a stop. -/
theorem ends_seating_of_formed {formation : Formation} {mid : Entry}
    (covered : warp.width ≤ entry.jobs.size) (standing : entry.block.Upright)
    (inside : Inside warp mask entry.block)
    (formed : Formed construct warp mask entry formation mid) :
    Ends (do
        let join ← joiner construct formation
        takeSeats warp.width join (formation.seats.zip formation.team.members)
        return formation.team)
      mid (fun _ _ => True) fun _ _ => False := by
  obtain ⟨counters, left⟩ := formed.block
  have tops (tid : Nat) :
      (mid.block.state.thread tid).top = (entry.block.state.thread tid).top := by
    rw [left, BlockState.top_modifyThread fun _ => Construct.top_withHint]
  have arena : mid.block.state.arena = entry.block.state.arena := by rw [left]; rfl
  obtain ⟨origin, among, -, itself, -⟩ := formed.origin
  obtain ⟨top, stands, live⟩ := standing _ (formed.thread_lt inside among)
  obtain ⟨frame, stored⟩ := FrameArena.isLive_iff.1 live
  obtain ⟨join, joined, joins⟩ := joiner_eq_ok_joinsBy construct formation
    ((tops _).trans (itself ▸ stands)) (arena ▸ stored)
  have seat (pair : Seat × Member) (member : pair ∈ formation.seats.zip formation.team.members) :
      pair.1 ∈ formation.seats := (List.of_mem_zip member).1
  have covers (pair : Seat × Member)
      (member : pair ∈ formation.seats.zip formation.team.members) :
      pair.1.lane < mid.jobs.size := by
    have among : pair.1.lane ∈ (activity warp mask).lanes :=
      formed.named ▸ List.mem_map_of_mem (seat pair member)
    rw [formed.jobs]
    exact Nat.lt_of_lt_of_le (lt_width_of_mem among) covered
  have stand (pair : Seat × Member)
      (member : pair ∈ formation.seats.zip formation.team.members) :
      ((mid.block.state.thread pair.1.thread).top).isSome := by
    obtain ⟨top, stands, -⟩ := standing _ (formed.thread_lt inside (seat pair member))
    rw [tops, stands, Option.isSome_some]
  obtain ⟨jobs, run⟩ := takeSeats_eq_foldl joins warp.width _ covers stand
  rw [ends_bind, ends_of_ok joined, ends_bind, ends_of_ok run, ends_pure]
  trivial

/-- **Every end of an entry** on threads that stand on live frames. -/
theorem ends_enter_refusal (standing : entry.block.initialized = true → entry.block.Upright) :
    Ends (enter construct warp mask) entry (fun _ _ => refusal warp mask entry = none)
      fun failure after =>
        (∃ error, failure = .rejected error ∧ refusal warp mask entry = some error ∧
          after = entry) ∨
        (∃ fault, failure = .halted fault) ∧ Halts warp mask entry := by
  rw [enter, ends_bind, ends_get, ends_bind, ends_refuseIf]
  refine ⟨fun short => .inl ⟨_, rfl, if_pos short, rfl⟩, fun enough => ?_⟩
  have covered := Nat.le_of_not_lt enough
  cases initialized : entry.block.initialized with
  | false =>
    have bare : refusal warp mask entry = some .runtimeUninitialized := by
      rw [refusal, if_neg enough, if_pos initialized]
    rw [ends_bind, formTeam, ends_bind, ends_get, ends_bind, ends_refuseIf]
    exact ⟨fun _ => .inl ⟨_, rfl, bare, rfl⟩, fun full => absurd (by simp [initialized]) full⟩
  | true =>
    have forms : Ends (formTeam construct warp mask) entry _ _ :=
      (effect_formTeam initialized).and (ends_formTeam_refusal covered initialized)
    rw [ends_bind]
    refine forms.mono ?_ fun _ _ stopped => stopped.2
    rintro formation mid ⟨formed, free, inside⟩
    exact (ends_seating_of_formed covered (standing initialized) inside formed).mono
      (fun _ _ _ => free) fun _ _ => False.elim

/-- **A refused entry changes nothing**, on a block without the full runtime as well as on one whose
threads all stand on live frames, for every warp, mask and cursor and any number of jobs. Where the
hardware lanes fit their words, an entry is refused exactly if there is a reason, and for the first
one; otherwise it returns, unless the teams are too many to be counted. -/
theorem enter_refusal (construct : Construct) (warp : Warp) (mask : LaneMask)
    (standing : entry.block.initialized = true → entry.block.Upright) :
    (∀ error after, enter construct warp mask entry = .error (.rejected error) after →
      after = entry ∧ refusal warp mask entry = some error ∧
        ∀ lane, error ≠ .sourceLaneInactive lane) ∧
    ((∀ number ∈ numbers warp mask, number < UInt32.size) → entry.block.layout.MapsLanes →
      (∀ error, refusal warp mask entry = some error →
        enter construct warp mask entry = .error (.rejected error) entry) ∧
      (refusal warp mask entry = none → entry.block.counters.convergentTeams + 1 < UInt32.size →
        ∃ team after, enter construct warp mask entry = .ok team after)) := by
  have ends : Ends (enter construct warp mask) entry _ _ := ends_enter_refusal standing
  rcases run : enter construct warp mask entry with ⟨team, after⟩ | ⟨failure, after⟩
  · rw [ends_of_ok run] at ends
    refine ⟨fun _ _ stopped => (nomatch stopped), fun _ _ =>
      ⟨fun error reason => ?_, fun _ _ => ⟨team, after, rfl⟩⟩⟩
    rw [ends] at reason
    cases reason
  · rw [ends_of_error run] at ends
    rcases ends with ⟨error, rfl, reason, rfl⟩ | ⟨⟨fault, rfl⟩, halts⟩
    · refine ⟨?_, fun _ _ => ⟨fun error' reason' => ?_, fun none => ?_⟩⟩
      · rintro _ _ ⟨⟩
        exact ⟨rfl, reason, fun lane same =>
          refusal_ne_sourceLaneInactive lane (reason.trans (congrArg some same))⟩
      · rw [reason, Option.some.injEq] at reason'
        rw [reason']
      · rw [reason] at none
        cases none
    · -- what halts an entry is excluded where a reason, or the absence of one, is to decide
      refine ⟨fun _ _ stopped => (nomatch stopped), fun fit maps => ?_⟩
      rcases halts with ⟨number, member, large⟩ | unmapped | ⟨free, full⟩
      · exact absurd (fit number member) (Nat.not_lt.2 large)
      · exact absurd maps unmapped
      · refine ⟨fun error reason => ?_, fun _ room => absurd full (Nat.not_le.2 room)⟩
        rw [free] at reason
        cases reason

/-- Two lanes and a mask of three: the third lane lies outside the block. -/
theorem enter_refusal_twoLanes :
    enter .simd ⟨0, 32⟩ ⟨7⟩ ⟨.twoLanes, 0, Array.replicate 32 {}⟩ =
      .error (.rejected (.laneOutOfRange 2 2)) ⟨.twoLanes, 0, Array.replicate 32 {}⟩ := by
  have standing : Block.twoLanes.initialized = true → Block.twoLanes.Upright :=
    fun _ => Block.upright_twoLanes
  have fit : ∀ number ∈ numbers ⟨0, 32⟩ ⟨7⟩, number < UInt32.size := by decide +kernel
  have reason : refusal ⟨0, 32⟩ ⟨7⟩ ⟨.twoLanes, 0, Array.replicate 32 {}⟩ =
      some (.laneOutOfRange 2 2) := by
    decide +kernel
  have spmd : Block.twoLanes.layout.MapsLanes := nofun
  exact ((enter_refusal .simd ⟨0, 32⟩ ⟨7⟩ standing).2 fit spmd).1 _ reason

/-! ## Exits -/

/-- **A stopped exit** found no thread for the lane, or no top in its job. It changes nothing,
except that a simd exit without a top leaves the hint of its job behind. -/
theorem ends_exit_refused (construct : Construct) (hwLane : Nat) (job : Job) (block : Block) :
    Ends (exit construct hwLane job) block (fun _ _ => ∃ saved, job.savedTop = some saved)
      fun failure after =>
        after = block ∧
          (failure = .rejected (.laneOutOfRange hwLane block.layout.size) ∧
              block.layout.size ≤ hwLane ∨
            (∃ fault, failure = .halted fault) ∧ ¬block.layout.MapsLanes) ∨
        ∃ tid, block.Owns hwLane tid ∧ job.savedTop = none ∧
          failure = .rejected (.stackUnderflow tid) ∧
          after = match construct with
            | .simd => { block with
                state := block.state.modifyThread tid (Construct.simd.withHint job.hint) }
            | .parallel => block := by
  refine (Block.ends_exit construct job).mono ?_ ?_
  · rintro _ _ ⟨-, saved, -, holds, -⟩
    exact ⟨saved, holds⟩
  · rintro failure after (stopped | ⟨tid, owns, none, refused, left⟩)
    · exact .inl stopped
    · refine .inr ⟨tid, owns, none, refused, left.trans ?_⟩
      cases construct <;> rfl

/-- Two SPMD lanes, of which the second hints at one lane and is the source. -/
def narrowEntry : Entry where
  block := { Block.twoLanes with
    state := Block.twoLanes.state.modifyThread 1 (Construct.simd.withHint 1) }
  cursor := 1
  jobs := Array.replicate 32 {}

/-- **A refused exit that leaves a hint behind.** The second lane is the source of a team of one,
and that one is the first lane. Its own exit is refused, yet the hint that the team used up is back.
-/
theorem not_exit_refused_unchanged :
    ¬∀ (construct : Construct) (warp : Warp) (mask : LaneMask) (entry after : Entry) (team : Team)
        (member : Member) (error : DispatchError) (final : Block),
      enter construct warp mask entry = .ok team after → member ∈ team.members →
      exit construct member.hwLane (after.jobs.getD member.lane {}) after.block =
        .error (.rejected error) final →
      ∀ (kind : Construct) (tid : Nat),
        kind.hint (final.state.thread tid) = kind.hint (after.block.state.thread tid) := by
  intro unchanged
  have changed :
      (match enter .simd ⟨0, 32⟩ ⟨3⟩ narrowEntry with
      | .ok team after => decide (⟨1, 1, 1, false⟩ ∈ team.members) &&
        match exit .simd 1 (after.jobs.getD 1 {}) after.block with
        | .error (.rejected _) final =>
          (after.block.state.thread 1).pendingSimd == 0 && (final.state.thread 1).pendingSimd == 1
        | _ => false
      | .error _ _ => false) = true := by
    decide +kernel
  rcases entered : enter .simd ⟨0, 32⟩ ⟨3⟩ narrowEntry with ⟨team, after⟩ | ⟨failure, after⟩
  · rw [entered] at changed
    rcases left : exit .simd 1 (after.jobs.getD 1 {}) after.block with
      ⟨⟨⟩, final⟩ | ⟨error | fault, final⟩
    all_goals simp only [left, Bool.and_eq_true, decide_eq_true_eq, beq_iff_eq,
      Bool.false_eq_true, and_false] at changed
    obtain ⟨member, spent, back⟩ := changed
    have same := unchanged .simd _ _ _ _ _ _ _ _ entered member left .simd 1
    rw [Construct.hint, Construct.hint, spent, back] at same
    cases same
  · rw [entered] at changed
    cases changed

end Convergent

end RegionDispatch
