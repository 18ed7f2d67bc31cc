import RegionDispatch.Proofs.Block.Reachable
import RegionDispatch.Proofs.Block.Solvent
import RegionDispatch.Proofs.Convergent.Session
import RegionDispatch.Proofs.Convergent.Sources

/-! # What a serialized region is paid with

A lane in a convergent region may stand on a frame that is not its own, so the serialized region it
leaves need not be one that it entered. What holds over all runs is that every exit takes a loop
state that some entry has parked, and that it releases none of the frames that stay. Without
convergent regions every thread leaves only what it has entered.

* **`Convergent.Solvent`** — a session with the frames that hold parked loop state.
  `Convergent.Session.Effect.solvent` says what a move pays.
* **`Convergent.Quiet`** — a session that no group has entered a convergent region in, with its
  stacks. `Convergent.Session.Effect.quiet` says what a move makes of them.
* `Convergent.ends_le_begins` — what both say of whole runs. -/

namespace RegionDispatch

open Dispatch
open BlockState (baseId homeId)

namespace Convergent

variable {ids : Finset FrameId} {layout : BlockLayout} {seated : Nat → Prop} {entry : Entry}
  {construct : Construct} {warp : Warp} {mask : LaneMask} {s : Session}

/-! ## Convergent regions -/

/-- A lane with this job releases no frame that stays when it leaves. -/
def Harmless (layout : BlockLayout) (job : Job) : Prop :=
  ∀ id, job.pushed = some id → layout.Loose id

/-- A solvent block in an entry in which the jobs of the lanes that are seated are harmless. -/
structure Ready (ids : Finset FrameId) (layout : BlockLayout) (seated : Nat → Prop)
    (entry : Entry) : Prop where
  shape : entry.block.layout = layout
  solvent : Block.Solvent ids entry.block
  harmless : ∀ lane, seated lane → Harmless layout (entry.jobOf lane)

namespace Ready

theorem withJob (h : Ready ids layout seated entry) (lane : Nat) {f : Job → Job}
    (harmless : ∀ job, Harmless layout job → Harmless layout (f job)) :
    Ready ids layout seated (entry.withJob lane f) := by
  refine ⟨h.shape, h.solvent, fun other member => ?_⟩
  rw [jobOf_withJob]
  split
  · exact harmless _ (h.harmless other member)
  · exact h.harmless other member

/-- The frame that is stored next is none that stays. -/
theorem loose_nextId (h : Ready ids layout seated entry) :
    layout.Loose entry.block.state.arena.nextId :=
  h.shape ▸ h.solvent.anchored.loose_of_dead h.solvent.anchored.sound.get?_nextId

theorem keeps_joinSimd (top : FrameId) (seat : Seat) :
    Keeps (Ready ids layout seated) (joinSimd top seat) := fun _ h =>
  ⟨h.shape, { h.solvent with anchored := h.solvent.anchored.setTop _ _ }, h.harmless⟩

theorem keeps_joinParallel (top : FrameId) (frame : Frame) (size : Nat) (seat : Seat)
    (member : Member) :
    Keeps (Ready ids layout seated) (joinParallel top frame size seat member) := by
  intro entry h
  have solvent := h.solvent
  have named := h.withJob seat.lane (f := ({ · with
    pushed := some (entry.block.state.push seat.thread
      (frame.convergent top member.rank size)).1 })) fun job _ id same => by
        rw [← Option.some.inj same, BlockState.push_fst]
        exact h.loose_nextId
  exact ⟨h.shape, { solvent with
    anchored := solvent.anchored.push _ _
    parked := solvent.parked.alloc solvent.anchored.sound rfl }, named.harmless⟩

theorem ends_joiner (formation : Formation) :
    Ends (joiner construct formation) entry
      (fun join after => after = entry ∧
        ∀ ids layout seated seat member, Keeps (Ready ids layout seated) (join seat member))
      fun _ after => after = entry := by
  rw [joiner, ends_bind, ends_get, ends_bind, ends_granted]
  refine ⟨fun top _ => ?_, fun _ _ => rfl⟩
  cases construct with
  | simd => exact ⟨rfl, fun _ _ _ seat _ => keeps_joinSimd top seat⟩
  | parallel =>
    rw [ends_bind, ends_granted]
    refine ⟨fun frame _ => ⟨rfl, ?_⟩, fun _ _ => rfl⟩
    exact fun _ _ _ seat member => keeps_joinParallel top frame _ seat member

variable {join : Seat → Member → Dispatch Entry Unit}

/-- A lane that takes its seat has a job of its own. -/
theorem ends_takeSeat (h : Ready ids layout seated entry) (limit : Nat) (seat : Seat)
    (member : Member)
    (joins : ∀ seated seat member, Keeps (Ready ids layout seated) (join seat member)) :
    Ends (takeSeat limit join seat member) entry
      (fun _ after => Ready ids layout (fun lane => lane = seat.lane ∨ seated lane) after)
      fun _ after => Ready ids layout seated after := by
  have weaken (after : Entry)
      (more : Ready ids layout (fun lane => lane = seat.lane ∨ seated lane) after) :
      Ready ids layout seated after :=
    ⟨more.shape, more.solvent, fun lane member => more.harmless lane (.inr member)⟩
  rw [takeSeat, ends_bind, ends_get, ends_bind, ends_refuseIf]
  refine ⟨fun _ => h, fun covered => ?_⟩
  have fresh : Ready ids layout (fun lane => lane = seat.lane ∨ seated lane)
      (entry.withJob seat.lane fun _ => { hint := seat.hint }) := by
    have blank : Harmless layout { hint := seat.hint } := by
      intro id absent
      cases absent
    refine ⟨h.shape, h.solvent, fun lane member => ?_⟩
    rw [jobOf_withJob]
    split
    · exact blank
    · next other =>
      refine h.harmless lane (member.resolve_left fun same => other ?_)
      exact ⟨same.symm, Nat.lt_of_not_le covered⟩
  rw [ends_bind, ends_of_ok (modifyJob_eq_ok _ _ _)]
  split
  · simp only [ends_bind, ends_get, ends_granted]
    refine ⟨fun saved _ => ?_, fun _ _ => weaken _ fresh⟩
    rw [ends_of_ok (modifyJob_eq_ok _ _ _)]
    exact (joins _ seat member _ (fresh.withJob seat.lane (f := ({ · with savedTop := some saved }))
      fun _ harmless => harmless)).mono (fun _ _ done => done) fun _ => weaken
  · exact fresh

theorem ends_takeSeats (limit : Nat)
    (joins : ∀ seated seat member, Keeps (Ready ids layout seated) (join seat member))
    (pairs : List (Seat × Member)) :
    ∀ {seated : Nat → Prop} {entry : Entry}, Ready ids layout seated entry →
      Ends (takeSeats limit join pairs) entry
        (fun _ after => Ready ids layout
          (fun lane => (∃ pair ∈ pairs, pair.1.lane = lane) ∨ seated lane) after)
        fun _ after => Block.Solvent ids after.block ∧ after.block.layout = layout := by
  -- by induction on the seats left; the lanes that are seated have harmless jobs all along
  induction pairs with
  | nil =>
    intro seated entry h
    refine ⟨h.shape, h.solvent, fun lane member => h.harmless lane (member.resolve_left ?_)⟩
    rintro ⟨pair, none, -⟩
    exact absurd none List.not_mem_nil
  | cons pair pairs ih =>
    intro seated entry h
    obtain ⟨seat, member⟩ := pair
    rw [takeSeats, ends_bind]
    refine (h.ends_takeSeat limit seat member joins).mono ?_ fun _ _ stopped =>
      ⟨stopped.solvent, stopped.shape⟩
    intro _ mid ready
    refine (ih ready).mono (fun _ after done => ⟨done.shape, done.solvent, ?_⟩)
      fun _ _ stopped => stopped
    rintro lane (⟨pair, among, same⟩ | earlier)
    · rcases List.mem_cons.1 among with rfl | among
      · exact done.harmless lane (.inr (.inl same.symm))
      · exact done.harmless lane (.inl ⟨pair, among, same⟩)
    · exact done.harmless lane (.inr (.inr earlier))

end Ready

/-- **Entering** parks nothing, and what it stores for each lane of a team is a frame of its own. -/
theorem ends_arrive_solvent (solvent : Block.Solvent ids entry.block) :
    Ends (arrive construct warp mask) entry
      (fun stays after => Block.Solvent ids after.block ∧
        after.block.layout = entry.block.layout ∧
        ∀ stay ∈ stays, Harmless entry.block.layout stay.job)
      fun _ after => Block.Solvent ids after.block ∧
        after.block.layout = entry.block.layout := by
  rw [arrive, ends_bind, enter, ends_bind, ends_get, ends_bind, ends_refuseIf]
  refine ⟨fun _ => ⟨solvent, rfl⟩, fun _ => ?_⟩
  rw [ends_bind]
  refine (effect_formTeam solvent.runtime).mono ?_ ?_
  · intro formation formed forms
    obtain ⟨counters, block⟩ := forms.block
    have ready : Ready ids entry.block.layout (fun _ => False) formed := by
      refine ⟨?_, ?_, fun _ nobody => nobody.elim⟩ <;> rw [block]
      exact solvent.withHint construct _ 0 counters
    have zipped : formation.seats.zip formation.team.members = formation.seats.map fun seat =>
        (seat, seat.member (activity warp mask) formation.team.size) := by
      rw [forms.members, ← List.zip_map', List.map_id']
    rw [ends_bind]
    refine (Ready.ends_joiner formation).mono ?_ ?_
    · rintro join _ ⟨rfl, joins⟩
      rw [ends_bind]
      refine (Ready.ends_takeSeats warp.width (joins _ _) _ ready).mono ?_ fun _ _ => id
      intro _ after ready
      refine ⟨ready.solvent, ready.shape, ?_⟩
      -- every member of the team has taken the seat of its lane
      intro stay among
      obtain ⟨member, active, rfl⟩ := List.mem_map.1 among
      have enrolled := List.mem_of_mem_filter active
      rw [forms.members] at enrolled
      obtain ⟨seat, seats, rfl⟩ := List.mem_map.1 enrolled
      have paired : (seat, seat.member (activity warp mask) formation.team.size) ∈
          formation.seats.zip formation.team.members := by
        rw [zipped]
        exact List.mem_map_of_mem seats
      exact ready.harmless _ (.inl ⟨_, paired, rfl⟩)
    · rintro _ _ rfl
      exact ⟨ready.solvent, ready.shape⟩
  · rintro _ after ⟨-, same | ⟨tid, same⟩, -⟩ <;> rw [same]
    · exact ⟨solvent, rfl⟩
    · exact ⟨solvent.withHint construct tid 0 entry.block.counters, rfl⟩

/-! ## Who enters and leaves -/

namespace Move

/-- Whether a move enters a serialized region. -/
def isBegin : Move → Bool
  | call op => op.isBegin
  | nested _ => true
  | _ => false

/-- Whether a move leaves a serialized region. -/
def isEnd : Move → Bool
  | call op => op.isEnd
  | _ => false

/-- Whether a group enters a convergent region. -/
def isEntry : Move → Bool
  | enter .. => true
  | _ => false

/-- The thread that enters or leaves a serialized region. -/
def caller? (layout : BlockLayout) : Move → Option Nat
  | call op => op.caller? layout
  | nested lane => (layout.threadOf lane).toOption
  | _ => none

end Move

namespace Event

/-- A serialized region is entered. -/
def begins (event : Event) : Bool := event.move.isBegin && event.result.isOk

/-- A serialized region is left. -/
def ends (event : Event) : Bool := event.move.isEnd && event.result.isOk

/-- The thread that enters or leaves a serialized region. -/
def caller? (event : Event) : Option Nat := event.move.caller? event.before.block.layout

/-- Whether an event is one of a thread that enters or leaves. -/
def isBy (tid : Nat) (kind : Event → Bool) (event : Event) : Bool :=
  kind event && decide (event.caller? = some tid)

/-- A frame that was stored is so no longer. -/
def Releases (event : Event) (id : FrameId) : Prop :=
  event.before.block.state.arena.isLive id = true ∧ event.after.block.state.arena.isLive id = false

end Event

/-! ## The balance of a run -/

/-- A session of a block of this layout in which only the frames of `ids` hold parked loop state,
and whose lanes in convergent regions have harmless jobs. -/
structure Solvent (layout : BlockLayout) (ids : Finset FrameId) (s : Session) : Prop where
  shape : s.block.layout = layout
  block : Block.Solvent ids s.block
  stays : ∀ stay ∈ s.stays, Harmless layout stay.job

variable {move : Move} {returned : Bool} {t : Session}

/-- **What a move pays.** Leaving a serialized region takes from what is parked, and only entering
one adds to it. -/
theorem Session.Effect.solvent (effect : s.Effect move returned t) (h : Solvent layout ids s) :
    ∃ left, Solvent layout left t ∧
      (move.isEnd && returned).toNat + left.card ≤ (move.isBegin && returned).toNat + ids.card := by
  obtain ⟨rfl, solvent, stays⟩ := h
  have unpaid (after : Session) (kept : Solvent s.block.layout ids after)
      (paid : (move.isEnd && returned) = false) :
      ∃ left, Solvent s.block.layout left after ∧
        (move.isEnd && returned).toNat + left.card ≤ (move.isBegin && returned).toNat + ids.card :=
    ⟨ids, kept, by rw [paid]; exact Nat.add_le_add_right (Nat.zero_le _) _⟩
  have others (index : Nat) : ∀ stay ∈ s.stays.eraseIdx index, Harmless s.block.layout stay.job :=
    fun stay among => stays stay (List.mem_of_mem_eraseIdx among)
  cases effect with
  | refused => exact unpaid _ ⟨rfl, solvent, stays⟩ (Bool.and_false _)
  | called effect =>
    obtain ⟨left, solvent', balance⟩ := effect.solvent solvent
    exact ⟨left, ⟨effect.layout, solvent', stays⟩, balance⟩
  | @begun lane tid returned after owns effect =>
    -- what it begins pays as any other serialized region
    obtain ⟨left, solvent', balance⟩ :=
      effect.solvent (solvent.withHint .parallel tid 0 s.block.counters)
    exact ⟨left, ⟨effect.layout, solvent', stays⟩, balance⟩
  | @entered construct warp mask cursor jobs arrived entry arrives =>
    have before : Block.Solvent ids (⟨s.block, cursor, jobs⟩ : Entry).block := solvent
    obtain ⟨solvent', shape, harmless⟩ := (ends_of_ok arrives).1 (ends_arrive_solvent before)
    refine unpaid _ ⟨shape, solvent', fun stay among => ?_⟩ rfl
    exact (List.mem_append.1 among).elim (stays stay) (harmless stay)
  | @stopped construct warp mask cursor jobs failure entry arrives =>
    have before : Block.Solvent ids (⟨s.block, cursor, jobs⟩ : Entry).block := solvent
    obtain ⟨solvent', shape⟩ := (ends_of_error arrives).1 (ends_arrive_solvent before)
    exact unpaid _ ⟨shape, solvent', stays⟩ rfl
  | nobody => exact unpaid _ ⟨rfl, solvent, stays⟩ rfl
  | @left index tid stay saved found owns =>
    have harmless := stays stay (List.mem_of_getElem? found)
    exact unpaid _ ⟨rfl, solvent.vacate tid saved stay.construct harmless, others index⟩ rfl
  | @hinted index tid stay found owns =>
    have returned := solvent.withHint stay.construct tid stay.job.hint s.block.counters
    exact unpaid _ ⟨rfl, returned, others index⟩ rfl
  | lost => exact unpaid _ ⟨rfl, solvent, others _⟩ rfl
  | fenced => exact unpaid _ ⟨rfl, { solvent with }, stays⟩ rfl

/-- **One move** pays for itself. -/
theorem solvent_event (move : Move) (s : Session) (h : Solvent layout ids s) :
    ∃ left, Solvent layout left (move.event s).after ∧
      (move.event s).ends.toNat + left.card ≤ (move.event s).begins.toNat + ids.card := by
  obtain ⟨result, t, happens, effect⟩ := s.exists_effect h.block.runtime move
  rw [happens]
  exact effect.solvent h

/-- An exit from a solvent session releases no frame that stays, nor the first-level frame of the
thread that leaves. -/
theorem Solvent.of_releases (h : Solvent layout ids s) (exit : move.isEnd = true) {id : FrameId}
    (released : (move.event s).Releases id) :
    layout.Loose id ∧ ∀ tid, (move.event s).caller? = some tid → id ≠ homeId tid := by
  obtain ⟨rfl, solvent, -⟩ := h
  obtain ⟨result, t, happens, effect⟩ := s.exists_effect solvent.runtime move
  rw [happens] at released ⊢
  obtain ⟨live, dead⟩ := released
  generalize result.isOk = returned at effect
  cases effect with
  | called effect => exact effect.of_released exit solvent.anchored live dead
  | refused =>
    rw [live] at dead
    cases dead
  | _ => cases exit

/-! ## Without convergent regions -/

/-- A session of a block of this layout with these stacks, none of whose lanes is in a convergent
region. -/
structure Quiet (layout : BlockLayout) (stackOf : Nat → List FrameId) (s : Session) : Prop where
  shape : s.block.layout = layout
  stacked : Block.Stacked stackOf s.block
  stays : s.stays = []

variable {stackOf : Nat → List FrameId} {tid : Nat}

/-- **What a move outside convergent regions makes of the stacks.** -/
theorem Session.Effect.quiet (effect : s.Effect move returned t) (outside : move.isEntry = false)
    (h : Quiet layout stackOf s) :
    ∃ stackOf', Quiet layout stackOf' t ∧ ∀ tid,
      (move.isEnd && returned && decide (move.caller? s.block.layout = some tid)).toNat +
          Block.regionsOf stackOf' tid ≤
        (move.isBegin && returned && decide (move.caller? s.block.layout = some tid)).toNat +
          Block.regionsOf stackOf tid := by
  obtain ⟨rfl, stacked, stays⟩ := h
  have unpaid (after : Session) (kept : Quiet s.block.layout stackOf after)
      (paid : (move.isEnd && returned) = false) :
      ∃ stackOf', Quiet s.block.layout stackOf' after ∧ ∀ tid,
        (move.isEnd && returned && decide (move.caller? s.block.layout = some tid)).toNat +
            Block.regionsOf stackOf' tid ≤
          (move.isBegin && returned && decide (move.caller? s.block.layout = some tid)).toNat +
            Block.regionsOf stackOf tid := by
    refine ⟨stackOf, kept, fun tid => ?_⟩
    rw [paid, Bool.false_and]
    exact Nat.add_le_add_right (Nat.zero_le _) _
  cases effect with
  | refused => exact unpaid _ ⟨rfl, stacked, stays⟩ (Bool.and_false _)
  | called effect =>
    obtain ⟨shape, -, stackOf', stacked', balance⟩ := stacked.paid effect
    exact ⟨stackOf', ⟨shape, stacked', stays⟩, balance⟩
  | @begun lane tid returned after owns effect =>
    obtain ⟨shape, -, stackOf', stacked', balance⟩ := (stacked.takePendingThreads tid).paid effect
    exact ⟨stackOf', ⟨shape, stacked', stays⟩, balance⟩
  | entered | stopped => cases outside
  | nobody => exact unpaid _ ⟨rfl, stacked, stays⟩ rfl
  | left found | hinted found =>
    rw [stays] at found
    cases found
  | lost => exact unpaid _ ⟨rfl, stacked, by rw [stays]; rfl⟩ rfl
  | fenced => exact unpaid _ ⟨rfl, { stacked with }, stays⟩ rfl

/-- **One move** outside convergent regions: each thread pays for what it leaves. -/
theorem quiet_event (outside : move.isEntry = false) (h : Quiet layout stackOf s) :
    ∃ stackOf', Quiet layout stackOf' (move.event s).after ∧ ∀ tid,
      ((move.event s).isBy tid Event.ends).toNat + Block.regionsOf stackOf' tid ≤
        ((move.event s).isBy tid Event.begins).toNat + Block.regionsOf stackOf tid := by
  obtain ⟨result, t, happens, effect⟩ := s.exists_effect h.stacked.initialized move
  rw [happens]
  exact effect.quiet outside h

/-- A session that came from this block and still has its frames and threads. -/
structure Inert (block : Block) (s : Session) : Prop where
  layout : s.block.layout = block.layout
  runtime : s.block.initialized = true
  state : s.block.state = block.state
  stays : s.stays = []

/-- **One move** outside convergent regions, where no lane has a thread. -/
theorem inert_event {block : Block} (unmapped : ¬block.layout.MapsLanes)
    (outside : move.isEntry = false) (h : Inert block s) :
    Inert block (move.event s).after ∧ (move.event s).ends = false := by
  obtain ⟨layout, runtime, state, stays⟩ := h
  have unmapped' : ¬s.block.layout.MapsLanes := layout ▸ unmapped
  obtain ⟨result, t, happens, effect⟩ := s.exists_effect runtime move
  rw [happens, Event.ends]
  show Inert block t ∧ (move.isEnd && result.isOk) = false
  generalize result.isOk = returned at effect
  cases effect with
  | refused => exact ⟨⟨layout, runtime, state, stays⟩, Bool.and_false _⟩
  | called effect =>
    obtain ⟨kept, paid⟩ := effect.of_not_mapsLanes unmapped'
    exact ⟨⟨effect.layout.trans layout, effect.initialized.trans runtime, kept.trans state, stays⟩,
      paid⟩
  | begun owns => exact absurd owns.maps unmapped'
  | entered | stopped => cases outside
  | nobody => exact ⟨⟨layout, runtime, state, stays⟩, rfl⟩
  | left found owns | hinted found owns => exact absurd owns.maps unmapped'
  | lost => exact ⟨⟨layout, runtime, state, by rw [stays]; rfl⟩, rfl⟩
  | fenced => exact ⟨⟨layout, runtime, state, stays⟩, rfl⟩

/-! ## Whole runs -/

/-- A solvent session in which this many frames hold parked loop state. -/
def Backed (layout : BlockLayout) (stock : Nat) (s : Session) : Prop :=
  ∃ ids, Solvent layout ids s ∧ ids.card = stock

theorem backed_event (move : Move) (s : Session) (stock : Nat) (h : Backed layout stock s) :
    ∃ left, Backed layout left (move.event s).after ∧
      (move.event s).ends.toNat + left ≤ (move.event s).begins.toNat + stock := by
  obtain ⟨ids, solvent, rfl⟩ := h
  obtain ⟨left, solvent', paid⟩ := solvent_event move s solvent
  exact ⟨left.card, ⟨left, solvent', rfl⟩, paid⟩

/-- A quiet session in which a thread has this many serialized regions open. -/
def Occupied (layout : BlockLayout) (tid stock : Nat) (s : Session) : Prop :=
  ∃ stackOf, Quiet layout stackOf s ∧ Block.regionsOf stackOf tid = stock

theorem occupied_event (outside : move.isEntry = false) (s : Session) (stock : Nat)
    (h : Occupied layout tid stock s) :
    ∃ left, Occupied layout tid left (move.event s).after ∧
      ((move.event s).isBy tid Event.ends).toNat + left ≤
        ((move.event s).isBy tid Event.begins).toNat + stock := by
  obtain ⟨stackOf, quiet, rfl⟩ := h
  obtain ⟨stackOf', quiet', paid⟩ := quiet_event outside quiet
  exact ⟨_, ⟨stackOf', quiet', rfl⟩, paid tid⟩

variable {arch : Arch} {mode : ExecMode} {config : LaunchConfig}

/-- Where no group enters a convergent region, no thread leaves more serialized regions than it has
entered, and nothing releases a first-level frame. -/
theorem ends_le_begins_of_outside {block : Block}
    (created : Block.create arch mode config = .ok block) (initialized : block.initialized = true)
    {moves : List Move} (outside : ∀ move ∈ moves, move.isEntry = false) {tid : Nat}
    (inside : tid < block.layout.size) :
    (run moves ⟨block, []⟩).countP (Event.isBy tid Event.ends) ≤
        (run moves ⟨block, []⟩).countP (Event.isBy tid Event.begins) ∧
      ∀ event ∈ run moves ⟨block, []⟩, ¬event.Releases (homeId tid) := by
  by_cases maps : block.layout.MapsLanes
  · have quiet : Quiet block.layout (Block.initialStack mode) ⟨block, []⟩ :=
      ⟨rfl, Block.stacked_of_mapsLanes maps created initialized, rfl⟩
    refine ⟨?_, fun event member released => ?_⟩
    · have none : Occupied block.layout tid 0 ⟨block, []⟩ :=
        ⟨_, quiet, Block.regionsOf_initialStack mode⟩
      exact countP_run_le moves (fun move among => occupied_event (outside move among)) none
    · have kept (move : Move) (among : move ∈ moves) (s : Session)
          (h : ∃ stackOf, Quiet block.layout stackOf s) :
          ∃ stackOf, Quiet block.layout stackOf (move.event s).after :=
        let ⟨stackOf, quiet⟩ := h
        (quiet_event (outside move among) quiet).imp fun _ next => next.1
      obtain ⟨among, before, happens⟩ := forall_run moves kept ⟨_, quiet⟩ event member
      obtain ⟨stackOf, after⟩ := kept event.move among event.before before
      -- the frames set aside for the threads are stored as long as the block has stacks
      have live := after.stacked.isLive_homeId (after.shape ▸ inside)
      rw [← happens, released.2] at live
      cases live
  · -- no lane has a thread, so nothing happens to the frames at all
    have inert : Inert block ⟨block, []⟩ := ⟨rfl, initialized, rfl, rfl⟩
    have step (move : Move) (among : move ∈ moves) (s : Session) :=
      inert_event (s := s) maps (outside move among)
    have holds := forall_run moves (fun move among s h => (step move among s h).1) inert
    refine ⟨?_, fun event member released => ?_⟩
    · have none : (run moves ⟨block, []⟩).countP (Event.isBy tid Event.ends) = 0 := by
        refine List.countP_eq_zero.2 fun event member => ?_
        obtain ⟨among, before, happens⟩ := holds event member
        rw [Event.isBy, happens, (step event.move among event.before before).2]
        exact Bool.false_ne_true
      exact none ▸ Nat.zero_le _
    · obtain ⟨among, before, happens⟩ := holds event member
      have after := (step event.move among event.before before).1
      have live := released.1
      rw [before.state, ← after.state, ← happens, released.2] at live
      cases live

/-- **Every exit is paid for.** Over any run of a new block with the full runtime, convergent
regions among its moves: no more serialized regions are left than were entered. No exit releases the
outermost frame. An exit that releases the first-level frame of a thread releases that of thread 0
of a generic block, and another thread leaves. Where no group enters a convergent region, no thread
leaves more regions than it has entered, and nothing releases a first-level frame. -/
theorem ends_le_begins {block : Block} (created : Block.create arch mode config = .ok block)
    (initialized : block.initialized = true) (moves : List Move) :
    (run moves ⟨block, []⟩).countP Event.ends ≤ (run moves ⟨block, []⟩).countP Event.begins ∧
    (∀ event ∈ run moves ⟨block, []⟩, event.move.isEnd = true →
      ¬event.Releases baseId ∧ ∀ tid, tid < block.layout.size → event.Releases (homeId tid) →
        block.layout.mode = .generic ∧ tid = 0 ∧ event.caller? ≠ some 0) ∧
    ((∀ move ∈ moves, move.isEntry = false) → ∀ tid, tid < block.layout.size →
      (run moves ⟨block, []⟩).countP (Event.isBy tid Event.ends) ≤
          (run moves ⟨block, []⟩).countP (Event.isBy tid Event.begins) ∧
        ∀ event ∈ run moves ⟨block, []⟩, ¬event.Releases (homeId tid)) := by
  have backed : Backed block.layout 0 ⟨block, []⟩ :=
    ⟨∅, ⟨rfl, Block.solvent_of_create created initialized, fun _ none => nomatch none⟩, rfl⟩
  refine ⟨countP_run_le moves (fun move _ => backed_event move) backed, ?_,
    fun outside tid inside => ends_le_begins_of_outside created initialized outside inside⟩
  intro event member exit
  have kept (move : Move) (_ : move ∈ moves) (s : Session)
      (h : ∃ stock, Backed block.layout stock s) :
      ∃ stock, Backed block.layout stock (move.event s).after :=
    let ⟨stock, backed⟩ := h
    (backed_event move s stock backed).imp fun _ next => next.1
  obtain ⟨-, ⟨stock, ids, solvent, -⟩, happens⟩ := forall_run moves kept ⟨0, backed⟩ event member
  rw [happens]
  refine ⟨fun released => (solvent.of_releases exit released).1.1 rfl,
    fun tid inside released => ?_⟩
  obtain ⟨loose, foreign⟩ := solvent.of_releases exit released
  obtain ⟨generic, rfl⟩ := loose.2 tid inside rfl
  exact ⟨generic, rfl, fun caller => foreign 0 caller rfl⟩

/-- A block of two warps, none of whose lanes is in a convergent region. -/
def twoWarps : Session := ⟨Block.twoWarps, []⟩

/-- Worker 7 enters a serialized region from the outermost frame. Worker 0 becomes a team of one,
and in a simd region that it enters with worker 5, worker 5 leaves. -/
def borrowed : List Move :=
  [.call (.beginSerial 7), .call (.pushThreads 32 1), .call (.prepareRegion 32 ⟨1, by decide⟩ true),
    .call (.enterRegion 0 true), .enter .simd ⟨0, 32⟩ (.ofLanes [0, 5]) 0 (Array.replicate 32 {}),
    .call (.endSerial 5), .leave 0, .leave 0]

/-- The first moves of that, in no convergent region, and worker 7 leaves. -/
def owned : List Move := [.call (.beginSerial 7), .call (.pushThreads 32 1), .call (.endSerial 7)]

theorem ends_le_begins_borrowed :
    (run borrowed twoWarps).countP Event.ends ≤ (run borrowed twoWarps).countP Event.begins ∧
      (run owned twoWarps).countP (Event.isBy 7 Event.ends) ≤
        (run owned twoWarps).countP (Event.isBy 7 Event.begins) :=
  ⟨(ends_le_begins Block.create_twoWarps rfl borrowed).1,
    ((ends_le_begins Block.create_twoWarps rfl owned).2.2 (by decide) 7 (by decide)).1⟩

/-- **A thread can leave a region that it has not entered**, and release the first-level frame of
another thread by it. -/
theorem not_paid_by_caller :
    (¬∀ moves : List Move, ∀ tid, tid < 64 →
      (run moves twoWarps).countP (Event.isBy tid Event.ends) ≤
        (run moves twoWarps).countP (Event.isBy tid Event.begins)) ∧
    ¬∀ moves : List Move, ∀ event ∈ run moves twoWarps, event.move.isEnd = true →
      ∀ tid, tid < 64 → ¬event.Releases (homeId tid) := by
  constructor
  · intro paid
    have left : (run borrowed twoWarps).countP (Event.isBy 5 Event.ends) = 1 := by decide +kernel
    have entered : (run borrowed twoWarps).countP (Event.isBy 5 Event.begins) = 0 := by
      decide +kernel
    have := paid borrowed 5 (by decide)
    omega
  · intro kept
    have released : ∃ event ∈ run borrowed twoWarps, event.move.isEnd = true ∧
        event.before.block.state.arena.isLive (homeId 0) = true ∧
        event.after.block.state.arena.isLive (homeId 0) = false := by decide +kernel
    obtain ⟨event, member, exit, released⟩ := released
    exact kept borrowed event member exit 0 (by decide) released

end Convergent

end RegionDispatch
