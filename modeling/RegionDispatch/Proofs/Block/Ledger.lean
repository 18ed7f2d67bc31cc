import RegionDispatch.Proofs.Block.Interleaving

/-! # Counting serialized regions instead of stacking them

A block without the full runtime stores no frames. Of each thread it counts the serialized regions
that the thread has open, and answers every query from that count. A block with the full runtime
recognizes the same regions by the shape of the thread's stack. Both keep the same ledger, and a
program that only enters and leaves serialized regions cannot tell an SPMD block of the one kind
from one of the other, but for the level, which starts one higher where there are frames.

* **`Ledger`**, `Ledger.run` — the open regions of each thread, and what comes of calls when nothing
  else is kept.
* `Block.Follows` — blocks of which every call ends as the ledger says.
* `Block.follows_bare`, `Block.follows_framed` — SPMD blocks of both kinds follow the ledger.
* `Block.run_bare_eq_run_framed` — what that says of two new blocks. -/

namespace RegionDispatch

open Dispatch
open BlockState (baseId homeId)

/-- A call that has to do with serialized regions. -/
inductive SerialCall where
  /-- A thread enters one. -/
  | enter
  /-- A thread leaves one. -/
  | leave
  /-- The work-sharing state of a thread, which entering parks and leaving brings back. -/
  | setLoop (loop : LoopState)
  deriving DecidableEq

/-- The call on a block, made on a lane. -/
def SerialCall.operation (lane : Nat) : SerialCall → Operation
  | enter => .beginSerial lane
  | leave => .endSerial lane
  | setLoop loop => .setLoop lane loop

/-- The same call as one that is seen by its lane alone. -/
def SerialCall.laneCall : SerialCall → LaneCall
  | enter => .beginSerial
  | leave => .endSerial
  | setLoop loop => .setLoop loop

/-- A schedule of calls, each on a lane, as calls on a block. -/
def operations (schedule : List (Nat × SerialCall)) : List Operation :=
  schedule.map fun call => call.2.operation call.1

/-- The serialized regions of a block. -/
structure Ledger where
  /-- The open ones of each thread. -/
  opened : Nat → Nat := fun _ => 0
  /-- All that were entered. -/
  total : Nat := 0

namespace Ledger

/-- A thread enters a region. -/
def enter (ledger : Ledger) (tid : Nat) : Ledger where
  opened := Function.update ledger.opened tid (ledger.opened tid + 1)
  total := ledger.total + 1

/-- A thread leaves a region, with `left` others open. -/
def leave (ledger : Ledger) (tid left : Nat) : Ledger :=
  { ledger with opened := Function.update ledger.opened tid left }

@[simp] theorem opened_enter_self (ledger : Ledger) (tid : Nat) :
    (ledger.enter tid).opened tid = ledger.opened tid + 1 := Function.update_self ..

@[simp] theorem opened_leave_self (ledger : Ledger) (tid left : Nat) :
    (ledger.leave tid left).opened tid = left := Function.update_self ..

/-- What comes of a call of a thread of the block. Only leaving can be refused. -/
def act (ledger : Ledger) (tid : Nat) : SerialCall → Except DispatchError Unit × Ledger
  | .enter => (.ok (), ledger.enter tid)
  | .leave =>
    match ledger.opened tid with
    | 0 => (.error (.unbalancedExit tid), ledger)
    | left + 1 => (.ok (), ledger.leave tid left)
  | .setLoop _ => (.ok (), ledger)

/-- What comes of a call on a lane. -/
def step (layout : BlockLayout) (ledger : Ledger) (lane : Nat) (call : SerialCall) :
    Except DispatchError Unit × Ledger :=
  if lane < layout.size then ledger.act (layout.owner lane) call
  else (.error (.laneOutOfRange lane layout.size), ledger)

/-- What comes of a schedule of calls. -/
def run (layout : BlockLayout) : List (Nat × SerialCall) → Ledger → List Outcome × Ledger
  | [], ledger => ([], ledger)
  | (lane, call) :: calls, ledger =>
    let (result, ledger) := ledger.step layout lane call
    let (outcomes, last) := run layout calls ledger
    (⟨call.operation lane, result.mapError .rejected⟩ :: outcomes, last)

variable {layout : BlockLayout} {ledger : Ledger} {lane tid : Nat} {call : SerialCall}

theorem total_act_le (ledger : Ledger) (tid : Nat) (call : SerialCall) :
    (ledger.act tid call).2.total ≤ ledger.total + 1 := by
  cases call with
  | enter => exact Nat.le_refl _
  | leave =>
    rw [act]
    split <;> exact Nat.le_succ _
  | setLoop loop => exact Nat.le_succ _

theorem total_step_le (layout : BlockLayout) (ledger : Ledger) (lane : Nat) (call : SerialCall) :
    (ledger.step layout lane call).2.total ≤ ledger.total + 1 := by
  rw [step]
  split
  · exact total_act_le _ _ _
  · exact Nat.le_succ _

/-- No thread has more open regions than were entered. -/
theorem opened_act_le (bounded : ∀ tid, ledger.opened tid ≤ ledger.total) (tid : Nat)
    (call : SerialCall) (other : Nat) :
    (ledger.act tid call).2.opened other ≤ (ledger.act tid call).2.total := by
  have own := bounded tid
  have others := bounded other
  cases call with
  | enter =>
    simp only [act, enter, Function.update_apply]
    split <;> omega
  | leave =>
    rw [act]
    split
    · exact others
    · next left opened =>
      simp only [leave, Function.update_apply]
      split <;> omega
  | setLoop loop => exact others

/-- A call counts for its own thread. -/
theorem opened_act_of_ne {other : Nat} (ne : other ≠ tid) :
    (ledger.act tid call).2.opened other = ledger.opened other := by
  cases call with
  | enter => exact Function.update_of_ne ne _ _
  | leave =>
    rw [act]
    split
    · rfl
    · exact Function.update_of_ne ne _ _
  | setLoop loop => rfl

theorem total_act (inside : lane < layout.size) :
    (ledger.act tid call).2.total = ledger.total + call.laneCall.entries layout.size lane := by
  cases call with
  | enter => exact congrArg (ledger.total + ·) (if_pos inside).symm
  | leave =>
    rw [act]
    split <;> rfl
  | setLoop loop => rfl

end Ledger

namespace LaneView

/-- What a lane with `count` serialized regions open sees: the first-level frame it started on, and
above it a frame for each of them. -/
inductive Nested (size lane : Nat) : Nat → LaneView → Prop
  | home {view : LaneView} (below : view.below = []) (rank : view.top.rank = lane)
      (teamSize : view.top.teamSize = size) (depth : view.top.depth = .level1)
      (parked : view.top.parkedLoop = none) : Nested size lane 0 view
  | enter {count : Nat} {view : LaneView} (nested : Nested size lane count view) :
      Nested size lane (count + 1) view.enter
  | setLoop {count : Nat} {view : LaneView} (nested : Nested size lane count view)
      (loop : LoopState) : Nested size lane count { view with loop }

variable {size lane count : Nat} {view view' : LaneView} {ledger : Ledger} {call : SerialCall}

/-- Leaving takes back entering. -/
theorem leave_enter (parked : view.top.parkedLoop = none) :
    view.enter.leave lane = (.ok .done, view) := by
  obtain ⟨⟨rank, teamSize, threadLimit, nthreads, depth, parkedLoop, parent⟩, below, loop⟩ := view
  obtain rfl : parkedLoop = none := parked
  simp [leave, enter, Frame.serializedOn, Frame.serialized, Frame.unlinked, Frame.child]

/-- Leaving does not look at the loop state, which it replaces. -/
theorem leave_withLoop (left : view.leave lane = (.ok .done, view')) (loop : LoopState) :
    ({ view with loop } : LaneView).leave lane = (.ok .done, view') := by
  rw [leave] at left ⊢
  cases hbelow : view.below with
  | nil =>
    rw [hbelow] at left
    cases left
  | cons next below =>
    simp only [hbelow] at left ⊢
    by_cases serialized : view.top.serializedOn next = true
    · rw [if_pos serialized] at left ⊢
      -- the frame below holds a loop state, so the default is not used
      have parked := serialized
      rw [Frame.serializedOn, Bool.and_eq_true] at parked
      obtain ⟨old, hold⟩ := Option.isSome_iff_exists.1 parked.2
      rw [hold] at left ⊢
      exact left
    · rw [if_neg serialized] at left
      cases left

namespace Nested

theorem parkedLoop_eq_none (h : Nested size lane count view) : view.top.parkedLoop = none := by
  induction h with
  | home below rank teamSize depth parked => exact parked
  | enter nested ih => rfl
  | setLoop nested loop ih => exact ih

theorem depth_eq (h : Nested size lane count view) : view.top.depth = .ofLevel (count + 1) := by
  induction h with
  | home below rank teamSize depth parked => exact depth
  | enter nested ih => exact (congrArg Nesting.deeper ih).trans (Nesting.deeper_ofLevel _)
  | setLoop nested loop ih => exact ih

theorem rank_eq (h : Nested size lane count view) :
    view.top.rank = if 0 < count then 0 else lane := by
  induction h with
  | home below rank teamSize depth parked => exact rank
  | enter nested ih => exact (if_pos (Nat.succ_pos _)).symm
  | setLoop nested loop ih => exact ih

theorem teamSize_eq (h : Nested size lane count view) :
    view.top.teamSize = if 0 < count then 1 else size := by
  induction h with
  | home below rank teamSize depth parked => exact teamSize
  | enter nested ih => exact (if_pos (Nat.succ_pos _)).symm
  | setLoop nested loop ih => exact ih

/-- A lane without open regions is refused. -/
theorem leave_zero (h : Nested size lane 0 view) :
    view.leave lane = (.error (.unbalancedExit lane), view) := by
  have below : view.below = [] := by
    generalize zero : 0 = count at h
    induction h with
    | home below rank teamSize depth parked => exact below
    | enter nested ih => cases zero
    | setLoop nested loop ih => exact ih zero
  rw [leave, below]

/-- A lane leaves the region it entered last. -/
theorem leave_succ (h : Nested size lane (count + 1) view) :
    ∃ view', view.leave lane = (.ok .done, view') ∧ Nested size lane count view' := by
  generalize more : count + 1 = opened at h
  induction h with
  | home below rank teamSize depth parked => cases more
  | enter nested ih =>
    obtain rfl := Nat.succ.inj more
    exact ⟨_, leave_enter nested.parkedLoop_eq_none, nested⟩
  | setLoop nested loop ih =>
    obtain ⟨view', left, nested'⟩ := ih more
    exact ⟨view', leave_withLoop left loop, nested'⟩

/-- **A call** does to the view of its lane what it does to the count of the ledger. -/
theorem act (h : Nested size lane (ledger.opened lane) view) (call : SerialCall) :
    (view.act lane call.laneCall).1.map (fun _ => ()) = (ledger.act lane call).1 ∧
      Nested size lane ((ledger.act lane call).2.opened lane) (view.act lane call.laneCall).2 := by
  cases call with
  | enter =>
    refine ⟨rfl, ?_⟩
    rw [Ledger.act, Ledger.opened_enter_self]
    exact h.enter
  | leave =>
    rw [SerialCall.laneCall, LaneView.act, Ledger.act]
    cases opened : ledger.opened lane with
    | zero =>
      rw [opened] at h
      rw [h.leave_zero]
      refine ⟨rfl, ?_⟩
      show Nested size lane (ledger.opened lane) view
      rw [opened]
      exact h
    | succ left =>
      rw [opened] at h
      obtain ⟨view', run, nested⟩ := h.leave_succ
      rw [run]
      refine ⟨rfl, ?_⟩
      rw [Ledger.opened_leave_self]
      exact nested
  | setLoop loop => exact ⟨rfl, h.setLoop loop⟩

end Nested

end LaneView

namespace Block

variable {block bare framed : Block} {layout : BlockLayout} {ledger : Ledger} {lane tid : Nat}
  {call : SerialCall}

/-! ## Runs that follow the ledger -/

/-- A relation of ledgers and blocks under which every call ends as the ledger says, until the
counter of serialized regions is full. -/
def Follows (layout : BlockLayout) (R : Ledger → Block → Prop) : Prop :=
  ∀ ledger block lane call, R ledger block → ledger.total + 1 < UInt32.size →
    ∃ after, attempt (call.operation lane).perform block =
      .ok (ledger.step layout lane call).1 after ∧ R (ledger.step layout lane call).2 after

theorem run_cons_of_attempt {op : Operation} {result : Except DispatchError Unit} {after : Block}
    (h : attempt op.perform block = .ok result after) (ops : List Operation) :
    run (op :: ops) block =
      (⟨op, result.mapError .rejected⟩ :: (run ops after).1, (run ops after).2) := by
  unfold attempt at h
  rw [run]
  rcases hop : op.perform block with ⟨⟨⟩, t⟩ | ⟨error | fault, t⟩ <;> rw [hop] at h
  · cases h
    rfl
  · cases h
    rfl
  · cases h

/-- **A run follows the ledger** if every call does. -/
theorem run_of_follows {R : Ledger → Block → Prop} (follows : Follows layout R)
    (schedule : List (Nat × SerialCall)) (related : R ledger block)
    (room : ledger.total + schedule.length < UInt32.size) :
    (run (operations schedule) block).1 = (ledger.run layout schedule).1 ∧
      R (ledger.run layout schedule).2 (run (operations schedule) block).2 := by
  -- by induction on the schedule; the relation is what carries over from call to call
  induction schedule generalizing ledger block with
  | nil => exact ⟨rfl, related⟩
  | cons call calls ih =>
    obtain ⟨lane, call⟩ := call
    rw [List.length_cons] at room
    obtain ⟨after, ends, related'⟩ := follows ledger block lane call related (by omega)
    have grown := ledger.total_step_le layout lane call
    obtain ⟨outcomes, last⟩ := ih related' (by omega)
    have first : run (operations ((lane, call) :: calls)) block = _ :=
      run_cons_of_attempt ends (operations calls)
    rw [first, outcomes]
    exact ⟨rfl, last⟩

/-- Any call on a lane outside the block is refused. -/
theorem attempt_operation_of_size_le (outside : block.layout.size ≤ lane) :
    attempt (call.operation lane).perform block =
      .ok (.error (.laneOutOfRange lane block.layout.size)) block := by
  refine attempt_of_rejected ?_
  cases call with
  | enter => exact beginSerial_of_size_le outside
  | leave => exact endSerial_of_size_le outside
  | setLoop loop => exact bind_of_error (threadOf_of_size_le outside) _

/-! ## Blocks that count -/

/-- An SPMD block without frames that counts the open regions of the ledger. -/
structure Bare (layout : BlockLayout) (ledger : Ledger) (block : Block) : Prop where
  spmd : layout.mode = .spmd
  mode_eq : block.layout.mode = .spmd
  size_eq : block.layout.size = layout.size
  uninitialized : block.initialized = false
  sized : block.state.threads.size = layout.size
  opened : ∀ tid, tid < layout.size → (block.state.thread tid).openRegions = ledger.opened tid
  bounded : ∀ tid, ledger.opened tid ≤ ledger.total
  serialized : block.counters.serialized = ledger.total

namespace Bare

variable (h : Bare layout ledger block)

include h

theorem threadOf_eq (lane : Nat) : block.layout.threadOf lane = .ok lane := by
  rw [BlockLayout.threadOf, h.mode_eq]

/-- A change of the count of one thread. -/
theorem modifyThread (inside : lane < layout.size) {ledger' : Ledger} {counters : Counters}
    {f : Thread → Thread} {count : Nat}
    (counted : (f (block.state.thread lane)).openRegions = count)
    (opened : ledger'.opened = Function.update ledger.opened lane count)
    (bounded : ∀ tid, ledger'.opened tid ≤ ledger'.total)
    (serialized : counters.serialized = ledger'.total) :
    Bare layout ledger' { block with state := block.state.modifyThread lane f, counters } where
  spmd := h.spmd
  mode_eq := h.mode_eq
  size_eq := h.size_eq
  uninitialized := h.uninitialized
  sized := (BlockState.size_modifyThread f).trans h.sized
  opened tid bound := by
    have here : lane < block.state.threads.size := h.sized ▸ inside
    rw [opened]
    by_cases same : tid = lane
    · rw [same, Function.update_self]
      exact (congrArg Thread.openRegions (BlockState.thread_modifyThread_self here)).trans counted
    · rw [Function.update_of_ne same, ← h.opened tid bound]
      exact congrArg Thread.openRegions (BlockState.thread_modifyThread_of_ne same)
  bounded := bounded
  serialized := serialized

/-- Entering adds to the count of the thread. -/
theorem beginSerial_eq_ok (inside : lane < layout.size) (room : ledger.total + 1 < UInt32.size) :
    beginSerial lane block = .ok () { block with
      counters := { block.counters with serialized := block.counters.serialized + 1 }
      state := block.state.modifyThread lane
        ({ · with openRegions := (block.state.thread lane).openRegions + 1 }) } := by
  have inside' : lane < block.layout.size := h.size_eq ▸ inside
  have counter : block.counters.serialized + 1 < UInt32.size := h.serialized ▸ room
  have count : (block.state.thread lane).openRegions + 1 < UInt32.size := by
    have := h.bounded lane
    rw [h.opened lane inside]
    omega
  refine eq_ok_of_ends ?_
  simp [beginSerial, tally, onState, ends_of_ok (threadOf_of_lt inside' (h.threadOf_eq lane)),
    Counters.addSerialized, checkedAdd_of_lt counter, Except.map, h.uninitialized,
    checkedAdd_of_lt count]

/-- Leaving takes from the count of the thread. -/
theorem endSerial_eq_ok (inside : lane < layout.size) {left : Nat}
    (opened : ledger.opened lane = left + 1) :
    endSerial lane block = .ok () { block with
      state := block.state.modifyThread lane ({ · with openRegions := left }) } := by
  have inside' : lane < block.layout.size := h.size_eq ▸ inside
  refine eq_ok_of_ends ?_
  simp [endSerial, onState, ends_of_ok (threadOf_of_lt inside' (h.threadOf_eq lane)),
    h.uninitialized, h.opened lane inside, opened]

theorem endSerial_of_opened_eq_zero (inside : lane < layout.size)
    (opened : ledger.opened lane = 0) :
    endSerial lane block = .error (.rejected (.unbalancedExit lane)) block := by
  have inside' : lane < block.layout.size := h.size_eq ▸ inside
  refine eq_error_of_ends ?_
  simp [endSerial, ends_of_ok (threadOf_of_lt inside' (h.threadOf_eq lane)), h.uninitialized,
    h.opened lane inside, opened]

/-- Queries are answered from the count. -/
theorem query_eq_ok (inside : lane < layout.size) {α : Type} (read : Frame → α)
    (count : BlockLayout → Nat → Thread → α) :
    query lane read count block =
      .ok (count block.layout lane (block.state.thread lane)) block := by
  have inside' : lane < block.layout.size := h.size_eq ▸ inside
  refine eq_ok_of_ends ?_
  simp [query, ends_of_ok (threadOf_of_lt inside' (h.threadOf_eq lane)), h.uninitialized]

variable (inside : lane < layout.size)

include inside

theorem level_eq : level lane block = .ok (min (ledger.opened lane) 2) block := by
  rw [level, h.query_eq_ok inside, h.opened lane inside]

theorem threadNum_eq :
    threadNum lane block = .ok (if 0 < ledger.opened lane then 0 else lane) block := by
  rw [threadNum, h.query_eq_ok inside, h.opened lane inside]

theorem teamSize_eq :
    teamSize lane block = .ok (if 0 < ledger.opened lane then 1 else layout.size) block := by
  rw [teamSize, h.query_eq_ok inside, h.opened lane inside, h.size_eq]

end Bare

/-- **Blocks that count** follow the ledger. -/
theorem follows_bare : Follows layout (Bare layout) := by
  intro ledger block lane call h room
  by_cases inside : lane < layout.size
  swap
  · have outside : block.layout.size ≤ lane := h.size_eq ▸ Nat.le_of_not_lt inside
    rw [Ledger.step, if_neg inside, attempt_operation_of_size_le outside, h.size_eq]
    exact ⟨block, rfl, h⟩
  have bounded := Ledger.opened_act_le h.bounded lane
  rw [Ledger.step, if_pos inside, BlockLayout.owner_of_spmd h.spmd]
  cases call with
  | enter =>
    refine ⟨_, attempt_of_ok (h.beginSerial_eq_ok inside room), ?_⟩
    exact h.modifyThread inside (congrArg (· + 1) (h.opened lane inside)) rfl (bounded .enter)
      (congrArg (· + 1) h.serialized)
  | leave =>
    have keeps := bounded .leave
    cases opened : ledger.opened lane with
    | zero =>
      rw [Ledger.act, opened]
      exact ⟨block, attempt_of_rejected (h.endSerial_of_opened_eq_zero inside opened), h⟩
    | succ left =>
      rw [Ledger.act, opened] at keeps ⊢
      refine ⟨_, attempt_of_ok (h.endSerial_eq_ok inside opened), ?_⟩
      exact h.modifyThread inside rfl rfl keeps h.serialized
  | setLoop loop =>
    have inside' : lane < block.layout.size := h.size_eq ▸ inside
    refine ⟨_, attempt_of_ok (setLoop_eq_ok inside' (h.threadOf_eq lane)), ?_⟩
    exact h.modifyThread inside (h.opened lane inside) (Function.update_eq_self ..).symm h.bounded
      h.serialized

/-! ## Blocks that stack -/

/-- An SPMD block with frames in which every lane is nested as deep as the ledger counts. -/
structure Framed (layout : BlockLayout) (ledger : Ledger) (block : Block) : Prop where
  spmd : layout.mode = .spmd
  serialized : block.counters.serialized = ledger.total
  seen : ∃ views, Shows layout.size views block ∧ ∀ lane, lane < layout.size →
    LaneView.Nested layout.size lane (ledger.opened lane) (views lane)

theorem perform_laneCall (lane : Nat) (call : SerialCall) :
    call.laneCall.perform lane = do
      (call.operation lane).perform
      return .done := by
  cases call <;> rfl

/-- **Blocks that stack** follow the ledger. -/
theorem follows_framed : Follows layout (Framed layout) := by
  intro ledger block lane call h room
  obtain ⟨views, shown, nested⟩ := h.seen
  have sized := shown.2.1
  by_cases inside : lane < layout.size
  swap
  · have outside : block.layout.size ≤ lane := sized ▸ Nat.le_of_not_lt inside
    rw [Ledger.step, if_neg inside, attempt_operation_of_size_le outside, sized]
    exact ⟨block, rfl, h⟩
  rw [Ledger.step, if_pos inside, BlockLayout.owner_of_spmd h.spmd]
  have notFull : ¬Overflows lane call.laneCall block := by
    rintro ⟨-, full⟩
    rw [h.serialized] at full
    exact absurd room (Nat.not_lt.2 full)
  obtain ⟨after, run, shown', counted⟩ := shown.attempt_eq_ok notFull
  rw [perform_laneCall] at run
  rw [LaneView.step, if_pos inside] at run shown'
  have acted := (nested lane inside).act call
  refine ⟨after, (attempt_of_attempt_bind_pure run).trans ?_, h.spmd, ?_, _, shown', ?_⟩
  · rw [acted.1]
  · rw [counted, h.serialized, ← Ledger.total_act inside]
  · intro other inside'
    by_cases same : other = lane
    · rw [same, Function.update_self]
      exact acted.2
    · rw [Function.update_of_ne same, Ledger.opened_act_of_ne same]
      exact nested other inside'

/-- Queries are answered from the frame a lane stands on. -/
theorem Shows.query_eq_ok (shown : Shows size views block) (inside : lane < size) {α : Type}
    {read : Frame → α} (unlinked : ∀ frame, read frame.unlinked = read frame)
    (count : BlockLayout → Nat → Thread → α) :
    query lane read count block = .ok (read (views lane).top) block := by
  obtain ⟨spmd, sized, stackOf, h, seen⟩ := shown
  have bound : lane < block.layout.size := sized ▸ inside
  have owner : block.layout.threadOf lane = .ok lane := by
    rw [h.maps.threadOf_eq, BlockLayout.owner_of_spmd spmd]
  obtain ⟨top, ids, frame, stack, hframe, same, -⟩ := (seen lane inside).exists_top
  have htop : (block.state.thread lane).top = some top := by
    rw [h.tops lane bound, stack]
    rfl
  rw [← same, unlinked]
  exact Block.query_eq_ok bound owner h.initialized htop hframe read count

namespace Framed

variable (h : Framed layout ledger block)

include h

theorem size_eq : block.layout.size = layout.size := by
  obtain ⟨views, shown, -⟩ := h.seen
  exact shown.2.1

variable (inside : lane < layout.size)

include inside

theorem level_eq : level lane block = .ok (min (ledger.opened lane + 1) 2) block := by
  obtain ⟨views, shown, nested⟩ := h.seen
  rw [level, shown.query_eq_ok inside fun _ => rfl, (nested lane inside).depth_eq,
    Nesting.level_ofLevel, Nat.min_comm]

theorem threadNum_eq :
    threadNum lane block = .ok (if 0 < ledger.opened lane then 0 else lane) block := by
  obtain ⟨views, shown, nested⟩ := h.seen
  rw [threadNum, shown.query_eq_ok inside fun _ => rfl, (nested lane inside).rank_eq]

theorem teamSize_eq :
    teamSize lane block = .ok (if 0 < ledger.opened lane then 1 else layout.size) block := by
  obtain ⟨views, shown, nested⟩ := h.seen
  rw [teamSize, shown.query_eq_ok inside fun _ => rfl, (nested lane inside).teamSize_eq]

end Framed

/-! ## New blocks -/

variable {arch arch' : Arch} {config config' : LaunchConfig}

theorem bare_of_create (created : create arch .spmd config = .ok block)
    (uninitialized : block.initialized = false) (spmd : layout.mode = .spmd)
    (sized : block.layout.size = layout.size) : Bare layout {} block := by
  unfold create at created
  cases hsize : config.blockSize with
  | error fault => rw [hsize] at created; cases created
  | ok size =>
    simp only [hsize, bind, Except.bind, pure, Except.pure, Except.ok.injEq] at created
    subst created
    have lacking : (config.fullRuntime || ExecMode.spmd == ExecMode.generic) = false :=
      uninitialized
    simp only [lacking, Bool.false_eq_true, if_false] at sized ⊢
    refine ⟨spmd, rfl, sized, rfl, ?_, fun tid bound => ?_, fun _ => Nat.le_refl _, rfl⟩
    · exact (Array.size_replicate ..).trans sized
    · have fresh : (BlockState.simple size).thread tid = {} := by
        simp [BlockState.thread, BlockState.simple, sized, bound]
      rw [fresh]

theorem framed_of_create (created : create arch .spmd config = .ok block)
    (initialized : block.initialized = true) : Framed block.layout {} block := by
  have shown := shows_of_create created initialized
  refine ⟨shown.1, ?_, _, shown, fun lane inside => ?_⟩
  · obtain ⟨size, -, rfl⟩ := eq_of_create created initialized
    rfl
  · -- every lane starts on the frame of the member of its number
    obtain ⟨size, -, rfl⟩ := eq_of_create created initialized
    have member : (initialState .spmd size config).arena.get? (homeId lane) =
        some ((Frame.initial config.threadLimit.toNat).spmdMember baseId lane size) := by
      refine (BlockState.get?_spmd (homeId lane)).trans ?_
      rw [if_neg (BlockState.homeId_ne_baseId lane)]
      exact if_pos (Nat.succ_le_of_lt inside)
    refine .home rfl ?_ ?_ ?_ ?_ <;>
      simp only [initialView, FrameArena.unlinked?, member] <;> rfl

/-- Both blocks give a query the same answer or the same refusal. -/
def Agree (query : Dispatch Block Nat) (block other : Block) : Prop :=
  ∃ answer, attempt query block = .ok answer block ∧ attempt query other = .ok answer other

/-- **Counting refines stacking.** A block without the full runtime and one with it, both SPMD and
of one size, end every call of a schedule in the same way, which is what the ledger says: only
lanes outside the block and unmatched exits are refused. They count the same regions, and give
every lane the same number and the same team size; the level of a lane with `k` regions open is `k`
in the one and `k + 1` in the other, up to 2. A start of a schedule is a schedule, so this is so
after every call. -/
theorem run_bare_eq_run_framed (bareCreated : create arch .spmd config = .ok bare)
    (uninitialized : bare.initialized = false)
    (framedCreated : create arch' .spmd config' = .ok framed)
    (initialized : framed.initialized = true) (sized : bare.layout.size = framed.layout.size)
    (schedule : List (Nat × SerialCall)) (few : schedule.length < UInt32.size) :
    (run (operations schedule) bare).1 = (run (operations schedule) framed).1 ∧
    (run (operations schedule) framed).1 = (Ledger.run framed.layout schedule {}).1 ∧
    (run (operations schedule) bare).2.counters.serialized =
      (run (operations schedule) framed).2.counters.serialized ∧
    ∀ lane,
      Agree (threadNum lane) (run (operations schedule) bare).2
        (run (operations schedule) framed).2 ∧
      Agree (teamSize lane) (run (operations schedule) bare).2
        (run (operations schedule) framed).2 ∧
      (lane < framed.layout.size →
        level lane (run (operations schedule) bare).2 =
            .ok (min ((Ledger.run framed.layout schedule {}).2.opened lane) 2)
              (run (operations schedule) bare).2 ∧
          level lane (run (operations schedule) framed).2 =
            .ok (min ((Ledger.run framed.layout schedule {}).2.opened lane + 1) 2)
              (run (operations schedule) framed).2) := by
  have start := framed_of_create framedCreated initialized
  have start' := bare_of_create bareCreated uninitialized start.spmd sized
  have room : ({} : Ledger).total + schedule.length < UInt32.size := (Nat.zero_add _).symm ▸ few
  obtain ⟨outcomes, last⟩ := run_of_follows follows_framed schedule start room
  obtain ⟨outcomes', last'⟩ := run_of_follows follows_bare schedule start' room
  refine ⟨outcomes'.trans outcomes.symm, outcomes, last'.serialized.trans last.serialized.symm,
    fun lane => ?_⟩
  by_cases inside : lane < framed.layout.size
  · refine ⟨⟨_, attempt_of_ok (last'.threadNum_eq inside),
        attempt_of_ok (last.threadNum_eq inside)⟩,
      ⟨_, attempt_of_ok (last'.teamSize_eq inside), attempt_of_ok (last.teamSize_eq inside)⟩,
      fun _ => ⟨last'.level_eq inside, last.level_eq inside⟩⟩
  · have refused (read : Frame → Nat) (count : BlockLayout → Nat → Thread → Nat) :
        Agree (query lane read count) (run (operations schedule) bare).2
          (run (operations schedule) framed).2 := by
      have outside := Nat.le_of_not_lt inside
      have one := query_of_size_le (last'.size_eq.symm ▸ outside) read count
      have other := query_of_size_le (last.size_eq.symm ▸ outside) read count
      rw [last'.size_eq] at one
      rw [last.size_eq] at other
      exact ⟨_, attempt_of_rejected one, attempt_of_rejected other⟩
    exact ⟨refused _ _, refused _ _, fun within => absurd within inside⟩

/-- Two SPMD lanes without the full runtime. -/
def twoBareLanes : Block where
  arch := .volta
  layout := ⟨2, 32, .spmd⟩
  initialized := false
  state := .simple 2

/-- An unmatched exit, a lane outside the block, and regions of two lanes that are open at once. -/
def overlapping : List (Nat × SerialCall) :=
  [(0, .leave), (0, .enter), (2, .enter), (1, .enter), (0, .leave), (1, .enter), (0, .leave)]

theorem run_bare_overlapping :
    (run (operations overlapping) twoBareLanes).1 = (run (operations overlapping) twoLanes).1 := by
  have bareCreated :
      create .volta .spmd { grid := .line 1, block := .line 2, fullRuntime := false } =
        .ok twoBareLanes := rfl
  have framedCreated : create .volta .spmd { grid := .line 1, block := .line 2 } = .ok twoLanes :=
    rfl
  exact (run_bare_eq_run_framed bareCreated rfl framedCreated rfl rfl overlapping (by decide)).1

end Block

end RegionDispatch
