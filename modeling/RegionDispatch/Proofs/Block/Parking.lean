import RegionDispatch.Proofs.Block.Ledger

/-! # Where entering a serialized region parks the loop state

Entering a serialized region parks the loop state of the thread in the frame the thread stands on,
and leaving it takes the loop state from there. A thread inside a region of its own stands on a
frame of its own. In a generic block all threads outside regions stand on the one outermost frame,
which has room for one loop state. So the outermost serialized regions of two threads, open at the
same time, park in the same place: the second overwrites what the first has parked, whoever leaves
first takes it, and the other is refused.

* **`Block.Restores`** — a schedule after which every thread that left a region is back where it
  entered it, on the same frame and with the same loop state.
* `Parking.Fits` — each outermost exit finds in the shared place what its own entry put there.
* `Block.Parks.restores_iff` — a schedule restores exactly if it fits.
* `Block.restores_iff_fits` — the same on a block at rest; a schedule that leaves all its regions
  restores exactly if no two threads have regions open at the same time. -/

namespace RegionDispatch

open Dispatch
open BlockState (baseId homeId)

namespace Ledger

/-- The calls of a schedule that enter a region. -/
def enters (schedule : List (Nat × SerialCall)) : Nat :=
  schedule.countP fun call => call.2 = .enter

/-- No call of the schedule is refused: the lanes are in the block, and no thread leaves more
regions than it has entered. -/
def Accepts (layout : BlockLayout) : Ledger → List (Nat × SerialCall) → Prop
  | _, [] => True
  | ledger, (lane, call) :: calls =>
    (ledger.step layout lane call).1 = .ok () ∧
      Accepts layout (ledger.step layout lane call).2 calls

/-- At most one thread has regions open. -/
def Single (ledger : Ledger) : Prop :=
  ∀ tid other, 0 < ledger.opened tid → 0 < ledger.opened other → tid = other

/-- At most one thread at a time has regions open. -/
def Apart (layout : BlockLayout) : Ledger → List (Nat × SerialCall) → Prop
  | ledger, [] => ledger.Single
  | ledger, (lane, call) :: calls =>
    ledger.Single ∧ Apart layout (ledger.step layout lane call).2 calls

variable {layout : BlockLayout} {ledger : Ledger} {lane tid other : Nat}

theorem opened_enter_of_ne (ne : other ≠ tid) :
    (ledger.enter tid).opened other = ledger.opened other := Function.update_of_ne ne _ _

theorem opened_leave_of_ne {left : Nat} (ne : other ≠ tid) :
    (ledger.leave tid left).opened other = ledger.opened other := Function.update_of_ne ne _ _

/-- The calls of an accepted schedule are on lanes of the block. -/
theorem lt_size_of_accepted {call : SerialCall}
    (accepted : (ledger.step layout lane call).1 = .ok ()) : lane < layout.size := by
  by_contra outside
  rw [step, if_neg outside] at accepted
  cases accepted

/-- A thread that may leave has a region open. -/
theorem exists_left_of_accepted (accepted : (ledger.act tid .leave).1 = .ok ()) :
    ∃ left, ledger.opened tid = left + 1 ∧ (ledger.act tid .leave).2 = ledger.leave tid left := by
  rw [act] at accepted ⊢
  cases opened : ledger.opened tid with
  | zero =>
    rw [opened] at accepted
    cases accepted
  | succ left => exact ⟨left, rfl, rfl⟩

theorem Apart.single {schedule : List (Nat × SerialCall)} (h : ledger.Apart layout schedule) :
    ledger.Single := by
  cases schedule with
  | nil => exact h
  | cons first calls => exact h.1

/-- Where a thread enters, only it can have regions open before. -/
theorem Single.eq_of_enter (h : (ledger.enter tid).Single) (opened : 0 < ledger.opened other) :
    other = tid := by
  by_contra ne
  refine ne (h other tid ?_ ?_)
  · rwa [opened_enter_of_ne ne]
  · rw [opened_enter_self]
    exact Nat.succ_pos _

end Ledger

/-- What threads have parked, when those outside regions all park in one place. -/
structure Parking where
  /-- The loop state of each thread. -/
  loops : Nat → LoopState
  /-- What each thread parked on entering the regions it has open, innermost first. -/
  parked : Nat → List LoopState
  /-- The shared place. -/
  shared : Option LoopState

namespace Parking

/-- A thread enters a region; if it has none open, it parks in the shared place. -/
def enter (p : Parking) (tid : Nat) : Parking where
  loops := p.loops
  parked := Function.update p.parked tid (p.loops tid :: p.parked tid)
  shared := if p.parked tid = [] then some (p.loops tid) else p.shared

/-- A thread gets back `loop`, with `below` left parked; if that is nothing, it has emptied the
shared place. -/
def leave (p : Parking) (tid : Nat) (loop : LoopState) (below : List LoopState) : Parking where
  loops := Function.update p.loops tid loop
  parked := Function.update p.parked tid below
  shared := if below = [] then none else p.shared

@[simp] theorem loops_leave_self (p : Parking) (tid : Nat) (loop : LoopState)
    (below : List LoopState) : (p.leave tid loop below).loops tid = loop := Function.update_self ..

@[simp] theorem parked_leave_self (p : Parking) (tid : Nat) (loop : LoopState)
    (below : List LoopState) : (p.leave tid loop below).parked tid = below :=
  Function.update_self ..

theorem parked_leave_of_ne {p : Parking} {tid other : Nat} {loop : LoopState}
    {below : List LoopState} (ne : other ≠ tid) :
    (p.leave tid loop below).parked other = p.parked other := Function.update_of_ne ne _ _

@[simp] theorem parked_enter_self (p : Parking) (tid : Nat) :
    (p.enter tid).parked tid = p.loops tid :: p.parked tid := Function.update_self ..

theorem parked_enter_of_ne {p : Parking} {tid other : Nat} (ne : other ≠ tid) :
    (p.enter tid).parked other = p.parked other := Function.update_of_ne ne _ _

/-- Every outermost exit of the schedule finds in the shared place what the thread parked there. -/
def Fits (layout : BlockLayout) : Parking → List (Nat × SerialCall) → Prop
  | _, [] => True
  | p, (lane, .enter) :: calls => Fits layout (p.enter (layout.owner lane)) calls
  | p, (lane, .leave) :: calls =>
    ∃ loop below, p.parked (layout.owner lane) = loop :: below ∧
      (below = [] → p.shared = some loop) ∧
      Fits layout (p.leave (layout.owner lane) loop below) calls
  | p, (lane, .setLoop loop) :: calls =>
    Fits layout { p with loops := Function.update p.loops (layout.owner lane) loop } calls

theorem fits_leave {layout : BlockLayout} {p : Parking} {lane : Nat} {loop : LoopState}
    {below : List LoopState} (calls : List (Nat × SerialCall))
    (parked : p.parked (layout.owner lane) = loop :: below) :
    p.Fits layout ((lane, .leave) :: calls) ↔ (below = [] → p.shared = some loop) ∧
      (p.leave (layout.owner lane) loop below).Fits layout calls := by
  rw [Fits]
  constructor
  · rintro ⟨loop', below', same, fits⟩
    rw [parked] at same
    obtain ⟨rfl, rfl⟩ := List.cons.inj same
    exact fits
  · exact fun fits => ⟨loop, below, parked, fits⟩

end Parking

/-- Where a thread stands and what its loop state is. -/
structure Mark where
  /-- The top of its stack. -/
  top : Option FrameId
  /-- Its loop state. -/
  loop : LoopState
  deriving DecidableEq

namespace Block

/-- Where a thread of a block stands. -/
def mark (block : Block) (tid : Nat) : Mark :=
  ⟨(block.state.thread tid).top, (block.state.thread tid).loop⟩

/-- Every call of the schedule returns, and every exit brings its thread back to the mark the thread
had at the matching entry. `marks` are those of the regions that are open. -/
def Restores : (Nat → List Mark) → List (Nat × SerialCall) → Block → Prop
  | _, [], _ => True
  | marks, (lane, .enter) :: calls, block =>
    ∃ after, beginSerial lane block = .ok () after ∧
      Restores (Function.update marks (block.layout.owner lane)
        (block.mark (block.layout.owner lane) :: marks (block.layout.owner lane))) calls after
  | marks, (lane, .leave) :: calls, block =>
    ∃ after mark below, endSerial lane block = .ok () after ∧
      marks (block.layout.owner lane) = mark :: below ∧
      after.mark (block.layout.owner lane) = mark ∧
      Restores (Function.update marks (block.layout.owner lane) below) calls after
  | marks, (lane, .setLoop loop) :: calls, block =>
    ∃ after, setLoop lane loop block = .ok () after ∧ Restores marks calls after

/-- Whether the counter of serialized regions can count the entries of a schedule. -/
def RoomFor (block : Block) (schedule : List (Nat × SerialCall)) : Prop :=
  Ledger.enters schedule = 0 ∨
    block.counters.serialized + Ledger.enters schedule < UInt32.size

/-! ## Frames pushed by entering -/

/-- The frames of a stack were pushed one by one on entering at the marks: each is a team of one,
the frame below it is the top of its mark, and the loop state of the mark is parked there unless
that is the outermost frame. -/
def Held (arena : FrameArena) : List FrameId → List Mark → Prop
  | [], [] => True
  | id :: ids, mark :: marks =>
    mark.top = some (ids.headD baseId) ∧
      (∃ frame, arena.get? id = some frame ∧ frame.rank = 0 ∧ frame.teamSize = 1) ∧
      (∀ next, ids.head? = some next →
        ∃ frame, arena.get? next = some frame ∧ frame.parkedLoop = some mark.loop) ∧
      Held arena ids marks
  | _, _ => False

variable {block after : Block} {arena arena' : FrameArena} {stackOf : Nat → List FrameId}
  {marks : Nat → List Mark} {p : Parking} {ledger : Ledger} {tid lane : Nat} {id : FrameId}
  {ids : List FrameId} {frame next : Frame} {loop : LoopState}

theorem Held.length_eq {below : List Mark} (h : Held arena ids below) :
    ids.length = below.length := by
  induction ids generalizing below with
  | nil =>
    cases below with
    | nil => rfl
    | cons mark below => exact h.elim
  | cons id ids ih =>
    cases below with
    | nil => exact h.elim
    | cons mark below => exact congrArg (· + 1) (ih h.2.2.2)

/-- What is parked in the top frame does not matter, nor do frames outside the stack. -/
theorem Held.congr {below : List Mark} (h : Held arena ids below)
    (head : ∀ id, ids.head? = some id → ∀ frame, arena.get? id = some frame →
      ∃ frame', arena'.get? id = some frame' ∧ frame'.rank = frame.rank ∧
        frame'.teamSize = frame.teamSize)
    (tail : ∀ id ∈ ids.tail, arena'.get? id = arena.get? id) : Held arena' ids below := by
  induction ids generalizing below with
  | nil =>
    cases below with
    | nil => trivial
    | cons mark below => exact h.elim
  | cons id ids ih =>
    cases below with
    | nil => exact h.elim
    | cons mark below =>
      obtain ⟨top, ⟨frame, hframe, rank, teamSize⟩, parked, rest⟩ := h
      have same (next : FrameId) (member : next ∈ ids) : arena'.get? next = arena.get? next :=
        tail next member
      refine ⟨top, ?_, fun next first => ?_, ih rest (fun next first frame hframe => ?_) ?_⟩
      · obtain ⟨frame', hframe', rank', teamSize'⟩ := head id rfl frame hframe
        exact ⟨frame', hframe', rank'.trans rank, teamSize'.trans teamSize⟩
      · rw [same next (List.mem_of_mem_head? first)]
        exact parked next first
      · rw [same next (List.mem_of_mem_head? first)]
        exact ⟨frame, hframe, rfl, rfl⟩
      · exact fun next member => same next (List.mem_of_mem_tail member)

/-- Leaving puts a thread on the frame below with the loop state it takes. -/
theorem mark_closeSerial (bound : tid < block.state.threads.size) (top below : FrameId)
    (loop : LoopState) :
    mark { block with state := block.state.closeSerial tid top below loop } tid =
      ⟨some below, loop⟩ := by
  have thread : (block.state.closeSerial tid top below loop).thread tid =
      { block.state.thread tid with top := some below, loop } :=
    BlockState.thread_closeSerial_self bound
  rw [mark, thread]

/-- The frames of other threads are not the one a thread stands on. -/
theorem Stacked.ne_top {other : Nat} (h : Stacked stackOf block) (bound : tid < block.layout.size)
    (inside : other < block.layout.size) (ne : other ≠ tid) (member : id ∈ stackOf other) :
    id ≠ (stackOf tid).headD baseId := by
  intro same
  cases stack : stackOf tid with
  | nil =>
    have isBase : id = baseId := by rw [same, stack]; rfl
    exact h.baseId_not_mem inside (isBase ▸ member)
  | cons top below =>
    rw [stack] at same
    have mine : id ∈ stackOf tid := by
      rw [stack, same]
      exact List.mem_cons_self
    exact h.disjoint other inside tid bound ne member mine

/-- The frames further down a stack are other frames than its top. -/
theorem Stacked.ne_top_of_mem_tail (h : Stacked stackOf block) (bound : tid < block.layout.size)
    (member : id ∈ (stackOf tid).tail) : id ≠ (stackOf tid).headD baseId := by
  cases stack : stackOf tid with
  | nil =>
    rw [stack] at member
    cases member
  | cons top below =>
    rw [stack] at member
    exact ne_of_mem_below h bound stack member

/-- A thread with a frame of its own does not stand on the outermost one. -/
theorem Stacked.baseId_ne_top (h : Stacked stackOf block) (bound : tid < block.layout.size)
    (some : stackOf tid ≠ []) : baseId ≠ (stackOf tid).headD baseId := by
  have outside := h.baseId_not_mem bound
  cases stack : stackOf tid with
  | nil => exact absurd stack some
  | cons top below =>
    rw [stack] at outside
    exact fun same => outside (same ▸ List.mem_cons_self)

/-! ## The state of a schedule that fits so far -/

/-- A thread that has the regions of `marks` open and parked what `parked` says, counted as `count`.
-/
structure Nests (block : Block) (tid : Nat) (stack : List FrameId) (marks : List Mark)
    (loop : LoopState) (parked : List LoopState) (count : Nat) : Prop where
  loop_eq : (block.state.thread tid).loop = loop
  saved : marks.map Mark.loop = parked
  counted : count = parked.length
  held : Held block.state.arena stack marks
  /-- It is not a member of a first-level team. -/
  aloft : homeId tid ∉ stack

/-- All threads of a block have the regions of `marks` open, and parked what `p` says. -/
structure Parks (stackOf : Nat → List FrameId) (marks : Nat → List Mark) (p : Parking)
    (ledger : Ledger) (block : Block) : Prop where
  stacked : Stacked stackOf block
  nests : ∀ tid, tid < block.layout.size →
    Nests block tid (stackOf tid) (marks tid) (p.loops tid) (p.parked tid) (ledger.opened tid)
  shared : ∃ base, block.state.arena.get? baseId = some base ∧ base.parkedLoop = p.shared

namespace Parks

variable (h : Parks stackOf marks p ledger block) (bound : tid < block.layout.size)

include h

include bound in
/-- A thread without open regions stands on the outermost frame. -/
theorem parked_eq_nil_iff : p.parked tid = [] ↔ stackOf tid = [] := by
  have nests := h.nests tid bound
  rw [← nests.saved, List.map_eq_nil_iff, ← List.length_eq_zero_iff, ← nests.held.length_eq,
    List.length_eq_zero_iff]

/-- **What one thread does** is no business of the others, but for the shared place. -/
theorem replace {stack : List FrameId} {own : List Mark} {p' : Parking} {ledger' : Ledger}
    (layout : after.layout = block.layout)
    (stacked : Stacked (Function.update stackOf tid stack) after)
    (others : ∀ other, other ≠ tid → after.state.thread other = block.state.thread other)
    (frames : ∀ other, other < block.layout.size → other ≠ tid → ∀ id ∈ stackOf other,
      after.state.arena.get? id = block.state.arena.get? id)
    (kept : ∀ other, other ≠ tid → p'.loops other = p.loops other ∧
      p'.parked other = p.parked other ∧ ledger'.opened other = ledger.opened other)
    (nests : Nests after tid stack own (p'.loops tid) (p'.parked tid) (ledger'.opened tid))
    (shared : ∃ base, after.state.arena.get? baseId = some base ∧ base.parkedLoop = p'.shared) :
    Parks (Function.update stackOf tid stack) (Function.update marks tid own) p' ledger' after := by
  refine ⟨stacked, fun other inside => ?_, shared⟩
  rw [layout] at inside
  by_cases same : other = tid
  · rw [same, Function.update_self, Function.update_self]
    exact nests
  · obtain ⟨loops, parked, opened⟩ := kept other same
    obtain ⟨loop_eq, saved, counted, held, aloft⟩ := h.nests other inside
    rw [Function.update_of_ne same, Function.update_of_ne same, loops, parked, opened]
    refine ⟨by rw [others other same, loop_eq], saved, counted, held.congr ?_ ?_, aloft⟩
    · intro id first frame hframe
      rw [frames other inside same id (List.mem_of_mem_head? first)]
      exact ⟨frame, hframe, rfl, rfl⟩
    · exact fun id member => frames other inside same id (List.mem_of_mem_tail member)

include bound

/-- **Entering** parks the loop state of the thread. -/
theorem enter {top : FrameId} (htop : (stackOf tid).headD baseId = top)
    (hframe : block.state.arena.get? top = some frame) :
    Parks (Function.update stackOf tid (block.state.arena.nextId :: stackOf tid))
      (Function.update marks tid (block.mark tid :: marks tid)) (p.enter tid) (ledger.enter tid)
      (block.entered tid top frame) := by
  have stacked := h.stacked
  have empty := h.parked_eq_nil_iff bound
  obtain ⟨loop_eq, saved, counted, held, aloft⟩ := h.nests tid bound
  have opened := stacked.opened bound (htop.symm ▸ hframe)
  rw [htop] at opened
  have self : (block.entered tid top frame).state.thread tid =
      { block.state.thread tid with top := some block.state.arena.nextId } :=
    BlockState.thread_openSerial_self (stacked.lt_threads bound)
  have get (id : FrameId) : (block.entered tid top frame).state.arena.get? id =
      if id = block.state.arena.nextId then some (frame.serialized top)
      else if id = top then
        (block.state.arena.get? id).map
          ({ · with parkedLoop := some (block.state.thread tid).loop })
      else block.state.arena.get? id := BlockState.get?_openSerial stacked.sound
  have old {other : Nat} (inside : other < block.layout.size) {id : FrameId}
      (member : id ∈ stackOf other) : id ≠ block.state.arena.nextId :=
    stacked.sound.ne_nextId (stacked.isLive_of_mem inside member)
  have parkedIn : (block.entered tid top frame).state.arena.get? top =
      some { frame with parkedLoop := some (block.state.thread tid).loop } := by
    rw [get, if_neg (stacked.sound.ne_nextId (FrameArena.isLive_of_get? hframe)), if_pos rfl,
      hframe]
    rfl
  have isTop {id : FrameId} (first : (stackOf tid).head? = some id) : top = id := by
    rw [← htop, List.headD_eq_head?_getD, first, Option.getD_some]
  refine h.replace rfl (stacked.replace bound opened)
    (fun _ ne => BlockState.thread_openSerial_of_ne ne) ?_ ?_ ⟨?_, ?_, ?_, ?_, ?_⟩ ?_
  · -- the frames of the others are neither new nor the one the thread stood on
    intro other inside ne id member
    rw [get, if_neg (old inside member), if_neg (htop ▸ stacked.ne_top bound inside ne member)]
  · intro other ne
    exact ⟨rfl, Function.update_of_ne ne _ _, Function.update_of_ne ne _ _⟩
  · exact (congrArg Thread.loop self).trans loop_eq
  · rw [Parking.parked_enter_self, List.map_cons, saved, mark, loop_eq]
  · rw [Ledger.opened_enter_self, Parking.parked_enter_self, List.length_cons, counted]
  · refine ⟨htop ▸ stacked.tops tid bound, ⟨_, (get _).trans (if_pos rfl), rfl, rfl⟩, ?_, ?_⟩
    · intro next first
      obtain rfl := isTop first
      exact ⟨_, parkedIn, rfl⟩
    · refine held.congr (fun id first frame' hframe' => ?_) fun id member => ?_
      · obtain rfl := isTop first
        obtain rfl : frame' = frame := Option.some.inj (hframe'.symm.trans hframe)
        exact ⟨_, parkedIn, rfl, rfl⟩
      · have below := stacked.ne_top_of_mem_tail bound member
        rw [get, if_neg (old bound (List.mem_of_mem_tail member)), if_neg (htop ▸ below)]
  · intro member
    rcases List.mem_cons.1 member with same | member
    · exact stacked.sound.ne_nextId (stacked.isLive_homeId bound) same
    · exact aloft member
  · -- the shared place changes for a thread that stood on the outermost frame
    obtain ⟨base, hbase, parked⟩ := h.shared
    by_cases outside : stackOf tid = []
    · obtain rfl : baseId = top := by rw [← htop, outside]; rfl
      refine ⟨_, parkedIn, ?_⟩
      rw [Parking.enter, if_pos (empty.2 outside), loop_eq]
    · have notTop := htop ▸ stacked.baseId_ne_top bound outside
      have notNew := stacked.sound.ne_nextId (FrameArena.isLive_of_get? hbase)
      refine ⟨base, ?_, ?_⟩
      · rw [get, if_neg notNew, if_neg notTop, hbase]
      · rw [Parking.enter, if_neg (mt empty.1 outside), parked]

/-- **Leaving** takes the loop state parked in the frame below. -/
theorem leave {below : List Mark} {mark : Mark} (stack : stackOf tid = id :: ids)
    (open' : marks tid = mark :: below) :
    Parks (Function.update stackOf tid ids) (Function.update marks tid below)
      (p.leave tid loop (below.map Mark.loop)) (ledger.leave tid below.length)
      { block with state := block.state.closeSerial tid id (ids.headD baseId) loop } := by
  have stacked := h.stacked
  obtain ⟨loop_eq, saved, counted, held, aloft⟩ := h.nests tid bound
  rw [stack] at held aloft
  rw [open'] at held
  have notHome : id ≠ homeId tid := fun same => aloft (same ▸ List.mem_cons_self)
  have distinct := stacked.headD_ne bound stack
  have closed : Restacked stackOf tid ids block
      { block with state := block.state.closeSerial tid id (ids.headD baseId) loop } :=
    stacked.closed bound stack notHome
  have self : (block.state.closeSerial tid id (ids.headD baseId) loop).thread tid =
      { block.state.thread tid with top := some (ids.headD baseId), loop } :=
    BlockState.thread_closeSerial_self (stacked.lt_threads bound)
  have get {other : FrameId} (ne : other ≠ id) :
      (block.state.closeSerial tid id (ids.headD baseId) loop).arena.get? other =
        if other = ids.headD baseId then
          (block.state.arena.get? other).map ({ · with parkedLoop := none })
        else block.state.arena.get? other := by
    rw [BlockState.get?_closeSerial, FrameArena.get?_release_of_ne ne, if_neg ne]
  have nodup := stacked.nodup tid bound
  have base := stacked.baseId_not_mem bound
  rw [stack] at nodup base
  have notTop {other : FrameId} (member : other ∈ ids) : other ≠ id := by
    rintro rfl
    exact (List.nodup_cons.1 nodup).1 member
  have isHead {next : FrameId} (first : ids.head? = some next) : ids.headD baseId = next := by
    rw [List.headD_eq_head?_getD, first, Option.getD_some]
  refine h.replace rfl (stacked.replace bound closed) closed.others ?_ ?_ ⟨?_, ?_, ?_, ?_, ?_⟩ ?_
  · -- neither the old top nor the frame below it is another thread's
    intro other inside ne own member
    have notMine : own ∉ stackOf tid := stacked.disjoint other inside tid bound ne member
    rw [stack] at notMine
    have notBelow : own ≠ ids.headD baseId := by
      rintro rfl
      cases ids with
      | nil => exact stacked.baseId_not_mem inside member
      | cons next ids => exact notMine (List.mem_cons_of_mem id List.mem_cons_self)
    exact (get fun same => notMine (same ▸ List.mem_cons_self)).trans (if_neg notBelow)
  · intro other ne
    exact ⟨Function.update_of_ne ne _ _, Function.update_of_ne ne _ _, Function.update_of_ne ne _ _⟩
  · exact (congrArg Thread.loop self).trans (Parking.loops_leave_self ..).symm
  · exact (Parking.parked_leave_self ..).symm
  · rw [Ledger.opened_leave_self, Parking.parked_leave_self, List.length_map]
  · refine held.2.2.2.congr (fun next first frame hframe => ?_) fun other member => ?_
    · obtain rfl := isHead first
      have inside : ids.headD baseId ∈ ids := List.mem_of_mem_head? first
      refine ⟨{ frame with parkedLoop := none }, ?_, rfl, rfl⟩
      refine (get (notTop inside)).trans ((if_pos rfl).trans ?_)
      rw [hframe]
      rfl
    · have inside := List.mem_of_mem_tail member
      refine (get (notTop inside)).trans (if_neg ?_)
      rintro rfl
      cases ids with
      | nil => cases member
      | cons next ids =>
        exact (List.nodup_cons.1 (List.nodup_cons.1 nodup).2).1 member
  · exact fun member => aloft (List.mem_cons_of_mem id member)
  · -- the shared place is emptied if the thread is back on the outermost frame
    obtain ⟨outermost, hbase, parked⟩ := h.shared
    have notBase : baseId ≠ id := fun same => base (same ▸ List.mem_cons_self)
    have lengths := held.2.2.2.length_eq
    cases ids with
    | nil =>
      obtain rfl : below = [] := List.length_eq_zero_iff.1 lengths.symm
      refine ⟨{ outermost with parkedLoop := none }, ?_, rfl⟩
      refine (get notBase).trans ((if_pos rfl).trans ?_)
      rw [hbase]
      rfl
    | cons next ids =>
      have notNext : baseId ≠ (next :: ids).headD baseId := by
        intro same
        exact base (List.mem_cons_of_mem id (same ▸ List.mem_cons_self))
      refine ⟨outermost, ((get notBase).trans (if_neg notNext)).trans hbase, ?_⟩
      cases below with
      | nil => cases lengths
      | cons mark' below => exact parked

/-- A new loop state parks nothing. -/
theorem setLoop (loop : LoopState) :
    Parks stackOf marks { p with loops := Function.update p.loops tid loop } ledger
      { block with state := block.state.modifyThread tid ({ · with loop }) } := by
  have stacked := h.stacked
  have nests := h.nests tid bound
  have self : (block.state.modifyThread tid ({ · with loop })).thread tid =
      { block.state.thread tid with loop } :=
    BlockState.thread_modifyThread_self (stacked.lt_threads bound)
  have shape : SameShape block
      { block with state := block.state.modifyThread tid ({ · with loop }) } :=
    .modifyThread stacked.sound _ (fun _ => by constructor <;> rfl) tid
  have stacked' := stacked.congr shape stacked.template
  rw [← Function.update_eq_self tid stackOf] at stacked'
  have replaced : Parks (Function.update stackOf tid (stackOf tid))
      (Function.update marks tid (marks tid)) { p with loops := Function.update p.loops tid loop }
      ledger { block with state := block.state.modifyThread tid ({ · with loop }) } := by
    refine h.replace rfl stacked' (fun _ ne => BlockState.thread_modifyThread_of_ne ne)
      (fun _ _ _ _ _ => rfl) (fun _ ne => ⟨Function.update_of_ne ne _ _, rfl, rfl⟩) ?_ h.shared
    refine ⟨?_, nests.saved, nests.counted, nests.held, nests.aloft⟩
    exact (congrArg Thread.loop self).trans (Function.update_self tid loop p.loops).symm
  rwa [Function.update_eq_self, Function.update_eq_self] at replaced

/-- What a thread finds on leaving: the frame it stands on was pushed by entering, if anything is
parked in the frame below. There lies what the thread has parked; on the outermost frame it is what
anybody has. -/
theorem exists_parked {below : List Mark} {mark : Mark} (stack : stackOf tid = id :: ids)
    (open' : marks tid = mark :: below) :
    mark.top = some (ids.headD baseId) ∧ ∃ frame next, block.state.arena.get? id = some frame ∧
      frame.parent = some (ids.headD baseId) ∧
      block.state.arena.get? (ids.headD baseId) = some next ∧
      frame.serializedOn next = next.parkedLoop.isSome ∧
      ((below = [] → p.shared = some mark.loop) ↔ next.parkedLoop = some mark.loop) := by
  have stacked := h.stacked
  have linked := stacked.linked tid bound
  have held := (h.nests tid bound).held
  rw [stack] at linked held
  rw [open'] at held
  obtain ⟨top, ⟨frame, hframe, rank, teamSize⟩, parked, rest⟩ := held
  obtain ⟨frame', hframe', parent, depth⟩ := FrameArena.linkOf_eq_some.1 linked.1
  obtain rfl : frame = frame' := Option.some.inj (hframe.symm.trans hframe')
  obtain ⟨lower, link⟩ := linked.2.exists_link_head stacked.base
  obtain ⟨next, hnext, -, depth'⟩ := FrameArena.linkOf_eq_some.1 link
  refine ⟨top, frame, next, hframe, parent, hnext, ?_, ?_⟩
  · -- the frame is a team of one, nested one deeper than the frame below
    rw [Frame.serializedOn, rank, teamSize, depth, depth', Nesting.deeper_ofLevel]
    simp
  · cases ids with
    | nil =>
      obtain rfl : below = [] := List.length_eq_zero_iff.1 rest.length_eq.symm
      obtain ⟨base, hbase, shared⟩ := h.shared
      obtain rfl : next = base := Option.some.inj (hnext.symm.trans hbase)
      rw [shared, forall_prop_of_true rfl]
    | cons upper ids =>
      obtain ⟨frame', hframe', parked⟩ := parked upper rfl
      obtain rfl : next = frame' := Option.some.inj (hnext.symm.trans hframe')
      have some : below ≠ [] := by
        rintro rfl
        cases rest.length_eq
      exact ⟨fun _ => parked, fun _ none => absurd none some⟩

end Parks

/-! ## Whether a schedule restores

The call that comes first either stops, and then the schedule does not restore, or it leads on to
the calls after it. -/

section Restores

variable {calls : List (Nat × SerialCall)} (h : Parks stackOf marks p ledger block)
  (inside : lane < block.layout.size) (owner : block.layout.owner lane = tid)

include h inside owner

theorem Parks.restores_enter :
    ∃ after, (Restores marks ((lane, .enter) :: calls) block ↔
        block.counters.serialized + 1 < UInt32.size ∧
          Restores (Function.update marks tid (block.mark tid :: marks tid)) calls after) ∧
      (∃ stackOf', Parks stackOf' (Function.update marks tid (block.mark tid :: marks tid))
        (p.enter tid) (ledger.enter tid) after) ∧
      after.layout = block.layout ∧
      after.counters.serialized = block.counters.serialized + 1 := by
  have bound : tid < block.layout.size := owner ▸ BlockLayout.owner_lt inside
  have threadOf : block.layout.threadOf lane = .ok tid := owner ▸ h.stacked.maps.threadOf_eq lane
  obtain ⟨frame, hframe, -⟩ := h.stacked.exists_top bound
  refine ⟨_, ?_, ⟨_, h.enter bound rfl hframe⟩, rfl, rfl⟩
  rw [Restores, owner]
  by_cases room : block.counters.serialized + 1 < UInt32.size
  · have run := beginSerial_of_room inside threadOf h.stacked.initialized (h.stacked.tops _ bound)
      hframe room
    simp [run, room]
  · have run := beginSerial_of_full inside threadOf (Nat.le_of_not_lt room)
    simp [run, room]

theorem Parks.restores_leave {mark : Mark} {below : List Mark}
    (open' : marks tid = mark :: below) :
    ∃ after, (Restores marks ((lane, .leave) :: calls) block ↔
        (below = [] → p.shared = some mark.loop) ∧
          Restores (Function.update marks tid below) calls after) ∧
      (∃ stackOf', Parks stackOf' (Function.update marks tid below)
        (p.leave tid mark.loop (below.map Mark.loop)) (ledger.leave tid below.length) after) ∧
      after.layout = block.layout ∧ after.counters = block.counters := by
  have stacked := h.stacked
  have bound : tid < block.layout.size := owner ▸ BlockLayout.owner_lt inside
  have threadOf : block.layout.threadOf lane = .ok tid := owner ▸ stacked.maps.threadOf_eq lane
  have nests := h.nests tid bound
  obtain ⟨id, ids, stack⟩ : ∃ id ids, stackOf tid = id :: ids := by
    have lengths := nests.held.length_eq
    rw [open'] at lengths
    exact List.exists_cons_of_length_eq_add_one lengths
  obtain ⟨top, frame, next, hframe, parent, hnext, serialized, fits⟩ :=
    h.exists_parked bound stack open'
  have htop : (block.state.thread tid).top = some id := by
    rw [stacked.tops tid bound, stack]
    rfl
  have notHome : (block.state.thread tid).home ≠ some id := by
    rw [stacked.homes tid bound]
    intro same
    exact nests.aloft (Option.some.inj same ▸ stack ▸ List.mem_cons_self)
  refine ⟨_, ?_, ⟨_, h.leave bound stack open'⟩, rfl, rfl⟩
  rw [Restores, owner, fits]
  cases found : next.parkedLoop with
  | none =>
    -- nothing is parked, so the thread is refused
    have run := endSerial_of_not_serialized inside threadOf stacked.initialized
      ((BlockState.topIsSerialized_of_parent htop notHome hframe parent hnext).trans
        (by rw [serialized, found]; rfl))
    simp [run]
  | some loop =>
    have run := endSerial_of_serializedOn inside threadOf stacked.initialized htop notHome hframe
      parent hnext (stacked.headD_ne bound stack) (by rw [serialized, found]; rfl) found
    have back := mark_closeSerial (stacked.lt_threads bound) id (ids.headD baseId) loop
    rw [Option.some.injEq]
    constructor
    · rintro ⟨after, mark', below', ends, marked, same, rest⟩
      rw [run] at ends
      cases ends
      rw [open'] at marked
      obtain ⟨rfl, rfl⟩ := List.cons.inj marked
      rw [back] at same
      subst same
      exact ⟨rfl, rest⟩
    · rintro ⟨rfl, rest⟩
      refine ⟨_, mark, below, run, open', ?_, rest⟩
      rw [back, ← top]

theorem Parks.restores_setLoop :
    ∃ after, (Restores marks ((lane, .setLoop loop) :: calls) block ↔ Restores marks calls after) ∧
      (∃ stackOf', Parks stackOf' marks
        { p with loops := Function.update p.loops tid loop } ledger after) ∧
      after.layout = block.layout ∧ after.counters = block.counters := by
  have bound : tid < block.layout.size := owner ▸ BlockLayout.owner_lt inside
  have threadOf : block.layout.threadOf lane = .ok tid := owner ▸ h.stacked.maps.threadOf_eq lane
  refine ⟨_, ?_, ⟨_, h.setLoop bound loop⟩, rfl, rfl⟩
  have run : Block.setLoop lane loop block = _ := setLoop_eq_ok inside threadOf
  rw [Restores]
  simp [run]

end Restores

/-- **A schedule restores exactly if it fits** and the counter of serialized regions has room. -/
theorem Parks.restores_iff (schedule : List (Nat × SerialCall)) :
    ∀ {stackOf : Nat → List FrameId} {marks : Nat → List Mark} {p : Parking} {ledger : Ledger}
      {block : Block}, Parks stackOf marks p ledger block →
      Ledger.Accepts block.layout ledger schedule →
      (Restores marks schedule block ↔ block.RoomFor schedule ∧ p.Fits block.layout schedule) := by
  -- by induction on the schedule; `Parks` is what every call that fits keeps
  induction schedule with
  | nil =>
    intro stackOf marks p ledger block _ _
    simp [Restores, Parking.Fits, RoomFor, Ledger.enters]
  | cons first calls ih =>
    intro stackOf marks p ledger block h accepts
    obtain ⟨lane, call⟩ := first
    obtain ⟨accepted, later⟩ := accepts
    have inside := Ledger.lt_size_of_accepted accepted
    rw [Ledger.step, if_pos inside] at accepted later
    have bound := BlockLayout.owner_lt inside
    cases call with
    | enter =>
      obtain ⟨after, restores, ⟨stackOf', parks⟩, layout, counted⟩ := h.restores_enter inside rfl
      have rest := ih parks
      rw [layout, RoomFor, counted] at rest
      have count : Ledger.enters ((lane, .enter) :: calls) = Ledger.enters calls + 1 := by
        simp [Ledger.enters]
      have room : block.RoomFor ((lane, .enter) :: calls) ↔
          block.counters.serialized + 1 < UInt32.size ∧ (Ledger.enters calls = 0 ∨
            block.counters.serialized + 1 + Ledger.enters calls < UInt32.size) := by
        rw [RoomFor, count]
        omega
      rw [restores, rest later, room, Parking.Fits, and_assoc]
    | leave =>
      have nests := h.nests _ bound
      obtain ⟨left, opened, acted⟩ := Ledger.exists_left_of_accepted accepted
      have counted := nests.counted
      rw [opened, ← nests.saved, List.length_map] at counted
      obtain ⟨mark, below, open'⟩ := List.exists_cons_of_length_eq_add_one counted.symm
      rw [open', List.length_cons, Nat.add_right_cancel_iff] at counted
      rw [acted, counted] at later
      obtain ⟨after, restores, ⟨stackOf', parks⟩, layout, counters⟩ :=
        h.restores_leave inside rfl open'
      have rest := ih parks
      rw [layout, RoomFor, counters] at rest
      have parked : p.parked (block.layout.owner lane) = mark.loop :: below.map Mark.loop := by
        rw [← nests.saved, open', List.map_cons]
      have count : Ledger.enters ((lane, .leave) :: calls) = Ledger.enters calls := by
        simp [Ledger.enters]
      rw [restores, rest later, RoomFor, count, Parking.fits_leave calls parked,
        List.map_eq_nil_iff]
      exact and_left_comm
    | setLoop loop =>
      obtain ⟨after, restores, ⟨stackOf', parks⟩, layout, counters⟩ :=
        h.restores_setLoop inside rfl
      have rest := ih parks
      rw [layout, RoomFor, counters] at rest
      have count : Ledger.enters ((lane, .setLoop loop) :: calls) = Ledger.enters calls := by
        simp [Ledger.enters]
      rw [restores, rest later, RoomFor, count, Parking.Fits]

end Block

/-! ## Schedules that leave all their regions -/

namespace Parking

variable {layout : BlockLayout} {p : Parking} {ledger : Ledger} {lane tid : Nat} {loop : LoopState}
  {below : List LoopState}

/-- The ledger counts what is parked. -/
def Counted (p : Parking) (ledger : Ledger) : Prop :=
  ∀ tid, ledger.opened tid = (p.parked tid).length

theorem Counted.enter (h : Counted p ledger) (tid : Nat) :
    Counted (p.enter tid) (ledger.enter tid) := by
  intro other
  by_cases same : other = tid
  · subst same
    rw [Ledger.opened_enter_self, parked_enter_self, List.length_cons, h other]
  · rw [Ledger.opened_enter_of_ne same, parked_enter_of_ne same, h other]

theorem Counted.leave (h : Counted p ledger) (tid : Nat) (loop : LoopState)
    (below : List LoopState) :
    Counted (p.leave tid loop below) (ledger.leave tid below.length) := by
  intro other
  by_cases same : other = tid
  · subst same
    rw [Ledger.opened_leave_self, parked_leave_self]
  · rw [Ledger.opened_leave_of_ne same, parked_leave_of_ne same, h other]

/-- What an accepted exit finds: the thread has parked something, and the ledger counts the rest. -/
theorem Counted.exists_parked (h : Counted p ledger)
    (accepted : (ledger.act tid .leave).1 = .ok ()) :
    ∃ loop below, p.parked tid = loop :: below ∧
      (ledger.act tid .leave).2 = ledger.leave tid below.length := by
  obtain ⟨left, opened, after⟩ := Ledger.exists_left_of_accepted accepted
  have counted := (h tid).symm.trans opened
  obtain ⟨loop, below, parked⟩ := List.exists_cons_of_length_eq_add_one counted
  rw [parked, List.length_cons, Nat.add_right_cancel_iff] at counted
  exact ⟨loop, below, parked, counted ▸ after⟩

/-- **If every exit finds its own** and all regions are left in the end, no two threads have regions
open at the same time: each outermost exit empties the shared place, and while two threads have
regions open one of them is bound to find it empty. -/
theorem apart_of_fits (schedule : List (Nat × SerialCall)) :
    ∀ {p : Parking} {ledger : Ledger}, Counted p ledger → ledger.Accepts layout schedule →
      (∀ tid, (ledger.run layout schedule).2.opened tid = 0) → p.Fits layout schedule →
      ledger.Apart layout schedule ∧ (p.shared = none → ∀ tid, ledger.opened tid = 0) := by
  -- by induction on the schedule; seen from its end, nothing is open where the shared place is
  -- empty
  induction schedule with
  | nil =>
    intro p ledger counted _ closed _
    refine ⟨fun tid other opened => ?_, fun _ => closed⟩
    have none : ledger.opened tid = 0 := closed tid
    omega
  | cons first calls ih =>
    intro p ledger counted accepts closed fits
    obtain ⟨lane, call⟩ := first
    obtain ⟨accepted, later⟩ := accepts
    have inside := Ledger.lt_size_of_accepted accepted
    simp only [Ledger.run] at closed
    rw [Ledger.Apart]
    rw [Ledger.step, if_pos inside] at accepted later closed ⊢
    generalize htid : layout.owner lane = tid at accepted later closed
    cases call with
    | enter =>
      rw [Fits, htid] at fits
      obtain ⟨apart, empty⟩ := ih (counted.enter tid) later closed fits
      have alone {other : Nat} (opened : 0 < ledger.opened other) : other = tid :=
        apart.single.eq_of_enter opened
      refine ⟨⟨fun one other mine yours => (alone mine).trans (alone yours).symm, apart⟩, ?_⟩
      intro none other
      by_cases outermost : p.parked tid = []
      · -- the thread itself has nothing open yet
        by_contra some
        have own := counted tid
        obtain rfl := alone (Nat.pos_of_ne_zero some)
        rw [outermost] at own
        exact some own
      · have shared : (p.enter tid).shared = p.shared := if_neg outermost
        have now := empty (shared.trans none) tid
        rw [Ledger.opened_enter_self] at now
        cases now
    | leave =>
      obtain ⟨loop, below, parked, left⟩ := counted.exists_parked accepted
      subst htid
      rw [fits_leave calls parked] at fits
      rw [left] at later closed ⊢
      obtain ⟨apart, empty⟩ := ih (counted.leave _ loop below) later closed fits.2
      generalize layout.owner lane = tid at *
      by_cases outermost : below = []
      · -- the exit empties the shared place, so nobody else has a region open
        have none := empty (if_pos outermost)
        have alone {other : Nat} (opened : 0 < ledger.opened other) : other = tid := by
          by_contra ne
          rw [← Ledger.opened_leave_of_ne ne, none other] at opened
          cases opened
        refine ⟨⟨fun one other mine yours => (alone mine).trans (alone yours).symm, apart⟩, ?_⟩
        intro vacant
        rw [fits.1 outermost] at vacant
        cases vacant
      · have deep : 0 < below.length := List.length_pos_of_ne_nil outermost
        have still {other : Nat} (opened : 0 < ledger.opened other) :
            0 < (ledger.leave tid below.length).opened other := by
          by_cases same : other = tid
          · rwa [same, Ledger.opened_leave_self]
          · rwa [Ledger.opened_leave_of_ne same]
        refine ⟨⟨fun one other mine yours => apart.single one other (still mine) (still yours),
          apart⟩, fun vacant => ?_⟩
        have shared : (p.leave tid loop below).shared = p.shared := if_neg outermost
        have now := empty (shared.trans vacant) tid
        rw [Ledger.opened_leave_self] at now
        omega
    | setLoop loop =>
      rw [Fits, htid] at fits
      have kept : Counted { p with loops := Function.update p.loops tid loop } ledger := counted
      obtain ⟨apart, empty⟩ := ih kept later closed fits
      exact ⟨⟨apart.single, apart⟩, empty⟩

/-- **If no two threads have regions open at the same time**, every exit finds its own. -/
theorem fits_of_apart (schedule : List (Nat × SerialCall)) :
    ∀ {p : Parking} {ledger : Ledger}, Counted p ledger →
      (∀ tid, p.parked tid ≠ [] → p.shared = (p.parked tid).getLast?) →
      ledger.Accepts layout schedule → ledger.Apart layout schedule → p.Fits layout schedule := by
  -- by induction on the schedule; the shared place holds what the one thread inside has parked
  -- there
  induction schedule with
  | nil => exact fun _ _ _ _ => trivial
  | cons first calls ih =>
    intro p ledger counted own accepts apart
    obtain ⟨lane, call⟩ := first
    obtain ⟨accepted, later⟩ := accepts
    obtain ⟨single, apart⟩ := apart
    have inside := Ledger.lt_size_of_accepted accepted
    rw [Ledger.step, if_pos inside] at accepted later apart
    have opened_of {tid : Nat} (some : p.parked tid ≠ []) : 0 < ledger.opened tid := by
      rw [counted tid]
      exact List.length_pos_of_ne_nil some
    cases call with
    | enter =>
      rw [Fits]
      generalize layout.owner lane = tid at *
      refine ih (counted.enter tid) (fun other some => ?_) later apart
      by_cases same : other = tid
      · subst same
        rw [parked_enter_self, Parking.enter]
        by_cases outermost : p.parked other = []
        · rw [if_pos outermost, outermost]
          rfl
        · rw [if_neg outermost, own other outermost]
          obtain ⟨loop, below, parked⟩ := List.exists_cons_of_ne_nil outermost
          rw [parked, List.getLast?_cons_cons]
      · rw [parked_enter_of_ne same] at some
        exact absurd (apart.single.eq_of_enter (opened_of some)) same
    | leave =>
      obtain ⟨loop, below, parked, left⟩ := counted.exists_parked accepted
      rw [left] at later apart
      rw [fits_leave calls parked]
      generalize layout.owner lane = tid at *
      have shared : p.shared = (loop :: below).getLast? := by
        rw [← parked]
        exact own tid (parked ▸ List.cons_ne_nil loop below)
      refine ⟨fun outermost => by rw [shared, outermost]; rfl, ?_⟩
      refine ih (counted.leave tid loop below) (fun other some => ?_) later apart
      by_cases same : other = tid
      · subst same
        rw [parked_leave_self] at some ⊢
        obtain ⟨loop', below', rfl⟩ := List.exists_cons_of_ne_nil some
        rw [List.getLast?_cons_cons] at shared
        exact shared
      · rw [parked_leave_of_ne same] at some
        have mine : 0 < ledger.opened tid := opened_of (parked ▸ List.cons_ne_nil loop below)
        exact absurd (single other tid (opened_of some) mine) same
    | setLoop loop => exact ih counted own later apart

end Parking

namespace Block

variable {block : Block} {stackOf : Nat → List FrameId}

/-- Nothing is parked yet. -/
def parking (block : Block) : Parking where
  loops tid := (block.state.thread tid).loop
  parked _ := []
  shared := none

/-- All threads stand on the outermost frame, and nothing is parked there. -/
structure Idle (block : Block) : Prop where
  tops : ∀ tid, tid < block.layout.size → (block.state.thread tid).top = some baseId
  vacant : ∃ base, block.state.arena.get? baseId = some base ∧ base.parkedLoop = none

theorem Stacked.parks (h : Stacked stackOf block) (idle : Idle block) :
    Parks stackOf (fun _ => []) block.parking {} block := by
  refine ⟨h, fun tid bound => ?_, idle.vacant⟩
  have alone : stackOf tid = [] := by
    by_contra some
    have top := h.tops tid bound
    rw [idle.tops tid bound, Option.some.injEq] at top
    exact h.baseId_ne_top bound some top
  rw [alone]
  exact ⟨rfl, rfl, rfl, trivial, List.not_mem_nil⟩

/-- **When serialized regions of different threads go together.** On a generic block that can be
reached and whose threads all stand on the outermost frame, a schedule in which no thread leaves
more regions than it has entered restores every thread exactly if each outermost exit finds in the
outermost frame what the thread itself has parked there, and the counter of regions has room. For a
schedule that leaves all its regions this means that no two threads have regions open at the same
time. -/
theorem restores_iff_fits {arch : Arch} {config : LaunchConfig} {new : Block}
    (valid : arch.isValid = true) (created : create arch .generic config = .ok new)
    (ops : List Operation) (reached : (run ops new).2 = block) (idle : Idle block)
    (schedule : List (Nat × SerialCall)) (accepts : Ledger.Accepts block.layout {} schedule) :
    (Restores (fun _ => []) schedule block ↔
      block.RoomFor schedule ∧ block.parking.Fits block.layout schedule) ∧
    ((∀ tid, (Ledger.run block.layout schedule {}).2.opened tid = 0) →
      (Restores (fun _ => []) schedule block ↔
        block.RoomFor schedule ∧ Ledger.Apart block.layout {} schedule)) := by
  obtain ⟨stackOf, stacked⟩ := (reaches_run ops (stacked_of_create (fun _ => valid) created
    (initialized_of_create_generic created))).stacked
  rw [reached] at stacked
  have restores := (stacked.parks idle).restores_iff schedule accepts
  have counted : block.parking.Counted {} := fun _ => rfl
  refine ⟨restores, fun closed => restores.trans (and_congr_right fun _ => ?_)⟩
  constructor
  · exact fun fits => (Parking.apart_of_fits schedule counted accepts closed fits).1
  · exact Parking.fits_of_apart schedule counted (fun _ some => absurd rfl some) accepts

/-- Two threads in turn enter and leave a region, each with its own loop state. -/
def inTurns : List (Nat × SerialCall) :=
  [(0, .setLoop { lower := 0, upper := 7, stride := 1, chunk := 1 }), (0, .enter), (0, .leave),
    (1, .enter), (1, .leave)]

/-- Two threads whose regions overlap. -/
def crossing : List (Nat × SerialCall) :=
  [(0, .setLoop { lower := 0, upper := 7, stride := 1, chunk := 1 }), (0, .enter), (1, .enter),
    (0, .leave), (1, .leave)]

theorem stacked_twoWarps : Stacked (initialStack .generic) twoWarps :=
  stacked_of_create (fun _ => by decide) create_twoWarps rfl

theorem idle_twoWarps : Idle twoWarps := by
  refine ⟨fun tid bound => ?_, .initial 0, rfl, rfl⟩
  exact congrArg Thread.top (BlockState.thread_withStacks bound)

theorem restores_inTurns : Restores (fun _ => []) inTurns twoWarps := by
  have accepts : Ledger.Accepts twoWarps.layout {} inTurns := ⟨rfl, rfl, rfl, rfl, rfl, trivial⟩
  refine (restores_iff_fits (by decide) create_twoWarps [] rfl idle_twoWarps inTurns accepts).1.2 ?_
  refine ⟨.inr (by decide), ?_⟩
  -- each thread finds the place empty when it enters, and its own loop state when it leaves
  exact ⟨_, [], rfl, fun _ => rfl, _, [], rfl, fun _ => rfl, trivial⟩

/-- Where regions of two threads overlap, the first exit brings back the loop state of the wrong
thread. -/
theorem not_restores_crossing : Idle twoWarps ∧ Ledger.Accepts twoWarps.layout {} crossing ∧
    ¬Restores (fun _ => []) crossing twoWarps := by
  have accepts : Ledger.Accepts twoWarps.layout {} crossing := ⟨rfl, rfl, rfl, rfl, rfl, trivial⟩
  refine ⟨idle_twoWarps, accepts, fun restored => ?_⟩
  have parks := stacked_twoWarps.parks idle_twoWarps
  obtain ⟨-, loop, below, parked, own, -⟩ :=
    (parks.restores_iff crossing accepts).1 restored
  obtain ⟨rfl, rfl⟩ := List.cons.inj parked
  exact absurd (own rfl) (by decide +kernel)

end Block

end RegionDispatch
