import RegionDispatch.Kernel.Region
import RegionDispatch.Proofs.Block.Control
import RegionDispatch.Proofs.Recording

/-! # Region bodies that stay on their lane

A region body sees the whole block but is meant to act on its own lane. `Region.Confined lane step`
says that a step is put together from what the lane may do: it may read anything and keep its own
data, set its loop state, its requested threads and its pending clause, run nested regions whose
bodies are confined as well, and go on after a refusal.

* **`Block.LocalChange tid top before after`** — what such a step can change: the loop state and
  hints of thread `tid`, the requested threads in its top frame, and the count of serialized
  regions.
* **`Region.Confined.leavesLocal`** — every confined step of a thread in good standing makes only a
  local change, whether it returns or is refused; frames pushed for nested regions are gone again.
  -/

namespace RegionDispatch

open Dispatch

namespace Block

/-- What a step on one lane can change, its thread being `tid` and its top frame `top`. -/
structure LocalChange (tid : Nat) (top : FrameId) (before after : Block) : Prop where
  arch : after.arch = before.arch
  layout : after.layout = before.layout
  initialized : after.initialized = before.initialized
  board : after.board = before.board
  /-- Serialized regions are the only ones that are counted. -/
  counters : after.counters =
    { before.counters with serialized := after.counters.serialized }
  size : after.state.threads.size = before.state.threads.size
  others : ∀ other, other ≠ tid → after.state.thread other = before.state.thread other
  /-- The thread stands where it stood. -/
  self : after.state.thread tid =
    { before.state.thread tid with
      pendingThreads := (after.state.thread tid).pendingThreads
      pendingSimd := (after.state.thread tid).pendingSimd
      loop := (after.state.thread tid).loop }
  sound : after.state.arena.Sound
  frames : ∀ id, id ≠ top → after.state.arena.get? id = before.state.arena.get? id
  topFrame : ∃ n, after.state.arena.get? top =
    (before.state.arena.get? top).map ({ · with nthreads := n })

/-- A lane whose thread can act: its top frame is live and holds no parked loop state, and its
first-level frame is live. -/
structure Standing (lane tid : Nat) (top : FrameId) (block : Block) : Prop where
  inside : lane < block.layout.size
  owner : block.layout.threadOf lane = .ok tid
  initialized : block.initialized = true
  sound : block.state.arena.Sound
  stands : (block.state.thread tid).top = some top
  frame : ∃ frame, block.state.arena.get? top = some frame ∧ frame.parkedLoop = none
  home : ∀ id, (block.state.thread tid).home = some id → block.state.arena.isLive id = true

variable {lane tid : Nat} {top : FrameId} {before mid after block : Block}

theorem LocalChange.refl (sound : block.state.arena.Sound) : LocalChange tid top block block where
  arch := rfl
  layout := rfl
  initialized := rfl
  board := rfl
  counters := rfl
  size := rfl
  others _ _ := rfl
  self := rfl
  sound := sound
  frames _ _ := rfl
  topFrame := by
    cases h : block.state.arena.get? top with
    | none => exact ⟨0, rfl⟩
    | some frame => exact ⟨frame.nthreads, rfl⟩

theorem LocalChange.trans (first : LocalChange tid top before mid)
    (second : LocalChange tid top mid after) : LocalChange tid top before after where
  arch := second.arch.trans first.arch
  layout := second.layout.trans first.layout
  initialized := second.initialized.trans first.initialized
  board := second.board.trans first.board
  counters := by rw [second.counters, first.counters]
  size := second.size.trans first.size
  others other h := (second.others other h).trans (first.others other h)
  self := by rw [second.self, first.self]
  sound := second.sound
  frames id h := (second.frames id h).trans (first.frames id h)
  topFrame := by
    obtain ⟨n, hn⟩ := first.topFrame
    obtain ⟨m, hm⟩ := second.topFrame
    refine ⟨m, ?_⟩
    rw [hm, hn, Option.map_map]
    rfl

/-- Every thread stands where it stood. -/
theorem LocalChange.top_eq (change : LocalChange tid top before after) (other : Nat) :
    (after.state.thread other).top = (before.state.thread other).top := by
  by_cases same : other = tid
  · rw [same, change.self]
  · rw [change.others other same]

theorem LocalChange.home_eq (change : LocalChange tid top before after) (other : Nat) :
    (after.state.thread other).home = (before.state.thread other).home := by
  by_cases same : other = tid
  · rw [same, change.self]
  · rw [change.others other same]

/-- A local change keeps the set of live frames. -/
theorem LocalChange.isLive (change : LocalChange tid top before after) (id : FrameId) :
    after.state.arena.isLive id = before.state.arena.isLive id := by
  unfold FrameArena.isLive
  by_cases h : id = top
  · obtain ⟨n, hn⟩ := change.topFrame
    rw [h, hn, Option.isSome_map]
  · rw [change.frames id h]

/-- A thread in good standing is so after a local change. -/
theorem Standing.of_localChange (standing : Standing lane tid top before)
    (change : LocalChange tid top before after) : Standing lane tid top after where
  inside := by rw [change.layout]; exact standing.inside
  owner := by rw [change.layout]; exact standing.owner
  initialized := change.initialized.trans standing.initialized
  sound := change.sound
  stands := (change.top_eq tid).trans standing.stands
  frame := by
    obtain ⟨frame, hframe, unparked⟩ := standing.frame
    obtain ⟨n, hn⟩ := change.topFrame
    exact ⟨{ frame with nthreads := n }, by rw [hn, hframe]; rfl, unparked⟩
  home id h := by
    rw [change.home_eq] at h
    rw [change.isLive]
    exact standing.home id h

/-- Changing the loop state and hints of the thread is a local change. -/
theorem LocalChange.modifyThread (standing : Standing lane tid top block) (f : Thread → Thread)
    (hf : ∀ thread, f thread = { thread with
      pendingThreads := (f thread).pendingThreads
      pendingSimd := (f thread).pendingSimd
      loop := (f thread).loop }) :
    LocalChange tid top block { block with state := block.state.modifyThread tid f } := by
  have bound := BlockState.lt_size_of_top standing.stands
  have same : LocalChange tid top block block := .refl standing.sound
  refine { same with size := ?_, others := ?_, self := ?_ }
  · exact BlockState.size_modifyThread f
  · exact fun other h => BlockState.thread_modifyThread_of_ne h
  · rw [BlockState.thread_modifyThread_self bound]
    exact hf _

/-- Changing the requested threads in the top frame is a local change. -/
theorem LocalChange.setNthreads (standing : Standing lane tid top block) (count : Nat) :
    LocalChange tid top block
      { block with state := block.state.modifyFrame top ({ · with nthreads := count }) } := by
  have same : LocalChange tid top block block := .refl standing.sound
  refine { same with sound := ?_, frames := ?_, topFrame := ?_ }
  · exact standing.sound.modify _ _
  · exact fun id h => FrameArena.get?_modify_of_ne _ h
  · exact ⟨count, FrameArena.get?_modify_self _ _ _⟩

/-! ## A serialized region around local changes -/

variable {frame : Frame}

/-- Inside the region the thread is in good standing on the new frame. -/
theorem Standing.entered (standing : Standing lane tid top block) (frame : Frame) :
    Standing lane tid block.state.arena.nextId (block.entered tid top frame) where
  inside := standing.inside
  owner := standing.owner
  initialized := standing.initialized
  sound := BlockState.sound_openSerial standing.sound
  stands := by
    have bound := BlockState.lt_size_of_top standing.stands
    rw [Block.entered, BlockState.thread_openSerial_self bound]
  frame := ⟨frame.serialized top, by
    rw [Block.entered, BlockState.get?_openSerial standing.sound, if_pos rfl], rfl⟩
  home id h := by
    rw [Block.entered, BlockState.thread_openSerial_self
      (BlockState.lt_size_of_top standing.stands)] at h
    have live := standing.home id h
    rw [Block.entered, FrameArena.isLive, BlockState.get?_openSerial standing.sound,
      if_neg (standing.sound.ne_nextId live)]
    split
    · rw [Option.isSome_map]; exact live
    · exact live

/-- A local change that also leaves the loop state and the whole top frame alone. -/
structure Unwound (tid : Nat) (top : FrameId) (before after : Block) : Prop extends
    LocalChange tid top before after where
  loop : (after.state.thread tid).loop = (before.state.thread tid).loop
  top : after.state.arena.get? top = before.state.arena.get? top

theorem Unwound.trans (first : Unwound tid top before mid) (second : Unwound tid top mid after) :
    Unwound tid top before after where
  toLocalChange := first.toLocalChange.trans second.toLocalChange
  loop := second.loop.trans first.loop
  top := second.top.trans first.top

/-- **A region can be left.** After local changes inside it, a serialized region is left without
refusal, and its frame, the parked loop state and the change of the requested threads are gone. -/
theorem Standing.endSerial_eq (standing : Standing lane tid top block)
    (hframe : block.state.arena.get? top = some frame) (unparked : frame.parkedLoop = none)
    (change : LocalChange tid block.state.arena.nextId (block.entered tid top frame) after) :
    ∃ left, endSerial lane after = .ok () left ∧ Unwound tid top block left := by
  have bound := BlockState.lt_size_of_top standing.stands
  have inner := (standing.entered frame).of_localChange change
  have live := FrameArena.isLive_of_get? hframe
  have distinct : top ≠ block.state.arena.nextId := standing.sound.ne_nextId live
  -- the new frame, the frame it stands on, and the thread, as the local changes left them
  obtain ⟨n, hn⟩ := change.topFrame
  have new : after.state.arena.get? block.state.arena.nextId =
      some { frame.serialized top with nthreads := n } := by
    rw [hn, Block.entered, BlockState.get?_openSerial standing.sound, if_pos rfl]
    rfl
  have below : after.state.arena.get? top =
      some { frame with parkedLoop := some (block.state.thread tid).loop } := by
    rw [change.frames top distinct, Block.entered, BlockState.get?_openSerial standing.sound,
      if_neg distinct, if_pos rfl, hframe]
    rfl
  have others : ∀ id, id ≠ block.state.arena.nextId → id ≠ top →
      after.state.arena.get? id = block.state.arena.get? id := by
    intro id notNew notTop
    rw [change.frames id notNew, Block.entered, BlockState.get?_openSerial standing.sound,
      if_neg notNew, if_neg notTop]
  have self := change.self
  rw [Block.entered, BlockState.thread_openSerial_self bound] at self
  have home : (after.state.thread tid).home ≠ some block.state.arena.nextId := by
    intro h
    rw [self] at h
    exact standing.sound.ne_nextId (standing.home _ h) rfl
  have bound' := BlockState.lt_size_of_top inner.stands
  refine ⟨_, endSerial_of_serializedOn inner.inside inner.owner inner.initialized inner.stands home
    new rfl below distinct (by simp [Frame.serializedOn, Frame.serialized, Frame.child]) rfl, ?_⟩
  -- leaving undoes entering: all frames are those of the block before the region
  have frames : ∀ id, (after.state.closeSerial tid block.state.arena.nextId top
      (block.state.thread tid).loop).arena.get? id = block.state.arena.get? id := by
    intro id
    rw [BlockState.get?_closeSerial]
    by_cases isTop : id = top
    · subst isTop
      rw [if_pos rfl, FrameArena.get?_release_of_ne distinct, below, hframe, ← unparked]
      rfl
    · rw [if_neg isTop]
      by_cases isNew : id = block.state.arena.nextId
      · rw [if_pos isNew, isNew, standing.sound.get?_nextId]
      · rw [if_neg isNew, others id isNew isTop]
  refine ⟨⟨change.arch, change.layout, change.initialized, change.board, ?_, ?_, ?_, ?_, ?_, ?_,
    ?_⟩, ?_, ?_⟩
  · rw [change.counters, Block.entered]
  · rw [BlockState.size_closeSerial, change.size, Block.entered, BlockState.size_openSerial]
  · intro other h
    rw [BlockState.thread_closeSerial_of_ne h, change.others other h, Block.entered,
      BlockState.thread_openSerial_of_ne h]
  · rw [BlockState.thread_closeSerial_self bound', self]
    simp only [← standing.stands]
  · exact BlockState.sound_closeSerial change.sound
  · exact fun id _ => frames id
  · exact ⟨frame.nthreads, by rw [frames, hframe]; rfl⟩
  · rw [BlockState.thread_closeSerial_self bound']
  · exact frames top

end Block

namespace Region

variable {ω α : Type} {lane tid : Nat} {top : FrameId}

/-- Steps that act on one lane only. -/
inductive Confined (lane : Nat) : {α : Type} → RegionM ω α → Prop
  /-- Reading the block, and any use of the program's own data. -/
  | observe {α : Type} {step : RegionM ω α}
      (reads : ∀ s, Ends step s (fun _ t => t.block = s.block) fun _ t => t.block = s.block) :
      Confined lane step
  | setLoop (loop : LoopState) : Confined lane (Hosted.onBlock (Block.setLoop lane loop))
  | setThreads (count : Nat) : Confined lane (Hosted.onBlock (Block.setThreads lane count))
  | pushThreads (count : Nat) : Confined lane (Hosted.onBlock (Block.pushThreads lane count))
  /-- A nested region, whatever its body goes on to do on the lane. -/
  | nested {body : RegionBody ω} (inner : Confined lane (body lane)) :
      Confined lane (nested lane body)
  | attempt {α : Type} {step : RegionM ω α} (tried : Confined lane step) :
      Confined lane (attempt step)
  | bind {α β : Type} {step : RegionM ω α} {next : α → RegionM ω β} (first : Confined lane step)
      (second : ∀ a, Confined lane (next a)) : Confined lane (step >>= next)

/-- Where a confined step ends: after a local change, unless a fault halted it. -/
def LeavesLocal (tid : Nat) (top : FrameId) (step : RegionM ω α) (s : Hosted ω) : Prop :=
  Ends step s (fun _ t => Block.LocalChange tid top s.block t.block) fun failure t =>
    match failure with
    | .rejected _ => Block.LocalChange tid top s.block t.block
    | .halted _ => True

variable {s : Hosted ω}

theorem LeavesLocal.bind {β : Type} {step : RegionM ω α} {next : α → RegionM ω β}
    (first : LeavesLocal tid top step s)
    (second : ∀ a t, Block.LocalChange tid top s.block t.block → LeavesLocal tid top (next a) t) :
    LeavesLocal tid top (step >>= next) s := by
  unfold LeavesLocal at first ⊢
  rw [ends_bind]
  refine first.mono (fun a t change => ?_) fun _ _ stopped => stopped
  refine (second a t change).mono (fun b u later => change.trans later) fun failure u stopped => ?_
  cases failure with
  | rejected error => exact change.trans stopped
  | halted fault => trivial

theorem LeavesLocal.attempt {step : RegionM ω α} (tried : LeavesLocal tid top step s) :
    LeavesLocal tid top (Dispatch.attempt step) s := by
  unfold LeavesLocal at tried ⊢
  rw [ends_attempt]
  refine tried.mono (fun _ _ change => change) fun failure t stopped => ?_
  cases failure with
  | rejected error => exact stopped
  | halted fault => trivial

/-- A step on the block that returns after a local change. -/
theorem LeavesLocal.onBlock {step : Dispatch Block α} {a : α} {after : Block}
    (run : step s.block = .ok a after) (change : Block.LocalChange tid top s.block after) :
    LeavesLocal tid top (Hosted.onBlock step) s := by
  unfold LeavesLocal
  rw [Hosted.ends_onBlock, ends_of_ok run]
  exact change

/-- Entering a nested region spends the pending clause and enters a serialized region, unless the
counter is full. -/
theorem ends_beginNested {block : Block} (standing : Block.Standing lane tid top block) :
    Ends (beginNested lane) block
      (fun _ t => ∃ mid frame, Block.Unwound tid top block mid ∧ Block.Standing lane tid top mid ∧
        mid.state.arena.get? top = some frame ∧ frame.parkedLoop = none ∧
        t = mid.entered tid top frame)
      fun failure _ => failure = .halted .addOverflow := by
  have change := Block.LocalChange.modifyThread standing ({ · with pendingThreads := 0 })
    fun _ => rfl
  have standing' := standing.of_localChange change
  have bound := BlockState.lt_size_of_top standing.stands
  obtain ⟨frame, hframe, unparked⟩ := standing'.frame
  have unwound : Block.Unwound tid top block
      { block with state := block.state.modifyThread tid ({ · with pendingThreads := 0 }) } :=
    ⟨change, by rw [BlockState.thread_modifyThread_self bound], rfl⟩
  simp only [beginNested, ends_bind,
    ends_of_ok (Block.threadOf_of_lt standing.inside standing.owner), Block.onState, ends_modify,
    BlockState.takePendingThreads]
  by_cases room : block.counters.serialized + 1 < UInt32.size
  · rw [ends_of_ok (Block.beginSerial_of_room standing'.inside standing'.owner
      standing'.initialized standing'.stands hframe room)]
    exact ⟨_, frame, unwound, standing', hframe, unparked, rfl⟩
  · rw [ends_of_error (Block.beginSerial_of_full standing'.inside standing'.owner
      (Nat.le_of_not_lt room))]

/-- **Nested regions unwind.** A nested region of a thread in good standing leaves everything as it
was but the pending clause, which it spends, and the hints its body pushes; and the same when its
body is refused. -/
theorem ends_nested {body : RegionBody ω} (standing : Block.Standing lane tid top s.block)
    (inner : ∀ {top : FrameId} (t : Hosted ω), Block.Standing lane tid top t.block →
      LeavesLocal tid top (body lane) t) :
    Ends (nested lane body) s (fun _ t => Block.Unwound tid top s.block t.block) fun failure t =>
      match failure with
      | .rejected _ => Block.Unwound tid top s.block t.block
      | .halted _ => True := by
  simp only [nested, ends_bind, Hosted.ends_onBlock]
  refine (ends_beginNested standing).mono (fun _ b entered => ?_) fun failure b halted => ?_
  swap
  · rw [halted]; trivial
  obtain ⟨mid, frame, spent, standing', hframe, unparked, rfl⟩ := entered
  rw [ends_attempt]
  -- however the body ended, the region can be left, and the body's end is that of the construct
  refine (inner _ (standing'.entered frame)).mono (fun _ t change => ?_) fun failure t stopped => ?_
  · obtain ⟨left, hleft, unwound⟩ := standing'.endSerial_eq hframe unparked change
    rw [ends_of_ok hleft, ends_granted]
    exact ⟨fun _ _ => spent.trans unwound, fun _ h => by cases h⟩
  · cases failure with
    | halted fault => trivial
    | rejected error =>
      obtain ⟨left, hleft, unwound⟩ := standing'.endSerial_eq hframe unparked stopped
      show Ends _ _ _ _
      rw [ends_of_ok hleft, ends_granted]
      exact ⟨fun _ h => (by cases h), fun _ _ => spent.trans unwound⟩

/-- **Confined steps make local changes only.** -/
theorem Confined.leavesLocal {step : RegionM ω α} (confined : Confined lane step) :
    ∀ {top : FrameId} (s : Hosted ω), Block.Standing lane tid top s.block →
      LeavesLocal tid top step s := by
  -- by induction on how the step is put together, for any top frame, since nested bodies stand on
  -- another one
  induction confined with
  | observe reads =>
    intro top s standing
    refine (reads s).mono (fun _ t same => ?_) fun failure t same => ?_
    · rw [same]; exact .refl standing.sound
    · cases failure with
      | rejected error => rw [same]; exact .refl standing.sound
      | halted fault => trivial
  | setLoop loop =>
    intro top s standing
    refine .onBlock (Block.setLoop_eq_ok standing.inside standing.owner) ?_
    exact .modifyThread standing ({ · with loop }) fun _ => rfl
  | setThreads count =>
    intro top s standing
    obtain ⟨frame, hframe, -⟩ := standing.frame
    refine .onBlock (Block.setThreads_eq_ok standing.inside standing.owner standing.initialized
      standing.stands hframe) ?_
    exact .setNthreads standing count
  | pushThreads count =>
    intro top s standing
    refine .onBlock (Block.pushThreads_eq_ok standing.inside standing.owner) ?_
    exact .modifyThread standing ({ · with pendingThreads := count }) fun _ => rfl
  | nested inner ih =>
    intro top s standing
    refine (ends_nested standing ih).mono (fun _ t unwound => unwound.toLocalChange) ?_
    intro failure t stopped
    cases failure with
    | rejected error => exact stopped.toLocalChange
    | halted fault => trivial
  | attempt tried ih => exact fun s standing => (ih s standing).attempt
  | bind first second ihFirst ihSecond =>
    intro top s standing
    exact (ihFirst s standing).bind fun a t change => ihSecond a t (standing.of_localChange change)

end Region

end RegionDispatch
