import RegionDispatch.Block.State
import RegionDispatch.Proofs.Frame.Arena

/-! # Threads and frames of a block

What the operations on `BlockState` do to its two views: the record `thread tid` of each thread and
the map `arena.get?` of frames. Each operation changes one thread, or one frame, or both. -/

namespace RegionDispatch

namespace BlockState

variable {state : BlockState} {tid other : Nat} {id parent : FrameId} {frame : Frame}

/-! ## Threads -/

/-- Two threads of a state are the same record unless one of them was just changed. -/
theorem thread_modifyThread_of_ne {f : Thread → Thread} (h : other ≠ tid) :
    (state.modifyThread tid f).thread other = state.thread other := by
  rw [thread_modifyThread, if_neg fun both => h both.1.symm]

theorem thread_modifyThread_self {f : Thread → Thread} (h : tid < state.threads.size) :
    (state.modifyThread tid f).thread tid = f (state.thread tid) := by
  rw [thread_modifyThread, if_pos ⟨rfl, h⟩]

@[simp] theorem arena_modifyThread (f : Thread → Thread) :
    (state.modifyThread tid f).arena = state.arena := rfl

@[simp] theorem size_modifyThread (f : Thread → Thread) :
    (state.modifyThread tid f).threads.size = state.threads.size := Array.size_modify

/-- What a change keeps of a record, it keeps of every thread. -/
theorem kept_modifyThread {α : Type} (read : Thread → α) {f : Thread → Thread}
    (kept : ∀ thread, read (f thread) = read thread) :
    read ((state.modifyThread tid f).thread other) = read (state.thread other) := by
  rw [thread_modifyThread]
  split
  · exact kept _
  · rfl

theorem top_modifyThread {f : Thread → Thread} (kept : ∀ thread, (f thread).top = thread.top) :
    ((state.modifyThread tid f).thread other).top = (state.thread other).top :=
  kept_modifyThread Thread.top kept

theorem home_modifyThread {f : Thread → Thread} (kept : ∀ thread, (f thread).home = thread.home) :
    ((state.modifyThread tid f).thread other).home = (state.thread other).home :=
  kept_modifyThread Thread.home kept

/-- A number outside the block names a fresh thread. -/
theorem thread_of_size_le (h : state.threads.size ≤ tid) : state.thread tid = {} := by
  rw [thread, Array.getElem?_eq_none h, Option.getD_none]

/-- Only threads of the block have a stack. -/
theorem lt_size_of_top (h : (state.thread tid).top = some id) : tid < state.threads.size := by
  by_contra outside
  rw [thread_of_size_le (Nat.le_of_not_lt outside)] at h
  cases h

/-- Only threads of the block have a frame set aside for them. -/
theorem lt_size_of_home (h : (state.thread tid).home = some id) : tid < state.threads.size := by
  by_contra outside
  rw [thread_of_size_le (Nat.le_of_not_lt outside)] at h
  cases h

/-- States with the same frames and as many threads are equal if the threads are. -/
theorem ext_thread {state' : BlockState} (arena : state.arena = state'.arena)
    (size : state.threads.size = state'.threads.size)
    (threads : ∀ tid, tid < state.threads.size → state.thread tid = state'.thread tid) :
    state = state' := by
  obtain ⟨_, list⟩ := state
  obtain ⟨_, list'⟩ := state'
  refine congrArg₂ BlockState.mk arena (Array.ext size fun i inside inside' => ?_)
  have same := threads i inside
  simpa only [thread, Array.getElem?_eq_getElem inside, Array.getElem?_eq_getElem inside',
    Option.getD_some] using same

@[simp] theorem arena_setTop : (state.setTop tid id).arena = state.arena := rfl

@[simp] theorem size_setTop : (state.setTop tid id).threads.size = state.threads.size :=
  size_modifyThread _

theorem thread_setTop_of_ne (h : other ≠ tid) :
    (state.setTop tid id).thread other = state.thread other := thread_modifyThread_of_ne h

theorem thread_setTop_self (h : tid < state.threads.size) :
    (state.setTop tid id).thread tid = { state.thread tid with top := some id } :=
  thread_modifyThread_self h

/-! ## Frames -/

@[simp] theorem thread_modifyFrame (f : Frame → Frame) :
    (state.modifyFrame id f).thread tid = state.thread tid := rfl

@[simp] theorem size_modifyFrame (f : Frame → Frame) :
    (state.modifyFrame id f).threads.size = state.threads.size := rfl

@[simp] theorem arena_modifyFrame (f : Frame → Frame) :
    (state.modifyFrame id f).arena = state.arena.modify id f := rfl

@[simp] theorem thread_release : (state.release id).thread tid = state.thread tid := rfl

@[simp] theorem size_release : (state.release id).threads.size = state.threads.size := rfl

@[simp] theorem arena_release : (state.release id).arena = (state.arena.release id).2 := rfl

@[simp] theorem overwrite_fst : (state.overwrite id frame).1 = state.arena.isLive id :=
  FrameArena.overwrite_fst state.arena id frame

@[simp] theorem thread_overwrite : (state.overwrite id frame).2.thread tid = state.thread tid := rfl

@[simp] theorem size_overwrite :
    (state.overwrite id frame).2.threads.size = state.threads.size := rfl

/-! ## Stacks -/

@[simp] theorem push_fst : (state.push tid frame).1 = state.arena.nextId :=
  FrameArena.alloc_fst _ _

theorem push_snd : (state.push tid frame).2 =
    { state with arena := (state.arena.alloc frame).2 }.setTop tid state.arena.nextId := by
  rw [← FrameArena.alloc_fst state.arena frame]
  rfl

@[simp] theorem arena_push : (state.push tid frame).2.arena = (state.arena.alloc frame).2 := rfl

@[simp] theorem size_push : (state.push tid frame).2.threads.size = state.threads.size :=
  size_modifyThread _

theorem thread_push_of_ne (h : other ≠ tid) :
    (state.push tid frame).2.thread other = state.thread other := by
  rw [push_snd, thread_setTop_of_ne h]
  rfl

theorem thread_push_self (h : tid < state.threads.size) :
    (state.push tid frame).2.thread tid =
      { state.thread tid with top := some state.arena.nextId } := by
  rw [push_snd]
  exact thread_setTop_self h

theorem top_eq_ok : state.top tid = .ok id ↔ (state.thread tid).top = some id := by
  unfold top
  cases (state.thread tid).top <;> simp

theorem frame_eq_ok : state.frame id = .ok frame ↔ state.arena.get? id = some frame := by
  unfold BlockState.frame
  cases state.arena.get? id <;> simp

theorem topFrame_eq_ok (htop : (state.thread tid).top = some id) :
    state.topFrame tid = .ok frame ↔ state.arena.get? id = some frame := by
  unfold topFrame
  rw [top_eq_ok.2 htop]
  simp only [bind, Except.bind]
  cases state.arena.get? id <;> simp [pure, Except.pure, throw, throwThe, MonadExceptOf.throw]

/-- A thread whose top was released has no top frame. -/
theorem topFrame_of_dead (htop : (state.thread tid).top = some id)
    (dead : state.arena.get? id = none) :
    state.topFrame tid = .error (.stackUnderflow tid) := by
  unfold topFrame
  rw [top_eq_ok.2 htop]
  simp only [bind, Except.bind, dead]
  rfl

theorem pop_eq_ok (htop : (state.thread tid).top = some id)
    (hframe : state.arena.get? id = some frame) (hparent : frame.parent = some parent) :
    state.pop tid = .ok (id, state.setTop tid parent) := by
  simp only [pop, popTarget, top_eq_ok.2 htop, frame_eq_ok.2 hframe, hparent, bind, Except.bind,
    pure, Except.pure]

/-- Popping moves the top to the frame below, and does nothing else. -/
theorem of_pop_eq_ok {popped : FrameId × BlockState} (htop : (state.thread tid).top = some id)
    (h : state.pop tid = .ok popped) :
    ∃ frame parent, state.arena.get? id = some frame ∧ frame.parent = some parent ∧
      popped.2 = state.setTop tid parent := by
  cases hframe : state.arena.get? id with
  | none =>
    simp [pop, popTarget, top_eq_ok.2 htop, BlockState.frame, hframe, bind, Except.bind] at h
  | some frame =>
    cases hparent : frame.parent with
    | none =>
      simp [pop, popTarget, top_eq_ok.2 htop, frame_eq_ok.2 hframe, hparent, bind, Except.bind,
        throw, throwThe, MonadExceptOf.throw] at h
    | some parent =>
      rw [pop_eq_ok htop hframe hparent] at h
      cases h
      exact ⟨frame, parent, rfl, hparent, rfl⟩

end BlockState

end RegionDispatch
