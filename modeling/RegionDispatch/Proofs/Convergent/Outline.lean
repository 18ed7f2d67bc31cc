import Mathlib.Logic.Function.Basic
import RegionDispatch.Convergent.Team
import RegionDispatch.Proofs.Block.State

/-! # The outline of a block

Convergent constructs move the tops of threads around, consume hints and store frames, and promise
to give all of that back. The *outline* of a block is what this promise is about: the top and the
pending hints of every thread and the ids under which a frame is stored.

* **`Outline`** — tops, hints and live ids, as functions.
* **`Block.Outlined layout outline block`** — a block with frames that has the layout and the
  outline.
* `Block.Outlined.setTop`, `Block.Outlined.withHint`, `Block.Outlined.push`,
  `Block.Outlined.release` — what the operations of convergent constructs do to the outline. -/

namespace RegionDispatch

namespace Construct

variable {construct other : Construct} {n : Nat} {thread : Thread}

/-- A construct replaces its own hint only. -/
theorem hint_withHint :
    other.hint (construct.withHint n thread) =
      if other = construct then n else other.hint thread := by
  cases construct <;> cases other <;> rfl

@[simp] theorem top_withHint : (construct.withHint n thread).top = thread.top := by
  cases construct <;> rfl

@[simp] theorem home_withHint : (construct.withHint n thread).home = thread.home := by
  cases construct <;> rfl

end Construct

/-- What convergent constructs change for a while and then give back. -/
@[ext]
structure Outline where
  /-- The top frames, by thread. -/
  tops : Nat → Option FrameId
  /-- The pending hints, by construct and thread. -/
  hints : Construct → Nat → Nat
  /-- Whether a frame is stored under an id. -/
  live : FrameId → Bool

namespace Outline

variable {outline : Outline} {construct other : Construct} {tid tid' n : Nat} {id id' : FrameId}

/-- Another top for one thread. -/
def setTop (outline : Outline) (tid : Nat) (id : FrameId) : Outline :=
  { outline with tops := Function.update outline.tops tid (some id) }

/-- Another hint for one thread. -/
def setHint (outline : Outline) (construct : Construct) (tid n : Nat) : Outline :=
  { outline with
    hints := fun other tid' =>
      if other = construct ∧ tid' = tid then n else outline.hints other tid' }

/-- One more live id. -/
def add (outline : Outline) (id : FrameId) : Outline :=
  { outline with live := Function.update outline.live id true }

/-- One live id less. -/
def remove (outline : Outline) (id : FrameId) : Outline :=
  { outline with live := Function.update outline.live id false }

/-- The id of a new frame, if one was stored, as a live one. -/
def adds (outline : Outline) : Option FrameId → Outline
  | none => outline
  | some id => outline.add id

/-- The frame, if there is one, no longer stored. -/
def removes (outline : Outline) : Option FrameId → Outline
  | none => outline
  | some id => outline.remove id

@[simp] theorem tops_adds (pushed : Option FrameId) :
    (outline.adds pushed).tops = outline.tops := by
  cases pushed <;> rfl

@[simp] theorem hints_adds (pushed : Option FrameId) :
    (outline.adds pushed).hints = outline.hints := by
  cases pushed <;> rfl

@[simp] theorem tops_removes (pushed : Option FrameId) :
    (outline.removes pushed).tops = outline.tops := by
  cases pushed <;> rfl

@[simp] theorem hints_removes (pushed : Option FrameId) :
    (outline.removes pushed).hints = outline.hints := by
  cases pushed <;> rfl

theorem live_adds (pushed : Option FrameId) :
    (outline.adds pushed).live id = true ↔ outline.live id = true ∨ pushed = some id := by
  cases pushed with
  | none => simp [adds]
  | some other =>
    simp only [adds, add, Function.update_apply, Option.some.injEq]
    by_cases same : id = other
    · simp [same]
    · simp [same, Ne.symm same]

theorem live_removes (pushed : Option FrameId) :
    (outline.removes pushed).live id = true ↔ outline.live id = true ∧ pushed ≠ some id := by
  cases pushed with
  | none => simp [removes]
  | some other =>
    simp only [removes, remove, Function.update_apply, ne_eq, Option.some.injEq]
    by_cases same : id = other
    · simp [same]
    · simp [same, Ne.symm same]

end Outline

namespace Block

/-- The outline of a block. -/
def outline (block : Block) : Outline where
  tops tid := (block.state.thread tid).top
  hints construct tid := construct.hint (block.state.thread tid)
  live := block.state.arena.isLive

variable {layout : BlockLayout} {outline : Outline} {block : Block} {construct : Construct}
  {tid n : Nat} {id : FrameId}

/-- A block with frames that has the layout and the outline. -/
structure Outlined (layout : BlockLayout) (outline : Outline) (block : Block) : Prop where
  layout : block.layout = layout
  initialized : block.initialized = true
  sound : block.state.arena.Sound
  outline : block.outline = outline

namespace Outlined

variable (h : Outlined layout outline block)

include h

theorem top (tid : Nat) : (block.state.thread tid).top = outline.tops tid :=
  congrFun (congrArg Outline.tops h.outline) tid

theorem hint (construct : Construct) (tid : Nat) :
    construct.hint (block.state.thread tid) = outline.hints construct tid :=
  congrFun (congrFun (congrArg Outline.hints h.outline) construct) tid

theorem live (id : FrameId) : block.state.arena.isLive id = outline.live id :=
  congrFun (congrArg Outline.live h.outline) id

/-- A thread with a top is a thread of the block. -/
theorem lt_size (standing : outline.tops tid = some id) : tid < block.state.threads.size :=
  BlockState.lt_size_of_top ((h.top tid).trans standing)

/-- Counters are no part of the outline. -/
theorem withCounters (counters : Counters) : Outlined layout outline { block with counters } :=
  ⟨h.layout, h.initialized, h.sound, h.outline⟩

theorem withHint (construct : Construct) (n : Nat) (standing : outline.tops tid = some id) :
    Outlined layout (outline.setHint construct tid n)
      { block with state := block.state.modifyThread tid (construct.withHint n) } := by
  refine ⟨h.layout, h.initialized, h.sound, ?_⟩
  rw [← h.outline]
  have bound := h.lt_size standing
  refine Outline.ext (funext fun other => ?_) (funext fun kind => funext fun other => ?_) rfl
  · show ((block.state.modifyThread tid _).thread other).top = (block.state.thread other).top
    rw [BlockState.thread_modifyThread]
    split
    · exact Construct.top_withHint
    · rfl
  · show kind.hint ((block.state.modifyThread tid _).thread other) =
      if kind = construct ∧ other = tid then n else kind.hint (block.state.thread other)
    by_cases same : other = tid
    · subst same
      rw [BlockState.thread_modifyThread_self bound, Construct.hint_withHint]
      simp only [and_true]
    · rw [BlockState.thread_modifyThread_of_ne same, if_neg fun both => same both.2]

theorem setTop (standing : outline.tops tid = some id) (top : FrameId) :
    Outlined layout (outline.setTop tid top)
      { block with state := block.state.setTop tid top } := by
  refine ⟨h.layout, h.initialized, h.sound, ?_⟩
  rw [← h.outline]
  have bound := h.lt_size standing
  refine Outline.ext (funext fun other => ?_) (funext fun kind => funext fun other => ?_) rfl
  · show ((block.state.setTop tid top).thread other).top =
      Function.update (fun tid => (block.state.thread tid).top) tid (some top) other
    by_cases same : other = tid
    · subst same
      rw [BlockState.thread_setTop_self bound, Function.update_self]
    · rw [BlockState.thread_setTop_of_ne same, Function.update_of_ne same]
  · show kind.hint ((block.state.setTop tid top).thread other) =
      kind.hint (block.state.thread other)
    by_cases same : other = tid
    · subst same
      rw [BlockState.thread_setTop_self bound]
      cases kind <;> rfl
    · rw [BlockState.thread_setTop_of_ne same]

/-- Storing a frame under the next id. -/
theorem alloc (frame : Frame) :
    Outlined layout (outline.add block.state.arena.nextId)
      { block with state := { block.state with arena := (block.state.arena.alloc frame).2 } } := by
  refine ⟨h.layout, h.initialized, h.sound.alloc frame, ?_⟩
  rw [← h.outline]
  refine Outline.ext rfl rfl (funext fun id => ?_)
  show (block.state.arena.alloc frame).2.isLive id =
    Function.update block.state.arena.isLive block.state.arena.nextId true id
  rw [FrameArena.isLive, h.sound.get?_alloc, Function.update_apply]
  split <;> rfl

/-- The next id is not live. -/
theorem live_nextId : outline.live block.state.arena.nextId = false := by
  rw [← h.live, FrameArena.isLive, h.sound.get?_nextId]
  rfl

theorem push (standing : outline.tops tid = some id) (frame : Frame) :
    Outlined layout
      ((outline.add block.state.arena.nextId).setTop tid block.state.arena.nextId)
      { block with state := (block.state.push tid frame).2 } := by
  rw [BlockState.push_snd]
  exact (h.alloc frame).setTop standing block.state.arena.nextId

theorem release (id : FrameId) :
    Outlined layout (outline.remove id) { block with state := block.state.release id } := by
  refine ⟨h.layout, h.initialized, h.sound.release id, ?_⟩
  rw [← h.outline]
  refine Outline.ext rfl rfl (funext fun other => ?_)
  show (block.state.arena.release id).2.isLive other =
    Function.update block.state.arena.isLive id false other
  rw [FrameArena.isLive, FrameArena.get?_release, Function.update_apply]
  split <;> rfl

end Outlined

end Block

end RegionDispatch
