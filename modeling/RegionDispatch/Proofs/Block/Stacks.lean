import Mathlib.Logic.Function.Basic
import RegionDispatch.Proofs.Block.Create
import RegionDispatch.Proofs.Block.Region

/-! # The frame stacks of a block

The stack of a thread is the list of the frames above the shared outermost frame, top first. The
stacks of a block are not stored anywhere: they are what the `parent` links of the stored frames
spell out, starting at the tops of the threads.

* **`FrameArena.Linked arena ids`** — the frames `ids` stand on each other, the last one on the
  outermost frame, and each is nested as deep as it stands high.
* **`Block.Stacked stackOf block`** — the threads of a block have the stacks `stackOf`: linked,
  without repetition, and pairwise disjoint. Every change a dispatch step makes keeps a block
  stacked: `Stacked.congr` for changes that touch no link, `Stacked.opened` and `Stacked.closed` for
  serialized regions, `Stacked.joined` and `Stacked.left` for first-level ones. -/

namespace RegionDispatch

open BlockState (baseId homeId)

namespace Nesting

@[simp] theorem level_ofLevel (n : Nat) : (ofLevel n).level = min 2 n := by
  rcases n with _ | _ | n
  · rfl
  · rfl
  · show 2 = min 2 (n + 2)
    omega

theorem deeper_ofLevel (n : Nat) : (ofLevel n).deeper = ofLevel (n + 1) := by
  rcases n with _ | _ | n <;> rfl

end Nesting

namespace FrameArena

variable {arena after : FrameArena} {id other : FrameId} {ids : List FrameId}

/-- What stacks are made of: the parent and the nesting of a stored frame. -/
def linkOf (arena : FrameArena) (id : FrameId) : Option (Option FrameId × Nesting) :=
  (arena.get? id).map fun frame => (frame.parent, frame.depth)

theorem linkOf_of_get? {frame : Frame} (h : arena.get? id = some frame) :
    arena.linkOf id = some (frame.parent, frame.depth) := by
  rw [linkOf, h]
  rfl

theorem linkOf_eq_some {parent : Option FrameId} {depth : Nesting} :
    arena.linkOf id = some (parent, depth) ↔
      ∃ frame, arena.get? id = some frame ∧ frame.parent = parent ∧ frame.depth = depth := by
  simp only [linkOf, Option.map_eq_some_iff, Prod.mk.injEq]

@[simp] theorem isSome_linkOf (arena : FrameArena) (id : FrameId) :
    (arena.linkOf id).isSome = arena.isLive id := Option.isSome_map

theorem isLive_of_linkOf {link : Option FrameId × Nesting} (h : arena.linkOf id = some link) :
    arena.isLive id = true := by
  rw [← isSome_linkOf, h]
  rfl

theorem parentOf_of_linkOf {parent : Option FrameId} {depth : Nesting}
    (h : arena.linkOf id = some (parent, depth)) : arena.parentOf id = parent := by
  obtain ⟨frame, hframe, hparent, -⟩ := linkOf_eq_some.1 h
  rw [parentOf, hframe]
  exact hparent

/-- Links do not see a change of a frame's other fields. -/
theorem linkOf_modify {f : Frame → Frame}
    (kept : ∀ frame, (f frame).parent = frame.parent ∧ (f frame).depth = frame.depth) :
    (arena.modify id f).linkOf other = arena.linkOf other := by
  rw [linkOf, linkOf, get?_modify]
  split
  · rw [Option.map_map]
    refine congrArg (Option.map · _) (funext fun frame => ?_)
    exact Prod.ext (kept frame).1 (kept frame).2
  · rfl

/-! ## Linked frames -/

/-- The frames `ids` stand on each other, top first, and the last one on the outermost frame. -/
def Linked (arena : FrameArena) : List FrameId → Prop
  | [] => True
  | id :: below =>
    arena.linkOf id = some (some (below.headD baseId), .ofLevel (below.length + 1)) ∧
      Linked arena below

theorem Linked.congr (h : arena.Linked ids) (same : ∀ id ∈ ids, after.linkOf id = arena.linkOf id) :
    after.Linked ids := by
  induction ids with
  | nil => trivial
  | cons id below ih =>
    refine ⟨(same id List.mem_cons_self).trans h.1, ih h.2 fun other member => ?_⟩
    exact same other (List.mem_cons_of_mem id member)

theorem Linked.isLive (h : arena.Linked ids) (member : id ∈ ids) : arena.isLive id = true := by
  induction ids with
  | nil => cases member
  | cons top below ih =>
    rcases List.mem_cons.1 member with rfl | member
    · exact isLive_of_linkOf h.1
    · exact ih h.2 member

/-- The outermost frame is below all stacks, not in them. -/
theorem Linked.baseId_not_mem {depth : Nesting} (h : arena.Linked ids)
    (base : arena.linkOf baseId = some (none, depth)) : baseId ∉ ids := by
  induction ids with
  | nil => exact List.not_mem_nil
  | cons top below ih =>
    intro member
    rcases List.mem_cons.1 member with same | member
    · have link := h.1
      rw [← same, base] at link
      cases link
    · exact ih h.2 member

/-- The frame a thread stands on is nested as deep as its stack is high. -/
theorem Linked.exists_link_head (h : arena.Linked ids)
    (base : arena.linkOf baseId = some (none, .sequential)) :
    ∃ parent, arena.linkOf (ids.headD baseId) = some (parent, .ofLevel ids.length) := by
  cases ids with
  | nil => exact ⟨none, base⟩
  | cons top below => exact ⟨_, h.1⟩

/-- Followed down to the outermost frame, the links of a stack are a chain. -/
theorem Linked.isChain (h : arena.Linked ids) :
    List.IsChain (fun id below => arena.parentOf id = some below) (ids ++ [baseId]) := by
  induction ids with
  | nil => exact List.IsChain.singleton _
  | cons top below ih =>
    have link := parentOf_of_linkOf h.1
    cases below with
    | nil => exact List.IsChain.cons_cons link (ih h.2)
    | cons next below => exact List.IsChain.cons_cons link (ih h.2)

end FrameArena

namespace BlockState

variable {state : BlockState} {tid event : Nat} {top parent home id : FrameId} {frame : Frame}
  {loop : LoopState}

theorem linkOf_openSerial (sound : state.arena.Sound) :
    (state.openSerial tid top frame).arena.linkOf id =
      if id = state.arena.nextId then some (some top, frame.depth.deeper)
      else state.arena.linkOf id := by
  rw [FrameArena.linkOf, get?_openSerial sound]
  split
  · rfl
  · split
    · rw [Option.map_map]
      rfl
    · rfl

theorem linkOf_closeSerial (distinct : parent ≠ top) :
    (state.closeSerial tid top parent loop).arena.linkOf id =
      if id = top then none else state.arena.linkOf id := by
  rw [FrameArena.linkOf, get?_closeSerial]
  by_cases isParent : id = parent
  · subst isParent
    rw [if_pos rfl, if_neg distinct, FrameArena.get?_release_of_ne distinct, Option.map_map]
    rfl
  · rw [if_neg isParent]
    split <;> rfl

theorem linkOf_joinTeam (live : state.arena.isLive home = true) :
    (state.joinTeam tid home frame event).arena.linkOf id =
      if id = home then some (frame.parent, frame.depth) else state.arena.linkOf id := by
  rw [FrameArena.linkOf, get?_joinTeam live]
  split <;> rfl

end BlockState

namespace Block

variable {block before after : Block} {stackOf : Nat → List FrameId} {tid lane : Nat}
  {id : FrameId} {below : List FrameId} {frame : Frame} {loop : LoopState}

/-- A change that touches no link and no top. -/
structure SameShape (before after : Block) : Prop where
  layout : after.layout = before.layout
  initialized : after.initialized = before.initialized
  size : after.state.threads.size = before.state.threads.size
  tops : ∀ tid, (after.state.thread tid).top = (before.state.thread tid).top
  homes : ∀ tid, (after.state.thread tid).home = (before.state.thread tid).home
  sound : after.state.arena.Sound
  links : ∀ id, after.state.arena.linkOf id = before.state.arena.linkOf id

theorem SameShape.refl (sound : block.state.arena.Sound) : SameShape block block :=
  ⟨rfl, rfl, rfl, fun _ => rfl, fun _ => rfl, sound, fun _ => rfl⟩

/-- Hints and loop states are no part of the shape. -/
theorem SameShape.modifyThread (sound : block.state.arena.Sound) (f : Thread → Thread)
    (kept : ∀ thread, (f thread).top = thread.top ∧ (f thread).home = thread.home) (tid : Nat) :
    SameShape block { block with state := block.state.modifyThread tid f } :=
  ⟨rfl, rfl, BlockState.size_modifyThread f,
    fun _ => BlockState.top_modifyThread fun thread => (kept thread).1,
    fun _ => BlockState.home_modifyThread fun thread => (kept thread).2, sound, fun _ => rfl⟩

/-- Nor are a frame's requested threads and parked loop state. -/
theorem SameShape.modifyFrame (sound : block.state.arena.Sound) (f : Frame → Frame)
    (kept : ∀ frame, (f frame).parent = frame.parent ∧ (f frame).depth = frame.depth)
    (id : FrameId) :
    SameShape block { block with state := block.state.modifyFrame id f } :=
  ⟨rfl, rfl, rfl, fun _ => rfl, fun _ => rfl, sound.modify id f, fun _ =>
    FrameArena.linkOf_modify kept⟩

/-- Blocks of the same shape store the same frames. -/
theorem SameShape.liveFrames_eq (same : SameShape before after) (sound : before.state.arena.Sound) :
    after.liveFrames = before.liveFrames := by
  refine same.sound.live_congr sound fun id => ?_
  rw [← FrameArena.isSome_linkOf, same.links, FrameArena.isSome_linkOf]

/-- A frame that the members of a team may copy: directly above the outermost frame. -/
def FirstLevel (frame : Frame) : Prop := frame.parent = some baseId ∧ frame.depth = .level1

/-- **The frame stacks of a block**, by thread. -/
structure Stacked (stackOf : Nat → List FrameId) (block : Block) : Prop where
  maps : block.layout.MapsLanes
  initialized : block.initialized = true
  sized : block.state.threads.size = block.layout.size
  sound : block.state.arena.Sound
  base : block.state.arena.linkOf baseId = some (none, .sequential)
  homes : ∀ tid, tid < block.layout.size → (block.state.thread tid).home = some (homeId tid)
  /-- The frame set aside for a thread is stored, and stands on nothing but the outermost frame. -/
  reserved : ∀ tid, tid < block.layout.size → ∃ parent depth,
    block.state.arena.linkOf (homeId tid) = some (parent, depth) ∧
      ∀ id, parent = some id → id = baseId
  tops : ∀ tid, tid < block.layout.size →
    (block.state.thread tid).top = some ((stackOf tid).headD baseId)
  linked : ∀ tid, tid < block.layout.size → block.state.arena.Linked (stackOf tid)
  /-- A stack holds the frame set aside for its thread and frames stored later. -/
  ids : ∀ tid, tid < block.layout.size → ∀ id ∈ stackOf tid, id = homeId tid ∨
    block.layout.size < id.index
  nodup : ∀ tid, tid < block.layout.size → (stackOf tid).Nodup
  disjoint : ∀ tid, tid < block.layout.size → ∀ other, other < block.layout.size → tid ≠ other →
    (stackOf tid).Disjoint (stackOf other)
  template : ∀ work, block.board.posted = some work → FirstLevel block.board.template

namespace Stacked

variable (h : Stacked stackOf block)

include h

theorem lt_threads (bound : tid < block.layout.size) : tid < block.state.threads.size := by
  rw [h.sized]
  exact bound

/-- Only threads of the block stand on a frame. -/
theorem lt_of_top (stands : (block.state.thread tid).top = some id) : tid < block.layout.size :=
  h.sized ▸ BlockState.lt_size_of_top stands

/-- And only for them a frame is set aside. -/
theorem lt_of_home (reserved : (block.state.thread tid).home = some id) :
    tid < block.layout.size :=
  h.sized ▸ BlockState.lt_size_of_home reserved

/-- No thread has the outermost frame in its stack. -/
theorem baseId_not_mem (bound : tid < block.layout.size) : baseId ∉ stackOf tid :=
  (h.linked tid bound).baseId_not_mem h.base

/-- A thread stands on the head of its stack. -/
theorem eq_headD (stands : (block.state.thread tid).top = some id) :
    id = (stackOf tid).headD baseId :=
  Option.some.inj (stands.symm.trans (h.tops tid (h.lt_of_top stands)))

/-- The frame set aside for a thread is the one of its number. -/
theorem eq_homeId (reserved : (block.state.thread tid).home = some id) : id = homeId tid :=
  Option.some.inj (reserved.symm.trans (h.homes tid (h.lt_of_home reserved)))

theorem isLive_of_mem (bound : tid < block.layout.size) (member : id ∈ stackOf tid) :
    block.state.arena.isLive id = true :=
  (h.linked tid bound).isLive member

theorem isLive_homeId (bound : tid < block.layout.size) :
    block.state.arena.isLive (homeId tid) = true := by
  obtain ⟨parent, depth, link, -⟩ := h.reserved tid bound
  exact FrameArena.isLive_of_linkOf link

/-- The frame a thread stands on. -/
theorem exists_top (bound : tid < block.layout.size) :
    ∃ frame, block.state.arena.get? ((stackOf tid).headD baseId) = some frame ∧
      frame.depth = .ofLevel (stackOf tid).length := by
  obtain ⟨parent, link⟩ := (h.linked tid bound).exists_link_head h.base
  obtain ⟨frame, hframe, -, depth⟩ := FrameArena.linkOf_eq_some.1 link
  exact ⟨frame, hframe, depth⟩

/-- **Changes that touch no link** keep the stacks. -/
theorem congr (same : SameShape block after)
    (template : ∀ work, after.board.posted = some work → FirstLevel after.board.template) :
    Stacked stackOf after := by
  -- every clause reads the layout, the links, the tops and the homes only
  refine ⟨?_, ?_, ?_, same.sound, (same.links _).trans h.base, ?_, ?_, ?_, ?_, ?_, ?_, ?_, template⟩
  all_goals try rw [same.layout]
  · exact h.maps
  · exact same.initialized.trans h.initialized
  · exact same.size.trans h.sized
  · exact fun tid bound => (same.homes tid).trans (h.homes tid bound)
  · intro tid bound
    rw [same.links]
    exact h.reserved tid bound
  · exact fun tid bound => (same.tops tid).trans (h.tops tid bound)
  · exact fun tid bound => (h.linked tid bound).congr fun id _ => same.links id
  · exact h.ids
  · exact h.nodup
  · exact h.disjoint

/-- Spending a clause touches no link. -/
theorem takePendingThreads (tid : Nat) :
    Stacked stackOf { block with state := (block.state.takePendingThreads tid).2 } :=
  h.congr (.modifyThread h.sound _ (fun _ => by constructor <;> rfl) tid) h.template

/-- A frame that is stored next is in no stack. -/
theorem nextId_not_mem (bound : tid < block.layout.size) :
    block.state.arena.nextId ∉ stackOf tid :=
  fun member => h.sound.ne_nextId (h.isLive_of_mem bound member) rfl

/-- An id that is not live lies behind those the block started with. -/
theorem size_lt_of_not_isLive (dead : block.state.arena.isLive id = false) :
    block.layout.size < id.index := by
  by_contra inside
  -- the outermost frame and the frames set aside for the threads are always live
  obtain ⟨_ | tid⟩ := id
  · have live := FrameArena.isLive_of_linkOf h.base
    rw [show baseId = ⟨0⟩ from rfl, dead] at live
    cases live
  · have bound : tid < block.layout.size := Nat.le_of_not_lt inside
    have live := h.isLive_homeId bound
    rw [homeId, dead] at live
    cases live

end Stacked

/-! ## Replacing the stack of one thread -/

/-- A change that gives thread `tid` the stack `stack` and leaves the other stacks alone. -/
structure Restacked (stackOf : Nat → List FrameId) (tid : Nat) (stack : List FrameId)
    (before after : Block) : Prop where
  layout : after.layout = before.layout
  initialized : after.initialized = before.initialized
  size : after.state.threads.size = before.state.threads.size
  sound : after.state.arena.Sound
  others : ∀ other, other ≠ tid → after.state.thread other = before.state.thread other
  home : (after.state.thread tid).home = (before.state.thread tid).home
  top : (after.state.thread tid).top = some (stack.headD baseId)
  linked : after.state.arena.Linked stack
  nodup : stack.Nodup
  /-- The stack is made of frames of the old one, the frame set aside for the thread, and new ones.
  -/
  sources : ∀ id ∈ stack, id ∈ stackOf tid ∨ id = homeId tid ∨ before.state.arena.isLive id = false
  /-- The links that may change are those in the old and the new stack. -/
  links : ∀ id, id ∉ stackOf tid → id ≠ homeId tid → before.state.arena.isLive id = true →
    after.state.arena.linkOf id = before.state.arena.linkOf id
  reserved : ∃ parent depth, after.state.arena.linkOf (homeId tid) = some (parent, depth) ∧
    ∀ id, parent = some id → id = baseId
  template : ∀ work, after.board.posted = some work → FirstLevel after.board.template

namespace Stacked

variable (h : Stacked stackOf block) (bound : tid < block.layout.size)

include h bound

/-- The frame set aside for a thread is in no other thread's stack. -/
theorem homeId_not_mem {other : Nat} (inside : other < block.layout.size) (ne : other ≠ tid) :
    homeId tid ∉ stackOf other := by
  intro member
  rcases h.ids other inside _ member with same | later
  · exact ne (BlockState.homeId_inj.1 same).symm
  · have : block.layout.size < tid + 1 := later
    omega

/-- **Replacing one stack** keeps a block stacked. -/
theorem replace {stack : List FrameId} (change : Restacked stackOf tid stack block after) :
    Stacked (Function.update stackOf tid stack) after := by
  -- the links that may change are in the old or the new stack of the thread, and the other stacks
  -- are disjoint from both
  have foreign {other : Nat} (inside : other < block.layout.size) (ne : other ≠ tid) {id : FrameId}
      (member : id ∈ stackOf other) :
      after.state.arena.linkOf id = block.state.arena.linkOf id := by
    refine change.links id (fun mine => ?_) (fun same => ?_) (h.isLive_of_mem inside member)
    · exact h.disjoint other inside tid bound ne member mine
    · exact h.homeId_not_mem bound inside ne (same ▸ member)
  have apart {other : Nat} (inside : other < block.layout.size) (ne : other ≠ tid) :
      stack.Disjoint (stackOf other) := by
    intro id mine member
    rcases change.sources id mine with old | rfl | fresh
    · exact h.disjoint other inside tid bound ne member old
    · exact h.homeId_not_mem bound inside ne member
    · rw [h.isLive_of_mem inside member] at fresh
      cases fresh
  refine ⟨?_, ?_, ?_, change.sound, ?_, ?_, ?_, ?_, ?_, ?_, ?_, ?_, change.template⟩
  all_goals try rw [change.layout]
  · exact h.maps
  · exact change.initialized.trans h.initialized
  · exact change.size.trans h.sized
  · have base := h.baseId_not_mem bound
    rw [change.links baseId base (BlockState.homeId_ne_baseId tid).symm
      (FrameArena.isLive_of_linkOf h.base)]
    exact h.base
  · intro other inside
    by_cases same : other = tid
    · rw [same]
      exact change.home.trans (h.homes tid bound)
    · rw [change.others other same]
      exact h.homes other inside
  · intro other inside
    by_cases same : other = tid
    · rw [same]
      exact change.reserved
    · rw [change.links (homeId other) (h.homeId_not_mem inside bound (Ne.symm same))
        (mt BlockState.homeId_inj.1 same) (h.isLive_homeId inside)]
      exact h.reserved other inside
  · intro other inside
    by_cases same : other = tid
    · rw [same, Function.update_self]
      exact change.top
    · rw [Function.update_of_ne same]
      exact (congrArg Thread.top (change.others other same)).trans (h.tops other inside)
  · intro other inside
    by_cases same : other = tid
    · rw [same, Function.update_self]
      exact change.linked
    · rw [Function.update_of_ne same]
      exact (h.linked other inside).congr fun id member => foreign inside same member
  · -- a frame that was not live is new, and so lies behind those the block started with
    intro other inside id member
    by_cases same : other = tid
    · rw [same, Function.update_self] at member
      rw [same]
      rcases change.sources id member with old | home | fresh
      · exact h.ids tid bound id old
      · exact .inl home
      · exact .inr (h.size_lt_of_not_isLive fresh)
    · rw [Function.update_of_ne same] at member
      exact h.ids other inside id member
  · intro other inside
    by_cases same : other = tid
    · rw [same, Function.update_self]
      exact change.nodup
    · rw [Function.update_of_ne same]
      exact h.nodup other inside
  · intro one inside other inside' ne
    by_cases mine : one = tid
    · rw [mine, Function.update_self, Function.update_of_ne (mine ▸ ne.symm)]
      exact apart inside' (mine ▸ ne.symm)
    · rw [Function.update_of_ne mine]
      by_cases yours : other = tid
      · rw [yours, Function.update_self]
        exact (apart inside mine).symm
      · rw [Function.update_of_ne yours]
        exact h.disjoint one inside other inside' ne

/-! ## What the dispatch steps do to a stack -/

/-- Entering a serialized region pushes a frame. -/
theorem opened (hframe : block.state.arena.get? ((stackOf tid).headD baseId) = some frame) :
    Restacked stackOf tid (block.state.arena.nextId :: stackOf tid) block
      (block.entered tid ((stackOf tid).headD baseId) frame) := by
  have bound' := h.lt_threads bound
  -- the new frame is nested one deeper than the old top, which is as deep as the stack is high
  have depth : frame.depth = .ofLevel (stackOf tid).length := by
    obtain ⟨other, hother, depth⟩ := h.exists_top bound
    rw [hframe, Option.some.injEq] at hother
    rw [hother, depth]
  have self : (block.entered tid ((stackOf tid).headD baseId) frame).state.thread tid =
      { block.state.thread tid with top := some block.state.arena.nextId } :=
    BlockState.thread_openSerial_self bound'
  have links (id : FrameId) :
      (block.entered tid ((stackOf tid).headD baseId) frame).state.arena.linkOf id =
        if id = block.state.arena.nextId then
          some (some ((stackOf tid).headD baseId), .ofLevel ((stackOf tid).length + 1))
        else block.state.arena.linkOf id := by
    rw [Block.entered, BlockState.linkOf_openSerial h.sound, depth, Nesting.deeper_ofLevel]
  have old {id : FrameId} (live : block.state.arena.isLive id = true) :
      (block.entered tid ((stackOf tid).headD baseId) frame).state.arena.linkOf id =
        block.state.arena.linkOf id := by
    rw [links, if_neg (h.sound.ne_nextId live)]
  refine ⟨rfl, rfl, BlockState.size_openSerial, BlockState.sound_openSerial h.sound,
    fun _ ne => BlockState.thread_openSerial_of_ne ne, (congrArg Thread.home self).trans rfl,
    congrArg Thread.top self, ?_, ?_, ?_, ?_, ?_, h.template⟩
  · refine ⟨(links _).trans (if_pos rfl), ?_⟩
    exact (h.linked tid bound).congr fun id member => old (h.isLive_of_mem bound member)
  · exact List.nodup_cons.2 ⟨h.nextId_not_mem bound, h.nodup tid bound⟩
  · intro id member
    rcases List.mem_cons.1 member with rfl | member
    · refine .inr (.inr ?_)
      rw [FrameArena.isLive, h.sound.get?_nextId]
      rfl
    · exact .inl member
  · exact fun id _ _ live => old live
  · rw [old (h.isLive_homeId bound)]
    exact h.reserved tid bound

/-- The frame below the top of a stack is another one. -/
theorem headD_ne (stack : stackOf tid = id :: below) : below.headD baseId ≠ id := by
  have nodup := h.nodup tid bound
  have base := h.baseId_not_mem bound
  rw [stack] at nodup base
  cases below with
  | nil => exact fun same => base (same ▸ List.mem_cons_self)
  | cons next below =>
    rintro rfl
    exact (List.nodup_cons.1 nodup).1 List.mem_cons_self

/-- Leaving a serialized region releases the top of the stack. -/
theorem closed (stack : stackOf tid = id :: below) (notHome : id ≠ homeId tid) :
    Restacked stackOf tid below block
      { block with state := block.state.closeSerial tid id (below.headD baseId) loop } := by
  have bound' := h.lt_threads bound
  have linked := h.linked tid bound
  have nodup := h.nodup tid bound
  have distinct := h.headD_ne bound stack
  rw [stack] at linked nodup
  have self : (block.state.closeSerial tid id (below.headD baseId) loop).thread tid =
      { block.state.thread tid with top := some (below.headD baseId), loop } :=
    BlockState.thread_closeSerial_self bound'
  have kept {other : FrameId} (ne : other ≠ id) :
      (block.state.closeSerial tid id (below.headD baseId) loop).arena.linkOf other =
        block.state.arena.linkOf other := by
    rw [BlockState.linkOf_closeSerial distinct, if_neg ne]
  refine ⟨rfl, rfl, BlockState.size_closeSerial, BlockState.sound_closeSerial h.sound,
    fun _ ne => BlockState.thread_closeSerial_of_ne ne, (congrArg Thread.home self).trans rfl,
    congrArg Thread.top self, ?_, (List.nodup_cons.1 nodup).2, ?_, ?_, ?_, h.template⟩
  · refine linked.2.congr fun other member => kept ?_
    rintro rfl
    exact (List.nodup_cons.1 nodup).1 member
  · exact fun other member => .inl (stack ▸ List.mem_cons_of_mem id member)
  · intro other outside _ _
    refine kept ?_
    rintro rfl
    exact outside (stack ▸ List.mem_cons_self)
  · show ∃ parent depth, (block.state.closeSerial tid id (below.headD baseId) loop).arena.linkOf
      (homeId tid) = some (parent, depth) ∧ _
    rw [kept notHome.symm]
    exact h.reserved tid bound

/-- Joining a team leaves nothing on the stack but the frame set aside for the thread. -/
theorem joined (template : FirstLevel block.board.template) :
    Restacked stackOf tid [homeId tid] block (block.joined tid (homeId tid)) := by
  have bound' := h.lt_threads bound
  have self : (block.joined tid (homeId tid)).state.thread tid =
      { block.state.thread tid with top := some (homeId tid), event := block.board.events.next } :=
    BlockState.thread_joinTeam_self bound'
  have links (id : FrameId) : (block.joined tid (homeId tid)).state.arena.linkOf id =
      if id = homeId tid then some (some baseId, .level1) else block.state.arena.linkOf id := by
    rw [Block.joined, BlockState.linkOf_joinTeam (h.isLive_homeId bound), ← template.1,
      ← template.2]
    rfl
  refine ⟨rfl, rfl, BlockState.size_joinTeam, h.sound.overwrite _ _,
    fun _ ne => BlockState.thread_joinTeam_of_ne ne, (congrArg Thread.home self).trans rfl,
    congrArg Thread.top self, ⟨(links _).trans (if_pos rfl), trivial⟩, List.nodup_singleton _,
    ?_, ?_, ?_, h.template⟩
  · exact fun id member => .inr (.inl (List.mem_singleton.1 member))
  · exact fun id _ ne _ => (links id).trans (if_neg ne)
  · exact ⟨_, _, (links _).trans (if_pos rfl), fun id same => (Option.some.inj same).symm⟩

/-- Leaving a first-level region empties the stack. -/
theorem left :
    Restacked stackOf tid [] block { block with state := block.state.setTop tid baseId } := by
  have bound' := h.lt_threads bound
  have self : (block.state.setTop tid baseId).thread tid =
      { block.state.thread tid with top := some baseId } := BlockState.thread_setTop_self bound'
  refine ⟨rfl, rfl, BlockState.size_setTop, h.sound, fun _ ne => BlockState.thread_setTop_of_ne ne,
    (congrArg Thread.home self).trans rfl, congrArg Thread.top self, trivial, List.nodup_nil,
    fun id member => ?_, fun _ _ _ _ => rfl, h.reserved tid bound, h.template⟩
  · cases member

end Stacked

/-! ## New blocks -/

/-- The stacks a block starts with. -/
def initialStack (mode : ExecMode) (tid : Nat) : List FrameId :=
  match mode with
  | .generic => []
  | .spmd => [homeId tid]

/-- **A new block is stacked** if its lanes have threads: empty stacks in generic mode, the
first-level frames in SPMD mode. -/
theorem stacked_of_mapsLanes {arch : Arch} {mode : ExecMode} {config : LaunchConfig}
    (maps : block.layout.MapsLanes) (created : create arch mode config = .ok block)
    (initialized : block.initialized = true) : Stacked (initialStack mode) block := by
  obtain ⟨size, -, rfl⟩ := eq_of_create created initialized
  cases mode with
  | generic =>
    have thread {tid : Nat} (bound : tid < size) :
        (initialState .generic size config).thread tid =
          { top := some baseId, home := some (homeId tid) } :=
      BlockState.thread_withStacks bound
    refine ⟨maps, rfl, BlockState.size_withStacks, BlockState.sound_withStacks, ?_, ?_, ?_, ?_, ?_,
      ?_, ?_, ?_, ?_⟩
    · exact FrameArena.linkOf_of_get? ((BlockState.get?_withStacks baseId).trans (if_pos rfl))
    · exact fun tid bound => congrArg Thread.home (thread bound)
    · intro tid bound
      have blank : (initialState .generic size config).arena.get? (homeId tid) = some {} := by
        refine (BlockState.get?_withStacks (homeId tid)).trans ?_
        rw [if_neg (BlockState.homeId_ne_baseId tid)]
        exact if_pos (Nat.succ_le_of_lt bound)
      exact ⟨none, .sequential, FrameArena.linkOf_of_get? blank, fun _ absent => by cases absent⟩
    · exact fun tid bound => congrArg Thread.top (thread bound)
    · exact fun _ _ => trivial
    · exact fun _ _ _ member => absurd member List.not_mem_nil
    · exact fun _ _ => List.nodup_nil
    · exact fun _ _ _ _ _ => List.disjoint_nil_left _
    · exact fun _ posted => by cases posted
  | spmd =>
    have thread {tid : Nat} (bound : tid < size) :
        (initialState .spmd size config).thread tid =
          { top := some (homeId tid), home := some (homeId tid) } :=
      BlockState.thread_spmd bound
    have link {tid : Nat} (bound : tid < size) :
        (initialState .spmd size config).arena.linkOf (homeId tid) =
          some (some baseId, .level1) := by
      have member : (initialState .spmd size config).arena.get? (homeId tid) =
          some ((Frame.initial config.threadLimit.toNat).spmdMember baseId tid size) := by
        refine (BlockState.get?_spmd (homeId tid)).trans ?_
        rw [if_neg (BlockState.homeId_ne_baseId tid)]
        exact if_pos (Nat.succ_le_of_lt bound)
      exact FrameArena.linkOf_of_get? member
    refine ⟨maps, rfl, BlockState.size_spmd, BlockState.sound_spmd, ?_, ?_, ?_, ?_, ?_, ?_, ?_,
      ?_, ?_⟩
    · exact FrameArena.linkOf_of_get? ((BlockState.get?_spmd baseId).trans (if_pos rfl))
    · exact fun tid bound => congrArg Thread.home (thread bound)
    · exact fun tid bound => ⟨_, _, link bound, fun _ same => (Option.some.inj same).symm⟩
    · exact fun tid bound => congrArg Thread.top (thread bound)
    · exact fun tid bound => ⟨link bound, trivial⟩
    · exact fun _ _ _ member => .inl (List.mem_singleton.1 member)
    · exact fun _ _ => List.nodup_singleton _
    · rintro one - other - ne id mine yours
      refine ne (BlockState.homeId_inj.1 ?_)
      rw [← List.mem_singleton.1 mine, ← List.mem_singleton.1 yours]
    · exact fun _ posted => by cases posted

/-- In generic mode it takes a valid device for that. -/
theorem stacked_of_create {arch : Arch} {mode : ExecMode} {config : LaunchConfig}
    (valid : mode = .generic → arch.isValid = true)
    (created : create arch mode config = .ok block) (initialized : block.initialized = true) :
    Stacked (initialStack mode) block :=
  stacked_of_mapsLanes (mapsLanes_of_create valid created) created initialized

end Block

end RegionDispatch
