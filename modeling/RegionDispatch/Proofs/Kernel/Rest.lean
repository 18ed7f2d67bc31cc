import RegionDispatch.Proofs.Block.Create
import RegionDispatch.Proofs.Block.Region
import RegionDispatch.Proofs.Kernel.Confined

/-! # A generic block at rest and inside a region

Between regions every thread stands on the shared outermost frame; inside one the threads of some
lanes stand on their own first-level frames, as members of the team. In both cases the frames a
block starts with are stored, and no others.

* **`Block.AtRest limit nthreads clause`** — a block between regions, with the thread limit and the
  requested threads of the outermost frame and the clause pending for the next region. It stores the
  frames it started with (`Block.Grounded.liveFrames`), and every lane is at level 0
  (`Block.AtRest.level_eq`).
* **`Block.InRegion limit nthreads size inside`** — a block in a region of `size` members, of which
  those in `inside` stand on their own frames. Joining, the steps of a body and leaving lead from
  one such block to the next. -/

namespace RegionDispatch

open BlockState (baseId homeId)

/-- The outermost frame, once the requested threads are set. -/
def Frame.outermost (limit nthreads : Nat) : Frame := { Frame.initial limit with nthreads }

/-- The frame of a member of a first-level team. -/
def Frame.member (limit size rank nthreads : Nat) : Frame where
  rank := rank
  teamSize := size
  threadLimit := limit
  nthreads := nthreads
  depth := .level1
  parent := some baseId

namespace Block

variable {limit nthreads clause size lane tid : Nat} {inside : Nat → Prop} {block after : Block}

/-- What holds of a generic block whether or not a region runs on it. -/
structure Grounded (limit nthreads : Nat) (block : Block) : Prop where
  generic : block.layout.mode = .generic
  maps : block.layout.MapsLanes
  initialized : block.initialized = true
  sized : block.state.threads.size = block.layout.size
  sound : block.state.arena.Sound
  homes : ∀ tid, tid < block.layout.size → (block.state.thread tid).home = some (homeId tid)
  /-- The frames stored are the ones the block started with. -/
  live : ∀ id, block.state.arena.isLive id = true ↔ id.index ≤ block.layout.size
  base : block.state.arena.get? baseId = some (.outermost limit nthreads)

/-- A generic block between regions. -/
structure AtRest (limit nthreads clause : Nat) (block : Block) : Prop extends
    Grounded limit nthreads block where
  idle : ∀ tid, tid < block.layout.size → (block.state.thread tid).top = some baseId
  clause : (block.state.thread 0).pendingThreads = clause

/-- A generic block in a region, with the members in `inside` standing on their own frames. -/
structure InRegion (limit nthreads size : Nat) (inside : Nat → Prop) (block : Block) : Prop extends
    Grounded limit nthreads block where
  within : ∀ tid, inside tid → tid < block.layout.master
  stands : ∀ tid, inside tid → (block.state.thread tid).top = some (homeId tid)
  /-- A body may have set the requested threads of its own frame. -/
  member : ∀ tid, inside tid →
    ∃ n, block.state.arena.get? (homeId tid) = some (.member limit size tid n)
  outside : ∀ tid, tid < block.layout.size → ¬inside tid →
    (block.state.thread tid).top = some baseId

/-! ## Rest -/

theorem Grounded.lt_threads (h : Grounded limit nthreads block) (inside : tid < block.layout.size) :
    tid < block.state.threads.size := by
  rw [h.sized]
  exact inside

/-- No frame is stored but the outermost one and one for each thread. -/
theorem Grounded.liveFrames (h : Grounded limit nthreads block) :
    block.liveFrames = block.layout.size + 1 := by
  have last := FrameArena.index_lt_of_isLive ((h.live ⟨block.layout.size⟩).2 (Nat.le_refl _))
  rw [Block.liveFrames, h.sound.live_eq_card, ← Finset.card_range (block.layout.size + 1)]
  congr 1
  ext i
  rw [Finset.mem_filter, Finset.mem_range, Finset.mem_range, h.live]
  show i < _ ∧ i ≤ block.layout.size ↔ i < block.layout.size + 1
  have : block.layout.size < block.state.arena.slots.size := last
  omega

theorem Grounded.isLive_homeId (h : Grounded limit nthreads block)
    (inside : tid < block.layout.size) :
    block.state.arena.isLive (homeId tid) = true :=
  (h.live _).2 inside

/-- Outside all regions the level is 0 on every lane. -/
theorem AtRest.level_eq (h : AtRest limit nthreads clause block)
    (inside : lane < block.layout.size) :
    level lane block = .ok 0 block :=
  query_eq_ok inside (h.maps.threadOf_eq lane) h.initialized
    (h.idle _ (BlockLayout.owner_lt inside)) h.base _ _

/-- Between regions the clause of the next one can be pushed. -/
theorem AtRest.pushThreads (h : AtRest limit nthreads clause block) (bound : 0 < block.layout.size)
    (count : Nat) :
    AtRest limit nthreads count
      { block with state := block.state.modifyThread 0 ({ · with pendingThreads := count }) } := by
  have bound' := h.lt_threads bound
  have kept (other : Nat) :
      ((block.state.modifyThread 0 ({ · with pendingThreads := count })).thread other).home =
        (block.state.thread other).home ∧
      ((block.state.modifyThread 0 ({ · with pendingThreads := count })).thread other).top =
        (block.state.thread other).top := by
    rw [BlockState.thread_modifyThread]
    split <;> exact ⟨rfl, rfl⟩
  refine { h with sized := ?_, homes := ?_, idle := ?_, clause := ?_ }
  · exact (BlockState.size_modifyThread _).trans h.sized
  · exact fun other inside => (kept other).1.trans (h.homes other inside)
  · exact fun other inside => (kept other).2.trans (h.idle other inside)
  · exact congrArg Thread.pendingThreads (BlockState.thread_modifyThread_self bound')

/-- Between regions the requested threads of the outermost frame can be set. -/
theorem AtRest.setThreads (h : AtRest limit nthreads clause block) (count : Nat) :
    AtRest limit count clause
      { block with state := block.state.modifyFrame baseId ({ · with nthreads := count }) } := by
  refine { h with sound := ?_, live := ?_, base := ?_ }
  · exact h.sound.modify _ _
  · exact fun id =>
      (iff_of_eq (by rw [BlockState.arena_modifyFrame, FrameArena.isLive_modify])).trans
      (h.live id)
  · show (block.state.arena.modify baseId _).get? baseId = _
    rw [FrameArena.get?_modify_self, h.base]
    rfl

/-- A region is not begun yet. -/
theorem AtRest.inRegion (h : AtRest limit nthreads clause block) :
    InRegion limit nthreads size (fun _ => False) block where
  toGrounded := h.toGrounded
  within _ h := h.elim
  stands _ h := h.elim
  member _ h := h.elim
  outside tid bound _ := h.idle tid bound

/-- A region that everyone left is over. -/
theorem InRegion.atRest (h : InRegion limit nthreads size inside block) (left : ∀ tid, ¬inside tid)
    (hclause : (block.state.thread 0).pendingThreads = clause) :
    AtRest limit nthreads clause block where
  toGrounded := h.toGrounded
  idle tid bound := h.outside tid bound (left tid)
  clause := hclause

theorem InRegion.congr {inside' : Nat → Prop} (h : InRegion limit nthreads size inside block)
    (same : ∀ tid, inside tid ↔ inside' tid) : InRegion limit nthreads size inside' block := by
  rwa [← funext fun tid => propext (same tid)]

/-- A new block is at rest. -/
theorem atRest_of_create {arch : Arch} {config : LaunchConfig} (valid : arch.isValid = true)
    (created : create arch .generic config = .ok block) :
    AtRest config.threadLimit.toNat 0 0 block := by
  have maps := mapsLanes_of_create (fun _ => valid) created
  obtain ⟨size, -, rfl⟩ := eq_of_create created (initialized_of_create_generic created)
  have unset : (((BlockState.withStacks size (.initial config.threadLimit.toNat)).thread
      0).pendingThreads) = 0 := by
    rcases Nat.eq_zero_or_pos size with rfl | pos
    · rw [BlockState.thread_of_size_le (by simp)]
    · rw [BlockState.thread_withStacks pos]
  exact
    { generic := rfl
      maps
      initialized := rfl
      sized := BlockState.size_withStacks
      sound := BlockState.sound_withStacks
      homes := fun tid bound => by
        show ((BlockState.withStacks size _).thread tid).home = _
        rw [BlockState.thread_withStacks bound]
      live := fun id => by
        show (BlockState.withStacks size _).arena.isLive id = true ↔ id.index ≤ size
        rw [FrameArena.isLive, BlockState.get?_withStacks]
        by_cases isBase : id = baseId
        · simp [isBase, baseId]
        · by_cases home : id.index ≤ size <;> simp [isBase, home]
      base := by
        show (BlockState.withStacks size _).arena.get? baseId = _
        rw [BlockState.get?_withStacks, if_pos rfl]
        rfl
      idle := fun tid bound => by
        show ((BlockState.withStacks size _).thread tid).top = _
        rw [BlockState.thread_withStacks bound]
      clause := unset }

/-! ## Inside a region -/

/-- A member can act. -/
theorem InRegion.standing (h : InRegion limit nthreads size inside block) (hlane : inside lane) :
    Standing lane lane (homeId lane) block where
  inside := Nat.lt_of_lt_of_le (h.within lane hlane) block.layout.master_le_size
  owner := by
    rw [h.maps.threadOf_eq, BlockLayout.owner_of_lt_master (h.within lane hlane)]
  initialized := h.initialized
  sound := h.sound
  stands := h.stands lane hlane
  frame := by
    obtain ⟨n, hn⟩ := h.member lane hlane
    exact ⟨_, hn, rfl⟩
  home id hid := by
    have bound := Nat.lt_of_lt_of_le (h.within lane hlane) block.layout.master_le_size
    rw [h.homes lane bound, Option.some.injEq] at hid
    rw [← hid]
    exact h.isLive_homeId bound

/-- **What a member sees**: its rank is its lane, its team has `size` members, and it is directly
inside one region. -/
theorem InRegion.queries (h : InRegion limit nthreads size inside block) (hlane : inside lane) :
    threadNum lane block = .ok lane block ∧ teamSize lane block = .ok size block ∧
      level lane block = .ok 1 block := by
  have standing := h.standing hlane
  obtain ⟨n, hn⟩ := h.member lane hlane
  have ask {α : Type} (framed : Frame → α) (bare : BlockLayout → Nat → Thread → α) :=
    query_eq_ok standing.inside standing.owner standing.initialized standing.stands hn framed bare
  exact ⟨ask _ _, ask _ _, ask _ _⟩

/-- What a body does on its own lane keeps everyone in place. -/
theorem InRegion.localChange (h : InRegion limit nthreads size inside block)
    (change : LocalChange tid (homeId tid) block after) :
    InRegion limit nthreads size inside after where
  generic := by rw [change.layout]; exact h.generic
  maps := by rw [change.layout]; exact h.maps
  initialized := change.initialized.trans h.initialized
  sized := by rw [change.size, change.layout]; exact h.sized
  sound := change.sound
  homes other bound := by
    rw [change.layout] at bound
    exact (change.home_eq other).trans (h.homes other bound)
  live id := by rw [change.isLive, change.layout]; exact h.live id
  base := (change.frames baseId (BlockState.homeId_ne_baseId tid).symm).trans h.base
  within other hother := by rw [change.layout]; exact h.within other hother
  stands other hother := (change.top_eq other).trans (h.stands other hother)
  member other hother := by
    obtain ⟨n, hn⟩ := h.member other hother
    by_cases same : other = tid
    · obtain ⟨m, hm⟩ := change.topFrame
      subst same
      exact ⟨m, by rw [hm, hn]; rfl⟩
    · refine ⟨n, ?_⟩
      rw [change.frames _ (mt BlockState.homeId_inj.1 same), hn]
  outside other bound hother := by
    rw [change.layout] at bound
    exact (change.top_eq other).trans (h.outside other bound hother)

/-- A worker that is activated becomes a member. -/
theorem InRegion.joined (h : InRegion limit nthreads size inside block)
    (worker : lane < block.layout.master)
    (posted : block.board.memberFrame lane = .member limit size lane nthreads) :
    InRegion limit nthreads size (fun tid => tid = lane ∨ inside tid)
      (block.joined lane (homeId lane)) := by
  have bound : lane < block.layout.size := Nat.lt_of_lt_of_le worker block.layout.master_le_size
  have live := h.isLive_homeId bound
  have bound' := h.lt_threads bound
  have self : (block.joined lane (homeId lane)).state.thread lane =
      { block.state.thread lane with
        top := some (homeId lane)
        event := block.board.events.next } :=
    BlockState.thread_joinTeam_self bound'
  have others {other : Nat} (ne : other ≠ lane) :
      (block.joined lane (homeId lane)).state.thread other = block.state.thread other :=
    BlockState.thread_joinTeam_of_ne ne
  have frames (id : FrameId) : (block.joined lane (homeId lane)).state.arena.get? id =
      if id = homeId lane then some (.member limit size lane nthreads)
      else block.state.arena.get? id := by
    rw [Block.joined, BlockState.get?_joinTeam live, posted]
  -- joining overwrites a frame that is live already, so the frames stored stay the same
  refine { h with sized := ?_, sound := ?_, homes := ?_, live := ?_, base := ?_, within := ?_,
                  stands := ?_, member := ?_, outside := ?_ }
  · exact BlockState.size_joinTeam.trans h.sized
  · exact h.sound.overwrite _ _
  · intro other within
    by_cases same : other = lane
    · subst same
      exact (congrArg Thread.home self).trans (h.homes other within)
    · exact (congrArg Thread.home (others same)).trans (h.homes other within)
  · exact fun id => (iff_of_eq (by rw [Block.joined, BlockState.arena_joinTeam,
      FrameArena.isLive_overwrite])).trans (h.live id)
  · refine (frames baseId).trans ?_
    rw [if_neg (BlockState.homeId_ne_baseId lane).symm]
    exact h.base
  · rintro other (rfl | hother)
    · exact worker
    · exact h.within other hother
  · intro other hother
    by_cases same : other = lane
    · subst same
      exact congrArg Thread.top self
    · exact (congrArg Thread.top (others same)).trans (h.stands other (hother.resolve_left same))
  · intro other hother
    by_cases same : other = lane
    · subst same
      exact ⟨nthreads, (frames _).trans (if_pos rfl)⟩
    · obtain ⟨n, hn⟩ := h.member other (hother.resolve_left same)
      exact ⟨n, (frames _).trans ((if_neg (mt BlockState.homeId_inj.1 same)).trans hn)⟩
  · intro other within hother
    have ne : other ≠ lane := fun same => hother (.inl same)
    exact (congrArg Thread.top (others ne)).trans (h.outside other within fun i => hother (.inr i))

/-- A member that steps down to the outermost frame is no longer inside. -/
theorem InRegion.left (h : InRegion limit nthreads size inside block) (lane : Nat) :
    InRegion limit nthreads size (fun tid => inside tid ∧ tid ≠ lane)
      { block with state := block.state.setTop lane baseId } := by
  have others {other : Nat} (ne : other ≠ lane) :
      (block.state.setTop lane baseId).thread other = block.state.thread other :=
    BlockState.thread_setTop_of_ne ne
  have home (other : Nat) : ((block.state.setTop lane baseId).thread other).home =
      (block.state.thread other).home := by
    rw [BlockState.setTop, BlockState.thread_modifyThread]
    split <;> rfl
  refine { h with sized := ?_, homes := ?_, within := ?_, stands := ?_, member := ?_,
                  outside := ?_ }
  · exact BlockState.size_setTop.trans h.sized
  · exact fun other bound => (home other).trans (h.homes other bound)
  · exact fun other hother => h.within other hother.1
  · exact fun other hother =>
      (congrArg Thread.top (others hother.2)).trans (h.stands other hother.1)
  · exact fun other hother => h.member other hother.1
  · intro other bound hother
    by_cases same : other = lane
    · subst same
      have bound' := h.lt_threads bound
      exact congrArg Thread.top (BlockState.thread_setTop_self bound')
    · exact (congrArg Thread.top (others same)).trans
        (h.outside other bound fun i => hother ⟨i, same⟩)

end Block

end RegionDispatch
