import RegionDispatch.Proofs.Block.Control
import RegionDispatch.Proofs.Block.Effects
import RegionDispatch.Proofs.Block.Stacks

/-! # The blocks that can be reached

What any sequence of calls makes of the stacks of a block. All of it is read off what one call can
do: only entering a serialized region pushes a frame, and only leaving one releases a frame.

* **`Block.StackStep`**, `Block.Stacked.stepped` — how one call changes the stacks of a block,
  however it ends.
* **`Block.Paid`** — each thread has its own serialized regions on its stack, and leaves no others.
* `Block.stacks_run_of_create` — what that says of every block that can be reached. -/

namespace RegionDispatch

open Dispatch
open BlockState (baseId homeId)

namespace Block

variable {block before after : Block} {stackOf : Nat → List FrameId} {op : Operation}
  {returned : Bool} {lane tid : Nat}

/-- The serialized regions on the stack of a thread: all frames but the one set aside for it. -/
def regionsOf (stackOf : Nat → List FrameId) (tid : Nat) : Nat :=
  (stackOf tid).countP fun id => decide (id ≠ homeId tid)

theorem regionsOf_update {stack : List FrameId} {other : Nat} :
    regionsOf (Function.update stackOf tid stack) other =
      if other = tid then stack.countP fun id => decide (id ≠ homeId tid)
      else regionsOf stackOf other := by
  rw [regionsOf]
  split
  · next same => rw [same, Function.update_self]
  · next other => rw [Function.update_of_ne other, regionsOf]

/-- A new block has no serialized regions. -/
theorem regionsOf_initialStack (mode : ExecMode) : regionsOf (initialStack mode) tid = 0 := by
  cases mode <;> simp [regionsOf, initialStack]

/-- A thread enters a serialized region by a call. -/
def entriesBy (layout : BlockLayout) (op : Operation) (returned : Bool) (tid : Nat) : Nat :=
  (op.isBegin && returned && decide (op.caller? layout = some tid)).toNat

/-- A thread leaves a serialized region by a call. -/
def exitsBy (layout : BlockLayout) (op : Operation) (returned : Bool) (tid : Nat) : Nat :=
  (op.isEnd && returned && decide (op.caller? layout = some tid)).toNat

/-- **How one call changes the stacks**, by the answer it gets. -/
inductive StackStep (layout : BlockLayout) (stackOf : Nat → List FrameId) :
    (op : Operation) → (returned : Bool) → (Nat → List FrameId) → Prop where
  | kept {op : Operation} {returned : Bool} (enters : (op.isBegin && returned) = false)
      (leaves : (op.isEnd && returned) = false) : StackStep layout stackOf op returned stackOf
  | joined {lane : Nat} {fullRuntime returned : Bool} :
      StackStep layout stackOf (.enterRegion lane fullRuntime) returned
        (Function.update stackOf lane [homeId lane])
  | left {lane tid : Nat} (owner : layout.threadOf lane = .ok tid) :
      StackStep layout stackOf (.exitRegion lane) true (Function.update stackOf tid [])
  | opened {lane tid : Nat} {top : FrameId} (owner : layout.threadOf lane = .ok tid) :
      StackStep layout stackOf (.beginSerial lane) true
        (Function.update stackOf tid (top :: stackOf tid))
  | closed {lane tid : Nat} {top : FrameId} {below : List FrameId}
      (owner : layout.threadOf lane = .ok tid) (stack : stackOf tid = top :: below)
      (away : top ≠ homeId tid) :
      StackStep layout stackOf (.endSerial lane) true (Function.update stackOf tid below)

/-- A thread leaves no serialized regions but its own. -/
theorem StackStep.balance {layout : BlockLayout} {stackOf' : Nat → List FrameId}
    (step : StackStep layout stackOf op returned stackOf') (tid : Nat) :
    exitsBy layout op returned tid + regionsOf stackOf' tid ≤
      entriesBy layout op returned tid + regionsOf stackOf tid := by
  have caller {lane tid : Nat} (owner : layout.threadOf lane = .ok tid) :
      (layout.threadOf lane).toOption = some tid := by
    rw [owner]
    rfl
  cases step with
  | kept enters leaves => rw [exitsBy, entriesBy, enters, leaves, Bool.false_and]
  | joined =>
    rw [regionsOf_update]
    split
    · next same => simp [same, exitsBy, Operation.isEnd]
    · exact Nat.le_refl _
  | left owner =>
    rw [regionsOf_update]
    split
    · exact Nat.zero_le _
    · exact Nat.le_refl _
  | @opened lane own top owner =>
    rw [regionsOf_update, entriesBy, Operation.caller?, caller owner]
    split
    · next same =>
      -- the new frame is at most one region more
      subst same
      have entered := List.countP_cons (p := fun id => decide (id ≠ homeId tid)) (a := top)
        (l := stackOf tid)
      rw [entered, regionsOf]
      simp only [exitsBy, Operation.isBegin, Operation.isEnd, Bool.false_and, Bool.true_and,
        Bool.toNat_false, decide_true, Bool.toNat_true]
      split <;> omega
    · next other => simp [exitsBy, Operation.isEnd]
  | @closed lane own top below owner stack away =>
    rw [regionsOf_update, exitsBy, Operation.caller?, caller owner]
    split
    · next same =>
      subst same
      rw [regionsOf, stack, List.countP_cons_of_pos (by simpa using away)]
      simp [Operation.isEnd, Nat.add_comm]
    · next other => simp [Ne.symm other]

/-- **What a call makes of the stacks.** The block is stacked again, and a frame is stored for each
region entered and released for each one left. -/
structure Stepped (stackOf : Nat → List FrameId) (op : Operation) (returned : Bool)
    (before after : Block) : Prop where
  layout : after.layout = before.layout
  live : after.liveFrames + (op.isEnd && returned).toNat =
    before.liveFrames + (op.isBegin && returned).toNat
  stacked : ∃ stackOf', Stacked stackOf' after ∧
    StackStep before.layout stackOf op returned stackOf'

/-- **What a call comes to for each thread.** The block is stacked again, a frame is stored for each
region entered and released for each one left, and a thread leaves no regions but its own. -/
structure Paid (stackOf : Nat → List FrameId) (op : Operation) (returned : Bool)
    (before after : Block) : Prop where
  layout : after.layout = before.layout
  live : after.liveFrames + (op.isEnd && returned).toNat =
    before.liveFrames + (op.isBegin && returned).toNat
  stacked : ∃ stackOf', Stacked stackOf' after ∧ ∀ tid,
    exitsBy before.layout op returned tid + regionsOf stackOf' tid ≤
      entriesBy before.layout op returned tid + regionsOf stackOf tid

theorem Stepped.paid (stepped : Stepped stackOf op returned before after) :
    Paid stackOf op returned before after := by
  obtain ⟨stackOf', stacked, step⟩ := stepped.stacked
  exact ⟨stepped.layout, stepped.live, stackOf', stacked, step.balance⟩

namespace Stacked

variable (h : Stacked stackOf block)

include h

/-- A thread outside all regions stands on the outermost frame. -/
theorem stack_eq_nil (bound : tid < block.layout.size) {frame : Frame}
    (hframe : block.state.arena.get? ((stackOf tid).headD baseId) = some frame)
    (outside : frame.depth.inParallel = false) : stackOf tid = [] := by
  obtain ⟨other, hother, depth⟩ := h.exists_top bound
  rw [hframe, Option.some.injEq] at hother
  rw [← hother] at depth
  cases hstack : stackOf tid with
  | nil => rfl
  | cons top below =>
    rw [depth, hstack] at outside
    rcases below with _ | ⟨next, below⟩ <;> cases outside

/-- A lane of the block has a thread of the block. -/
theorem lt_of_owns (owns : block.Owns lane tid) : tid < block.layout.size := by
  rw [owns.eq_owner h.maps]
  exact BlockLayout.owner_lt owns.inside

/-- A call that enters and leaves no serialized region, and touches no link. -/
theorem stepped_sameShape (same : SameShape block after)
    (template : ∀ work, after.board.posted = some work → FirstLevel after.board.template)
    (enters : (op.isBegin && returned) = false) (leaves : (op.isEnd && returned) = false) :
    Stepped stackOf op returned block after := by
  refine ⟨same.layout, ?_, stackOf, h.congr same template, .kept enters leaves⟩
  rw [enters, leaves, same.liveFrames_eq h.sound]

/-- A call that gives one thread another stack. -/
theorem stepped_replace {stack : List FrameId} (bound : tid < block.layout.size)
    (change : Restacked stackOf tid stack block after)
    (live : after.liveFrames + (op.isEnd && returned).toNat =
      block.liveFrames + (op.isBegin && returned).toNat)
    (step : StackStep block.layout stackOf op returned (Function.update stackOf tid stack)) :
    Stepped stackOf op returned block after :=
  ⟨change.layout, live, _, h.replace bound change, step⟩

/-- What a thread leaves is the top of its stack. -/
theorem stack_of_closes {top parent : FrameId} {frame below : Frame}
    (closes : block.Closes lane tid top parent frame below) :
    ∃ ids, stackOf tid = top :: ids ∧ parent = ids.headD baseId ∧ top ≠ homeId tid := by
  have bound := h.lt_of_owns closes.owns
  have same : top = (stackOf tid).headD baseId := h.eq_headD closes.stands
  have link := FrameArena.linkOf_of_get? closes.stored
  cases stack : stackOf tid with
  | nil =>
    -- the outermost frame stands on no other
    rw [same, stack, List.headD_nil, h.base, closes.linked] at link
    cases link
  | cons id ids =>
    have linked := (stack ▸ h.linked tid bound : block.state.arena.Linked (id :: ids)).1
    rw [stack] at same
    subst same
    rw [link, closes.linked, Option.some.injEq, Prod.mk.injEq, Option.some.injEq] at linked
    refine ⟨ids, rfl, linked.1, fun home => closes.away ?_⟩
    exact (h.homes tid bound).trans (congrArg some home.symm)

/-- **One call** steps from stacks to stacks. -/
theorem stepped (effect : Effect block op returned after) :
    Stepped stackOf op returned block after := by
  have self : SameShape block block := .refl h.sound
  cases effect with
  | refused => exact h.stepped_sameShape self h.template (Bool.and_false _) (Bool.and_false _)
  | spent posts =>
    exact h.stepped_sameShape (.modifyThread h.sound _ (fun _ => by constructor <;> rfl) 0)
      h.template rfl rfl
  | @posted lane size work fullRuntime returned top frame counters posts =>
    -- what is posted stands on the top of thread 0, and that is the outermost frame
    have shape : SameShape block
        { block with state := block.state.modifyThread 0 ({ · with pendingThreads := 0 }) } :=
      .modifyThread h.sound _ (fun _ => by constructor <;> rfl) 0
    have bound : 0 < block.layout.size := h.lt_of_top posts.stands
    have same : top = (stackOf 0).headD baseId := h.eq_headD posts.stands
    have outermost : top = baseId := by
      rw [same, h.stack_eq_nil bound (same ▸ posts.stored) posts.outside]
      rfl
    have first : FirstLevel (frame.teamTemplate top size) := ⟨congrArg some outermost, rfl⟩
    exact h.stepped_sameShape { shape with } (fun _ _ => first) rfl rfl
  | idle => exact h.stepped_sameShape self h.template rfl rfl
  | @joined lane fullRuntime returned home counters activates =>
    obtain ⟨work, posted⟩ := activates.posted
    have bound : lane < block.layout.size := h.lt_of_home activates.reserved
    obtain rfl : home = homeId lane := h.eq_homeId activates.reserved
    have change := h.joined bound (h.template work posted)
    exact h.stepped_replace bound { change with }
      (FrameArena.live_overwrite block.state.arena _ _) .joined
  | @left lane tid home parent frame exits =>
    have bound := h.lt_of_owns exits.owns
    obtain rfl : home = homeId tid := h.eq_homeId exits.reserved
    -- the frame set aside for the thread stands on the outermost frame
    have outermost : parent = baseId := by
      obtain ⟨parent', depth, link, only⟩ := h.reserved tid bound
      rw [FrameArena.linkOf_of_get? exits.stored, Option.some.injEq, Prod.mk.injEq] at link
      exact only parent (link.1.symm.trans exits.linked)
    subst outermost
    exact h.stepped_replace bound (h.left bound) rfl (.left exits.owns.owner)
  | retired =>
    exact h.stepped_sameShape { self with } (fun _ posted => nomatch posted) rfl rfl
  | counted => exact h.stepped_sameShape { self with } h.template rfl rfl
  | @opened lane tid top frame counters opens =>
    have bound := h.lt_of_owns opens.owns
    obtain rfl : top = (stackOf tid).headD baseId := h.eq_headD opens.stands
    exact h.stepped_replace bound { h.opened bound opens.stored with }
      (BlockState.live_openSerial h.sound) (.opened opens.owns.owner)
  | @closed lane tid top parent frame below loop closes distinct =>
    have bound := h.lt_of_owns closes.owns
    obtain ⟨ids, stack, rfl, notHome⟩ := h.stack_of_closes closes
    exact h.stepped_replace bound (h.closed bound stack notHome)
      (BlockState.live_closeSerial h.sound (FrameArena.isLive_of_get? closes.stored))
      (.closed closes.owns.owner stack notHome)
  | lost closes =>
    -- no frame of a stack stands on itself
    obtain ⟨ids, stack, self, -⟩ := h.stack_of_closes closes
    exact absurd self.symm (h.headD_ne (h.lt_of_owns closes.owns) stack)
  | requested owns stands =>
    exact h.stepped_sameShape (.modifyFrame h.sound _ (fun _ => by constructor <;> rfl) _)
      h.template rfl rfl
  | looped owns | hinted owns | limited owns =>
    exact h.stepped_sameShape (.modifyThread h.sound _ (fun _ => by constructor <;> rfl) _)
      h.template rfl rfl
  | bound => exact h.stepped_sameShape self h.template rfl rfl

theorem paid (effect : Effect block op returned after) : Paid stackOf op returned block after :=
  (h.stepped effect).paid

/-- **Workers are never refused for lack of a frame.** -/
theorem ends_enterRegion (lane : Nat) (fullRuntime : Bool) :
    Ends (enterRegion lane fullRuntime) block (fun _ _ => True)
      fun failure _ => ∀ tid, failure ≠ .rejected (.stackUnderflow tid) := by
  -- the guards refuse for other reasons, and only a member of the team is activated
  cases fullRuntime with
  | false => simp [enterRegion, ends_requireInitialized]
  | true =>
    cases hposted : block.board.posted with
    | none => simp [enterRegion, ends_requireInitialized_of h.initialized, hposted]
    | some work =>
      by_cases generic : block.layout.mode = .generic
      swap
      · simp [enterRegion, ends_requireInitialized_of h.initialized, hposted,
          ends_requireMaster h.maps, generic]
      by_cases worker : lane < block.layout.master
      swap
      · simp [enterRegion, ends_requireInitialized_of h.initialized, hposted,
          ends_requireMaster h.maps, generic, Nat.le_of_not_lt worker]
      by_cases member : lane < block.board.teamSize
      swap
      · rw [ends_of_ok (enterRegion_of_teamSize_le h.maps generic h.initialized hposted worker
          (Nat.le_of_not_lt member))]
        trivial
      have bound : lane < block.layout.size :=
        Nat.lt_of_lt_of_le worker block.layout.master_le_size
      rw [ends_enterRegion_of_member h.maps generic h.initialized hposted worker member
        (h.homes lane bound) (h.isLive_homeId bound)]
      simp [tally]

/-- **What leaving does.** A thread is refused unless its stack has a top above the frame set aside
for it that was pushed by entering a serialized region; then that top is released. -/
theorem endSerial_cases {tid : Nat} (inside : lane < block.layout.size)
    (owner : block.layout.threadOf lane = .ok tid) (bound : tid < block.layout.size) :
    (endSerial lane block = .error (.rejected (.unbalancedExit tid)) block ∧
      ∀ top below frame next, stackOf tid = top :: below → top ≠ homeId tid →
        block.state.arena.get? top = some frame →
        block.state.arena.get? (below.headD baseId) = some next → frame.serializedOn next = false) ∨
    ∃ top below frame next loop, stackOf tid = top :: below ∧ top ≠ homeId tid ∧
      block.state.arena.get? top = some frame ∧
      block.state.arena.get? (below.headD baseId) = some next ∧
      frame.serializedOn next = true ∧ next.parkedLoop = some loop ∧
      endSerial lane block = .ok ()
        { block with state := block.state.closeSerial tid top (below.headD baseId) loop } := by
  have refused := endSerial_of_not_serialized inside owner h.initialized
  have htop := h.tops tid bound
  -- refused on an empty stack, on the frame set aside for the thread, and on any other frame that
  -- was not pushed by entering
  cases stack : stackOf tid with
  | nil =>
    obtain ⟨frame, hframe, hparent, -⟩ := FrameArena.linkOf_eq_some.1 h.base
    rw [stack] at htop
    refine .inl ⟨refused (BlockState.topIsSerialized_of_parent_eq_none htop hframe hparent), ?_⟩
    intro top below frame next same
    cases same
  | cons top below =>
    have linked := h.linked tid bound
    rw [stack] at htop linked
    by_cases home : top = homeId tid
    · refine .inl ⟨refused (BlockState.topIsSerialized_of_home htop (home ▸ h.homes tid bound)), ?_⟩
      rintro top' below' frame next ⟨rfl, rfl⟩ notHome
      exact absurd home notHome
    obtain ⟨frame, hframe, hparent, -⟩ := FrameArena.linkOf_eq_some.1 linked.1
    obtain ⟨parent, link⟩ := linked.2.exists_link_head h.base
    obtain ⟨next, hnext, -, -⟩ := FrameArena.linkOf_eq_some.1 link
    have notHome : (block.state.thread tid).home ≠ some top := by
      rw [h.homes tid bound]
      exact fun same => home (Option.some.inj same).symm
    have serialized := BlockState.topIsSerialized_of_parent htop notHome hframe hparent hnext
    cases isSerialized : frame.serializedOn next with
    | false =>
      rw [isSerialized] at serialized
      refine .inl ⟨refused serialized, ?_⟩
      rintro top' below' frame' next' ⟨rfl, rfl⟩ - hframe' hnext'
      rw [hframe, Option.some.injEq] at hframe'
      rw [hnext, Option.some.injEq] at hnext'
      rw [← hframe', ← hnext', isSerialized]
    | true =>
      obtain ⟨loop, parked⟩ := Frame.exists_of_serializedOn isSerialized
      exact .inr ⟨top, below, frame, next, loop, rfl, home, hframe, hnext, isSerialized, parked,
        endSerial_of_serializedOn inside owner h.initialized htop notHome hframe hparent hnext
          (h.headD_ne bound stack) isSerialized parked⟩

/-- No call leads to a block that is not stacked. -/
theorem ends_perform (op : Operation) :
    Ends op.perform block (fun _ => Paid stackOf op true block)
      fun _ => Paid stackOf op false block :=
  (effect_perform h.initialized op).mono (fun _ _ => h.paid) fun _ _ => h.paid

end Stacked

/-! ## Any sequence of calls -/

/-- A call leads from `before` to `after`, storing `begun` frames and releasing `ended`. -/
structure Reaches (begun ended : Nat) (before after : Block) : Prop where
  layout : after.layout = before.layout
  stacked : ∃ stackOf, Stacked stackOf after
  live : after.liveFrames + ended = before.liveFrames + begun

theorem Paid.reaches (paid : Paid stackOf op returned before after) :
    Reaches (op.isBegin && returned).toNat (op.isEnd && returned).toNat before after := by
  obtain ⟨stackOf', stacked, -⟩ := paid.stacked
  exact ⟨paid.layout, ⟨stackOf', stacked⟩, paid.live⟩

theorem Reaches.trans {begun ended begun' ended' : Nat} {mid : Block}
    (first : Reaches begun ended before mid) (second : Reaches begun' ended' mid after) :
    Reaches (begun + begun') (ended + ended') before after where
  layout := second.layout.trans first.layout
  stacked := second.stacked
  live := by
    have := first.live
    have := second.live
    omega

/-- **A run** keeps the stacks and stores a frame for each serialized region entered but not left.
-/
theorem reaches_run (ops : List Operation) :
    ∀ {stackOf : Nat → List FrameId} {block : Block}, Stacked stackOf block →
      Reaches (successes Operation.isBegin (run ops block).1)
        (successes Operation.isEnd (run ops block).1) block (run ops block).2 := by
  -- by induction on the calls; the stacks after a call are whatever that call made of them
  induction ops with
  | nil => exact fun h => ⟨rfl, ⟨_, h⟩, rfl⟩
  | cons op ops ih =>
    intro stackOf block h
    have step := h.ends_perform op
    rw [run]
    unfold Ends at step
    rcases hop : op.perform block with ⟨⟨⟩, t⟩ | ⟨error | fault, t⟩
    all_goals
      rw [hop] at step
      have reaches := step.reaches
      obtain ⟨stackOf', stacked⟩ := reaches.stacked
    · have later := reaches.trans (ih stacked)
      simpa only [successes_cons, Except.isOk, Except.toBool] using later
    · have later := reaches.trans (ih stacked)
      simpa only [successes_cons, Except.isOk, Except.toBool] using later
    · -- a fault ends the run
      simpa only [successes_cons, Except.isOk, Except.toBool, successes_nil, Nat.add_zero]
        using reaches

/-! ## The blocks that can be reached -/

/-- The frames under a thread, from its top down to the outermost frame: all stored, linked by their
parents, without repetition, and as many levels deep as there are links. -/
structure ThreadStack (block : Block) (tid : Nat) (chain : List FrameId) : Prop where
  top : (block.state.thread tid).top = chain.head?
  live : ∀ id ∈ chain, block.state.arena.isLive id = true
  links : chain.IsChain fun id below => block.state.arena.parentOf id = some below
  acyclic : chain.Nodup
  last : chain.getLast? = some baseId
  outermost : block.state.arena.parentOf baseId = none
  level : ∀ lane, lane < block.layout.size → block.layout.threadOf lane = .ok tid →
    Block.level lane block = .ok (min 2 (chain.length - 1)) block

theorem Stacked.threadStack (h : Stacked stackOf block) {tid : Nat}
    (bound : tid < block.layout.size) :
    ThreadStack block tid (stackOf tid ++ [baseId]) := by
  have linked := h.linked tid bound
  refine ⟨?_, ?_, linked.isChain, ?_, ?_, FrameArena.parentOf_of_linkOf h.base, ?_⟩
  · rw [h.tops tid bound]
    cases stackOf tid <;> rfl
  · intro id member
    rcases List.mem_append.1 member with member | member
    · exact linked.isLive member
    · rw [List.mem_singleton.1 member]
      exact FrameArena.isLive_of_linkOf h.base
  · refine List.nodup_append.2 ⟨h.nodup tid bound, List.nodup_singleton _, ?_⟩
    intro id mine other last same
    rw [List.mem_singleton.1 last] at same
    exact linked.baseId_not_mem h.base (same ▸ mine)
  · rw [List.getLast?_concat]
  · intro lane inside owner
    obtain ⟨frame, hframe, depth⟩ := h.exists_top bound
    rw [List.length_append, List.length_singleton, Nat.add_sub_cancel, ← Nesting.level_ofLevel,
      ← depth]
    exact query_eq_ok inside owner h.initialized (h.tops tid bound) hframe _ _

/-- **The stacks of every block that can be reached.** Whatever is called on a new block with the
full runtime, refused calls included: every thread has a stack down to the outermost frame; that
frame and the frames set aside for the threads are stored, so that no worker is refused for lack of
one; and the frames stored are those the block started with and one for each serialized region that
was entered and not left. -/
theorem stacks_run_of_create {arch : Arch} {mode : ExecMode} {config : LaunchConfig}
    (valid : arch.isValid = true) (created : create arch mode config = .ok block)
    (initialized : block.initialized = true) (ops : List Operation) :
    (∀ tid, tid < block.layout.size → ∃ chain, ThreadStack (run ops block).2 tid chain) ∧
    (run ops block).2.state.arena.isLive baseId = true ∧
    (∀ tid, tid < block.layout.size →
      ((run ops block).2.state.thread tid).home = some (homeId tid) ∧
        (run ops block).2.state.arena.isLive (homeId tid) = true) ∧
    (∀ lane fullRuntime tid after, enterRegion lane fullRuntime (run ops block).2 ≠
      .error (.rejected (.stackUnderflow tid)) after) ∧
    (run ops block).2.liveFrames + successes Operation.isEnd (run ops block).1 =
      block.layout.size + 1 + successes Operation.isBegin (run ops block).1 := by
  have reaches := reaches_run ops (stacked_of_create (fun _ => valid) created initialized)
  obtain ⟨stackOf, stacked⟩ := reaches.stacked
  have layout := reaches.layout
  have live := reaches.live
  rw [liveFrames_of_create created initialized] at live
  refine ⟨?_, FrameArena.isLive_of_linkOf stacked.base, ?_, ?_, live⟩
  · exact fun tid bound => ⟨_, stacked.threadStack (layout ▸ bound)⟩
  · exact fun tid bound =>
      ⟨stacked.homes tid (layout ▸ bound), stacked.isLive_homeId (layout ▸ bound)⟩
  · intro lane fullRuntime tid after refused
    have ends := stacked.ends_enterRegion lane fullRuntime
    rw [Ends, refused] at ends
    exact ends tid rfl

/-- Entering twice, leaving once on the other lane and once on the same. -/
def unbalanced : List Operation := [.beginSerial 0, .endSerial 1, .beginSerial 0, .endSerial 0]

theorem stacks_run_unbalanced : ∃ chain, ThreadStack (run unbalanced twoLanes).2 0 chain := by
  have created : create .volta .spmd { grid := .line 1, block := .line 2 } = .ok twoLanes := rfl
  exact (stacks_run_of_create (by decide) created rfl unbalanced).1 0 (by decide)

end Block

end RegionDispatch
