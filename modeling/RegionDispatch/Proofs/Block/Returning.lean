import RegionDispatch.Proofs.Block.Detection
import RegionDispatch.Proofs.Block.Parking
import RegionDispatch.Proofs.Block.TurnedAway

/-! # Where a worker returns to

A worker that joins a team is put on the frame set aside for it, and that frame stands on the
outermost one, whatever the worker stood on before. The regions it enters and leaves inside the team
come and go on top of it. So leaving the team leads to the outermost frame: back to where the worker
was if it was outside all regions, and otherwise past the serialized regions it had open, which no
call can leave any more.

* `Block.wellNested` — a thread leaves exactly the regions it enters, while other threads do what
  they like.
* **`Block.Within`** — a thread inside its team with regions of its own on top; `Within.foreign`,
  `Within.opened` and `Within.closed` are the steps, `Within.run` the run.
* **`Block.top_exitRegion_of_active`** — where a worker returns to.
* **`Block.not_returns`** — a worker that does not return to where it was. -/

namespace RegionDispatch

open Dispatch
open BlockState (baseId homeId)

namespace Operation

/-- The thread whose stack a call is about. -/
def mover? (layout : BlockLayout) : Operation → Option Nat
  | enterRegion lane _ => some lane
  | exitRegion lane | beginSerial lane | endSerial lane =>
    if lane < layout.size then (layout.threadOf lane).toOption else none
  | _ => none

/-- Whether it is a call of the first-level protocol: the master posts a region, or a worker enters
or leaves one. -/
def isOrdinary (layout : BlockLayout) : Operation → Bool
  | prepareRegion lane _ _ => lane == layout.master
  | enterRegion lane _ | exitRegion lane | beginSerial lane | endSerial lane =>
    lane < layout.master
  | _ => false

end Operation

/-- Whether no fault ended the run at this call. -/
def Outcome.goesOn (outcome : Outcome) : Bool :=
  match outcome.result with
  | .error (.halted _) => false
  | _ => true

namespace FrameArena

/-- What leaving a serialized region asks of a frame: its rank, its team size, and whether it holds
parked loop state. -/
def roleOf (arena : FrameArena) (id : FrameId) : Option (Nat × Nat × Bool) :=
  (arena.get? id).map fun frame => (frame.rank, frame.teamSize, frame.parkedLoop.isSome)

variable {arena after : FrameArena} {id home : FrameId} {own : List FrameId}

theorem roleOf_eq_some {rank size : Nat} {parked : Bool} :
    arena.roleOf id = some (rank, size, parked) ↔
      ∃ frame, arena.get? id = some frame ∧ frame.rank = rank ∧ frame.teamSize = size ∧
        frame.parkedLoop.isSome = parked := by
  simp only [roleOf, Option.map_eq_some_iff, Prod.mk.injEq]

theorem roleOf_congr (same : after.get? id = arena.get? id) :
    after.roleOf id = arena.roleOf id := by
  rw [roleOf, roleOf, same]

/-- The frames `own` were pushed by entering serialized regions, the lowest one on `home`, and those
they stand on hold parked loop state. -/
structure Pushed (arena : FrameArena) (own : List FrameId) (home : FrameId) : Prop where
  alone : ∀ id ∈ own, ∃ parked, arena.roleOf id = some (0, 1, parked)
  parking : ∀ id ∈ (own ++ [home]).tail, ∃ rank size, arena.roleOf id = some (rank, size, true)

theorem Pushed.congr (h : arena.Pushed own home)
    (same : ∀ id ∈ own ++ [home], after.roleOf id = arena.roleOf id) : after.Pushed own home where
  alone id member := same id (List.mem_append_left _ member) ▸ h.alone id member
  parking id member := same id (List.mem_of_mem_tail member) ▸ h.parking id member

end FrameArena

namespace BlockState

variable {state : BlockState} {tid : Nat} {top parent home id : FrameId} {own : List FrameId}
  {frame : Frame} {loop : LoopState}

theorem roleOf_openSerial (sound : state.arena.Sound) (stored : state.arena.get? top = some frame) :
    (state.openSerial tid top frame).arena.roleOf id =
      if id = state.arena.nextId then some (0, 1, false)
      else if id = top then some (frame.rank, frame.teamSize, true)
      else state.arena.roleOf id := by
  rw [FrameArena.roleOf, get?_openSerial sound]
  split
  · rfl
  · split
    · next same =>
      rw [same, stored]
      rfl
    · rfl

theorem roleOf_closeSerial_of_ne (notParent : id ≠ parent) (notTop : id ≠ top) :
    (state.closeSerial tid top parent loop).arena.roleOf id = state.arena.roleOf id := by
  refine FrameArena.roleOf_congr (get?_closeSerial.trans ?_)
  rw [if_neg notParent, if_neg notTop]

/-- What is taken out of the parent is the parked loop state only. -/
theorem roleOf_closeSerial_parent (distinct : parent ≠ top) {rank size : Nat} {parked : Bool}
    (role : state.arena.roleOf parent = some (rank, size, parked)) :
    (state.closeSerial tid top parent loop).arena.roleOf parent = some (rank, size, false) := by
  obtain ⟨next, stored, rank', size', -⟩ := FrameArena.roleOf_eq_some.1 role
  refine FrameArena.roleOf_eq_some.2 ⟨{ next with parkedLoop := none }, ?_, rank', size', rfl⟩
  rw [get?_closeSerial, if_pos rfl, FrameArena.get?_release_of_ne distinct, stored]
  rfl

/-- Entering a region on top of others parks loop state in the frame it leaves. -/
theorem pushed_openSerial (sound : state.arena.Sound) (pushed : state.arena.Pushed own home)
    (head : top = (own ++ [home]).headD baseId) (stored : state.arena.get? top = some frame)
    (fresh : state.arena.nextId ∉ own ++ [home]) :
    (state.openSerial tid top frame).arena.Pushed (state.arena.nextId :: own) home where
  alone id member := by
    rw [roleOf_openSerial sound stored]
    split
    · exact ⟨false, rfl⟩
    · next old =>
      obtain ⟨parked, role⟩ := pushed.alone id ((List.mem_cons.1 member).resolve_left old)
      split
      · next same =>
        obtain ⟨frame', stored', rank, size, -⟩ := FrameArena.roleOf_eq_some.1 role
        rw [same, stored, Option.some.injEq] at stored'
        exact ⟨true, by rw [stored', rank, size]⟩
      · exact ⟨parked, role⟩
  parking id member := by
    have below : id ∈ own ++ [home] := member
    have old : id ≠ state.arena.nextId := fun same => fresh (same ▸ below)
    rw [roleOf_openSerial sound stored, if_neg old]
    split
    · exact ⟨_, _, rfl⟩
    · next notTop =>
      -- all but the top were stood on before
      refine pushed.parking id ?_
      cases stack : own ++ [home] with
      | nil => simp at stack
      | cons next ids =>
        rw [stack] at head below
        exact (List.mem_cons.1 below).resolve_left fun same => notTop (same.trans head.symm)

/-- Leaving one takes the loop state out of the frame it returns to. -/
theorem pushed_closeSerial (pushed : state.arena.Pushed (top :: own) home)
    (nodup : (top :: (own ++ [home])).Nodup) :
    (state.closeSerial tid top ((own ++ [home]).headD baseId) loop).arena.Pushed own home := by
  obtain ⟨notBelow, nodup⟩ := List.nodup_cons.1 nodup
  have apart : ∀ id ∈ own ++ [home], id ≠ top := fun id member same => notBelow (same ▸ member)
  have distinct : (own ++ [home]).headD baseId ≠ top := by
    cases own with
    | nil => exact apart home (List.mem_singleton_self home)
    | cons next ids => exact apart next List.mem_cons_self
  refine ⟨fun id member => ?_, fun id member => ?_⟩
  · obtain ⟨parked, role⟩ := pushed.alone id (List.mem_cons_of_mem top member)
    by_cases same : id = (own ++ [home]).headD baseId
    · subst same
      exact ⟨false, roleOf_closeSerial_parent distinct role⟩
    · have notTop := apart id (List.mem_append_left _ member)
      exact ⟨parked, (roleOf_closeSerial_of_ne same notTop).trans role⟩
  · have among := List.mem_of_mem_tail member
    obtain ⟨rank, size, role⟩ := pushed.parking id among
    refine ⟨rank, size, (roleOf_closeSerial_of_ne ?_ (apart id among)).trans role⟩
    cases stack : own ++ [home] with
    | nil => simp at stack
    | cons next ids =>
      rw [stack] at member nodup
      rintro rfl
      exact (List.nodup_cons.1 nodup).1 member

end BlockState

namespace Block

variable {block after : Block} {stackOf stackOf' : Nat → List FrameId} {op : Operation}
  {returned : Bool} {lane tid : Nat} {own : List FrameId}

/-- Whether a thread leaves exactly the regions it enters, `depth` regions in, whatever the other
threads do in between. -/
def wellNested (layout : BlockLayout) (tid : Nat) : (depth : Nat) → List Operation → Bool
  | depth, [] => depth == 0
  | depth, op :: ops =>
    if op.mover? layout ≠ some tid then wellNested layout tid depth ops
    else match op, depth with
      | .beginSerial _, depth => wellNested layout tid (depth + 1) ops
      | .endSerial _, depth + 1 => wellNested layout tid depth ops
      | _, _ => false

/-- The first call is of another thread, or enters a region, or leaves one that was entered. -/
theorem wellNested_cons {layout : BlockLayout} {depth : Nat} {ops : List Operation}
    (nested : wellNested layout tid depth (op :: ops) = true) :
    (op.mover? layout ≠ some tid ∧ wellNested layout tid depth ops = true) ∨
      op.mover? layout = some tid ∧
        ((∃ lane, op = .beginSerial lane ∧ wellNested layout tid (depth + 1) ops = true) ∨
          ∃ lane left, op = .endSerial lane ∧ depth = left + 1 ∧
            wellNested layout tid left ops = true) := by
  unfold wellNested at nested
  split at nested
  · next foreign => exact .inl ⟨foreign, nested⟩
  · next mine =>
    refine .inr ⟨not_not.1 mine, ?_⟩
    split at nested
    · exact .inl ⟨_, rfl, nested⟩
    · exact .inr ⟨_, _, rfl, rfl, nested⟩
    · cases nested

/-! ## Calls of other threads -/

theorem Owns.mover?_eq (owns : block.Owns lane tid) :
    (Operation.beginSerial lane).mover? block.layout = some tid ∧
      (Operation.endSerial lane).mover? block.layout = some tid ∧
      (Operation.exitRegion lane).mover? block.layout = some tid := by
  simp only [Operation.mover?, if_pos owns.inside, owns.toOption_threadOf, and_self]

/-- A lane whose calls are about a thread has that thread. -/
theorem owns_of_mover? (mover : (if lane < block.layout.size then
    (block.layout.threadOf lane).toOption else none) = some tid) : block.Owns lane tid := by
  split at mover
  · next inside =>
    refine ⟨inside, ?_⟩
    cases found : block.layout.threadOf lane with
    | error fault =>
      rw [found] at mover
      cases mover
    | ok own =>
      rw [found] at mover
      cases mover
      rfl
  · cases mover

/-- A lane that a call was accepted from belongs to the thread whose stack the call is about. -/
theorem Effect.owns_of_lookup? (effect : Effect block op true after)
    (looks : op.lookup? = some lane) (owner : block.layout.threadOf lane = .ok tid) :
    block.Owns lane tid := by
  refine ⟨?_, owner⟩
  cases effect with
  | left exits => exact Option.some.inj looks ▸ exits.owns.inside
  | opened opens => exact Option.some.inj looks ▸ opens.owns.inside
  | closed closes => exact Option.some.inj looks ▸ closes.owns.inside
  | _ => cases looks

/-- **The calls of other threads** leave the stack of a thread as it is. -/
theorem StackStep.eq_of_foreign (step : StackStep block.layout stackOf op returned stackOf')
    (effect : Effect block op returned after)
    (foreign : op.mover? block.layout ≠ some tid) : stackOf' tid = stackOf tid := by
  cases step with
  | kept => rfl
  | joined => exact Function.update_of_ne (fun same => foreign (congrArg some same.symm)) _ _
  | left owner =>
    refine Function.update_of_ne (fun same => foreign ?_) _ _
    exact same ▸ (effect.owns_of_lookup? rfl owner).mover?_eq.2.2
  | opened owner =>
    refine Function.update_of_ne (fun same => foreign ?_) _ _
    exact same ▸ (effect.owns_of_lookup? rfl owner).mover?_eq.1
  | closed owner =>
    refine Function.update_of_ne (fun same => foreign ?_) _ _
    exact same ▸ (effect.owns_of_lookup? rfl owner).mover?_eq.2.1

namespace Stacked

variable (h : Stacked stackOf block) (bound : tid < block.layout.size)

include h bound

/-- They leave the roles of its frames as well. -/
theorem roleOf_of_foreign (effect : Effect block op returned after)
    (foreign : op.mover? block.layout ≠ some tid) {id : FrameId} (member : id ∈ stackOf tid) :
    after.state.arena.roleOf id = block.state.arena.roleOf id := by
  cases effect with
  | refused | spent | posted | idle | left | retired | counted | looped | hinted | limited |
      bound => rfl
  | @joined lane _ _ home _ activates =>
    obtain rfl : home = homeId lane := h.eq_homeId activates.reserved
    have inside := h.lt_of_home activates.reserved
    have other : tid ≠ lane := fun same => foreign (congrArg some same.symm)
    refine FrameArena.roleOf_congr ((BlockState.get?_joinTeam activates.live).trans (if_neg ?_))
    exact fun same => h.homeId_not_mem inside bound other (same ▸ member)
  | @opened lane own top frame counters opens =>
    have inside := h.lt_of_owns opens.owns
    have other : tid ≠ own := fun same => foreign (same ▸ opens.owns.mover?_eq.1)
    have stands : top = (stackOf own).headD baseId := h.eq_headD opens.stands
    have notNew : id ≠ block.state.arena.nextId := fun same =>
      h.nextId_not_mem bound (same ▸ member)
    have notTop : id ≠ top := fun same => h.ne_top inside bound other member (same.trans stands)
    refine FrameArena.roleOf_congr ((BlockState.get?_openSerial h.sound).trans ?_)
    rw [if_neg notNew, if_neg notTop]
  | @closed lane own top parent frame below loop closes distinct =>
    have inside := h.lt_of_owns closes.owns
    have other : tid ≠ own := fun same => foreign (same ▸ closes.owns.mover?_eq.2.1)
    obtain ⟨ids, stack, rfl, -⟩ := h.stack_of_closes closes
    have apart : ∀ mine ∈ top :: ids, id ≠ mine := by
      rw [← stack]
      exact fun mine yours same => h.disjoint tid bound own inside other member (same ▸ yours)
    have notTop : id ≠ top := apart top List.mem_cons_self
    have notBelow : id ≠ ids.headD baseId := by
      cases ids with
      | nil =>
        rintro rfl
        exact h.baseId_not_mem bound member
      | cons next ids => exact apart next (List.mem_cons_of_mem _ List.mem_cons_self)
    refine FrameArena.roleOf_congr (BlockState.get?_closeSerial.trans ?_)
    rw [if_neg notBelow, if_neg notTop]
  | lost closes =>
    -- no frame of a stack stands on itself
    obtain ⟨ids, stack, self, -⟩ := h.stack_of_closes closes
    exact absurd self.symm (h.headD_ne (h.lt_of_owns closes.owns) stack)
  | @requested lane own count top =>
    rw [FrameArena.roleOf, FrameArena.roleOf]
    show ((block.state.arena.modify top _).get? id).map _ = _
    rw [FrameArena.get?_modify]
    split
    · rw [Option.map_map]
      rfl
    · rfl

end Stacked

/-! ## A thread inside its team -/

/-- **A thread inside its team**, with the regions whose frames are `own` open on top of the frame
set aside for it. -/
structure Within (stackOf : Nat → List FrameId) (tid : Nat) (own : List FrameId) (block : Block) :
    Prop where
  stacked : Stacked stackOf block
  bound : tid < block.layout.size
  stack : stackOf tid = own ++ [homeId tid]
  pushed : block.state.arena.Pushed own (homeId tid)

namespace Within

variable (h : Within stackOf tid own block)

include h

/-- A call of another thread changes nothing of that. -/
theorem foreign (effect : Effect block op returned after)
    (foreign : op.mover? block.layout ≠ some tid) : ∃ stackOf', Within stackOf' tid own after := by
  obtain ⟨stackOf', stacked, step⟩ := (h.stacked.stepped effect).stacked
  have roles (id : FrameId) (member : id ∈ stackOf tid) :
      after.state.arena.roleOf id = block.state.arena.roleOf id :=
    h.stacked.roleOf_of_foreign h.bound effect foreign member
  rw [h.stack] at roles
  exact ⟨stackOf', stacked, effect.layout ▸ h.bound,
    (step.eq_of_foreign effect foreign).trans h.stack, h.pushed.congr roles⟩

/-- Entering a region puts one more frame on top, and parks the loop state in the one below it. -/
theorem opened (owns : block.Owns lane tid) (effect : Effect block (.beginSerial lane) true after) :
    ∃ stackOf' id, Within stackOf' tid (id :: own) after := by
  cases effect with
  | @opened _ tid' top frame counters opens =>
    obtain rfl : tid' = tid := Except.ok.inj (opens.owns.owner.symm.trans owns.owner)
    obtain rfl : top = (stackOf tid').headD baseId := h.stacked.eq_headD opens.stands
    refine ⟨Function.update stackOf tid' (block.state.arena.nextId :: stackOf tid'),
      block.state.arena.nextId,
      h.stacked.replace h.bound { h.stacked.opened h.bound opens.stored with }, h.bound, ?_, ?_⟩
    · rw [Function.update_self, h.stack]
      rfl
    · exact BlockState.pushed_openSerial h.stacked.sound h.pushed (by rw [h.stack]) opens.stored
        (h.stack ▸ h.stacked.nextId_not_mem h.bound)

/-- Where the thread has a region of its own open, its top is recognized as one. -/
theorem exists_serializedOn {id : FrameId} {rest : List FrameId} (top : own = id :: rest) :
    id ≠ homeId tid ∧ ∃ frame next, block.state.arena.get? id = some frame ∧
      block.state.arena.get? ((rest ++ [homeId tid]).headD baseId) = some next ∧
      frame.serializedOn next = true := by
  subst top
  have stack : stackOf tid = id :: (rest ++ [homeId tid]) := h.stack
  have nodup := h.stacked.nodup tid h.bound
  have linked := h.stacked.linked tid h.bound
  rw [stack] at nodup linked
  obtain ⟨parent, link⟩ := linked.2.exists_link_head h.stacked.base
  obtain ⟨frame, stored, -, depth⟩ := FrameArena.linkOf_eq_some.1 linked.1
  obtain ⟨next, under, -, level⟩ := FrameArena.linkOf_eq_some.1 link
  obtain ⟨_, role⟩ := h.pushed.alone id List.mem_cons_self
  obtain ⟨frame', stored', rank, size, -⟩ := FrameArena.roleOf_eq_some.1 role
  rw [stored, Option.some.injEq] at stored'
  have among : (rest ++ [homeId tid]).headD baseId ∈ rest ++ [homeId tid] := by
    cases rest with
    | nil => exact List.mem_singleton_self _
    | cons first rest => exact List.mem_cons_self
  obtain ⟨_, _, role'⟩ := h.pushed.parking _ among
  obtain ⟨next', under', -, -, parked⟩ := FrameArena.roleOf_eq_some.1 role'
  rw [under, Option.some.injEq] at under'
  refine ⟨fun home => ?_, frame, next, stored, under, ?_⟩
  · exact (List.nodup_cons.1 nodup).1 (List.mem_append_right _ (home ▸ List.mem_singleton_self id))
  · subst stored' under'
    simp [Frame.serializedOn, rank, size, depth, level, parked, Nesting.deeper_ofLevel]

/-- Leaving a region takes its frame off the top, and is never refused. -/
theorem closed {id : FrameId} {rest : List FrameId} (top : own = id :: rest)
    (owns : block.Owns lane tid) :
    ∃ stackOf' after, endSerial lane block = .ok () after ∧ after.layout = block.layout ∧
      Within stackOf' tid rest after := by
  obtain ⟨away, frame, next, stored, under, serialized⟩ := h.exists_serializedOn top
  have stack : stackOf tid = id :: (rest ++ [homeId tid]) := h.stack.trans (top ▸ rfl)
  have pushed := top ▸ h.pushed
  have nodup := h.stacked.nodup tid h.bound
  rw [stack] at nodup
  rcases h.stacked.endSerial_cases owns.inside owns.owner h.bound with
    ⟨-, none⟩ | ⟨top', below, _, _, loop, stack', -, -, -, -, -, left⟩
  · have refused := none id _ frame next stack away stored under
    exact nomatch refused.symm.trans serialized
  · obtain ⟨rfl, rfl⟩ : id = top' ∧ rest ++ [homeId tid] = below :=
      List.cons_eq_cons.1 (stack.symm.trans stack')
    refine ⟨_, _, left, rfl, h.stacked.replace h.bound (h.stacked.closed h.bound stack away),
      h.bound, Function.update_self .., ?_⟩
    exact BlockState.pushed_closeSerial pushed nodup

/-- **One call**, of the thread itself or of another: it leaves the thread inside its team with the
rest of the calls well nested, and only another thread's is refused. -/
theorem ends_perform {ops : List Operation}
    (nested : wellNested block.layout tid own.length (op :: ops) = true) :
    Ends op.perform block
      (fun _ after => ∃ stackOf' own', Within stackOf' tid own' after ∧
        wellNested after.layout tid own'.length ops = true)
      fun failure after => (∃ fault, failure = .halted fault) ∨
        op.mover? block.layout ≠ some tid ∧ ∃ stackOf' own', Within stackOf' tid own' after ∧
          wellNested after.layout tid own'.length ops = true := by
  have call := effect_perform h.stacked.initialized op
  rcases wellNested_cons nested with
    ⟨foreign, rest⟩ | ⟨mine, ⟨lane, rfl, rest⟩ | ⟨lane, left, rfl, entered, rest⟩⟩
  · have after {returned : Bool} {after : Block} (effect : Effect block op returned after) :
        ∃ stackOf' own', Within stackOf' tid own' after ∧
          wellNested after.layout tid own'.length ops = true := by
      obtain ⟨stackOf', within⟩ := h.foreign effect foreign
      exact ⟨stackOf', own, within, effect.layout.symm ▸ rest⟩
    exact call.mono (fun _ _ effect => after effect) fun _ _ effect => .inr ⟨foreign, after effect⟩
  · have owns := owns_of_mover? mine
    refine (call.and ((Founded.stacked h.stacked).ends_perform rfl)).mono ?_ ?_
    · rintro _ after ⟨effect, -⟩
      obtain ⟨stackOf', id, within⟩ := h.opened owns effect
      exact ⟨stackOf', id :: own, within, effect.layout.symm ▸ rest⟩
    · rintro (error | fault) after ⟨-, stops⟩
      · -- a thread on a live frame is refused from outside the block only
        cases (stops error rfl).1 with
        | outside looks beyond =>
          cases looks
          exact absurd owns.inside (Nat.not_lt.2 beyond)
      · exact .inl ⟨fault, rfl⟩
  · obtain ⟨id, rest', top⟩ := List.exists_cons_of_length_eq_add_one entered
    obtain ⟨stackOf', after, done, layout, within⟩ := h.closed top (owns_of_mover? mine)
    rw [top, List.length_cons, Nat.add_right_cancel_iff] at entered
    refine (ends_of_ok done).2 ⟨stackOf', rest', within, ?_⟩
    rw [layout, entered]
    exact rest

omit h in
/-- **A well-nested run** leaves a thread inside its team with no region of its own open, and none
of its calls is refused on the way. -/
theorem run (ops : List Operation) :
    ∀ {stackOf : Nat → List FrameId} {own : List FrameId} {block : Block},
      Within stackOf tid own block → wellNested block.layout tid own.length ops = true →
      (∀ outcome ∈ (Block.run ops block).1, outcome.goesOn = true) →
      (∃ stackOf', Within stackOf' tid [] (Block.run ops block).2) ∧
        ∀ outcome ∈ (Block.run ops block).1,
          outcome.operation.mover? block.layout = some tid → outcome.result.isOk = true := by
  -- by induction on the calls; the regions open after a call are whatever that call made of them
  induction ops with
  | nil =>
    intro stackOf own block h nested _
    have closed : own = [] := List.length_eq_zero_iff.1 (beq_iff_eq.1 nested)
    exact ⟨⟨stackOf, closed ▸ h⟩, fun _ none => absurd none List.not_mem_nil⟩
  | cons op ops ih =>
    intro stackOf own block h nested goes
    have step := h.ends_perform nested
    have layout := (effect_perform h.stacked.initialized op).mono
      (fun _ _ effect => effect.layout) fun _ _ effect => effect.layout
    unfold Ends at step layout
    rcases performed : op.perform block with ⟨⟨⟩, after⟩ | ⟨error | fault, after⟩
    all_goals
      rw [performed] at step layout
      simp only [Block.run, performed, List.forall_mem_cons] at goes ⊢
    · obtain ⟨stackOf', own', within, rest⟩ := step
      obtain ⟨last, others⟩ := ih within rest goes.2
      exact ⟨last, fun _ => rfl, layout ▸ others⟩
    · obtain ⟨fault, halted⟩ | ⟨foreign, stackOf', own', within, rest⟩ := step
      · cases halted
      · obtain ⟨last, others⟩ := ih within rest goes.2
        exact ⟨last, fun mine => absurd mine foreign, layout ▸ others⟩
    · cases goes.1

end Within

/-! ## Where a worker returns to -/

/-- No call makes or unmakes the full runtime, or changes the layout. -/
theorem keeps_layout (layout : BlockLayout) (op : Operation) :
    Keeps (fun block => block.initialized = true ∧ block.layout = layout) op.perform := by
  rintro block ⟨full, same⟩
  have kept {returned : Bool} {after : Block} (effect : Effect block op returned after) :
      after.initialized = true ∧ after.layout = layout :=
    ⟨effect.initialized.trans full, effect.layout.trans same⟩
  exact (effect_perform full op).mono (fun _ _ => kept) fun _ _ => kept

/-- A worker that is told to run a region is inside its team. -/
theorem Stacked.within_of_active (h : Stacked stackOf block) {fullRuntime : Bool}
    {work : WorkHandle} (told : enterRegion lane fullRuntime block = .ok (.active work) after) :
    Within (Function.update stackOf lane [homeId lane]) lane [] after := by
  have entered := ((ends_of_ok told).1 (effect_enterRegion fullRuntime)).2.layout
  obtain ⟨bound, joined⟩ := h.joined_of_active told
  exact ⟨joined, entered.symm ▸ bound, Function.update_self .., ⟨nofun, nofun⟩⟩

/-- It is its own thread. -/
theorem owns_of_active {fullRuntime : Bool} {work : WorkHandle}
    (told : enterRegion lane fullRuntime block = .ok (.active work) after) :
    block.Owns lane lane := by
  cases ((ends_of_ok told).1 (effect_enterRegion fullRuntime)).1 with
  | active posted member activates =>
    obtain ⟨master, found, below⟩ := activates.worker
    have maps : block.layout.MapsLanes := fun _ => BlockLayout.pos_of_masterLane found
    rw [BlockLayout.masterLane_eq (maps activates.generic), Except.ok.injEq] at found
    have worker : lane < block.layout.master := found ▸ below
    refine ⟨Nat.lt_of_lt_of_le worker block.layout.master_le_size, ?_⟩
    rw [maps.threadOf_eq, BlockLayout.owner_of_lt_master worker]

/-- Inside its team with no region of its own open, a thread leaves to the outermost frame, and from
there it can leave no serialized region. -/
theorem Within.exitRegion_eq (h : Within stackOf tid [] block) (owns : block.Owns lane tid) :
    ∃ after, exitRegion lane block = .ok () after ∧
      (after.state.thread tid).top = some baseId ∧
      endSerial lane after = .error (.rejected (.unbalancedExit tid)) after := by
  have reserved := h.stacked.homes tid h.bound
  have stands : (block.state.thread tid).top = some (homeId tid) :=
    (h.stacked.tops tid h.bound).trans (by rw [h.stack]; rfl)
  obtain ⟨frame, stored, linked⟩ := h.stacked.exists_of_home h.bound stands reserved
  have emptied := h.stacked.replace h.bound (h.stacked.left h.bound)
  refine ⟨_, exitRegion_of_home owns.inside owns.owner stands reserved stored linked,
    congrArg Thread.top (BlockState.thread_setTop_self (h.stacked.lt_threads h.bound)), ?_⟩
  rcases emptied.endSerial_cases owns.inside owns.owner h.bound with
    ⟨refused, -⟩ | ⟨_, _, _, _, _, stack, -⟩
  · exact refused
  · rw [Function.update_self] at stack
    cases stack

/-- A thread stands on the outermost frame exactly outside all regions. -/
theorem Stacked.top_eq_baseId_iff (h : Stacked stackOf block) (owns : block.Owns lane tid) :
    (block.state.thread tid).top = some baseId ↔ Block.level lane block = .ok 0 block := by
  have bound := h.lt_of_owns owns
  have outside := h.baseId_not_mem bound
  rw [(h.threadStack bound).level lane owns.inside owns.owner, h.tops tid bound]
  cases stack : stackOf tid with
  | nil => simp
  | cons top below =>
    rw [stack] at outside
    have other : top ≠ baseId := fun same => outside (same ▸ List.mem_cons_self)
    simp [other]

/-- **Where a worker returns to.** Whatever is called on a new generic block: a worker that is told
to run a region, and then leaves exactly the regions it enters, is refused none of these calls and
leaves the team. It comes to the outermost frame. So it is back where it was before only if it was
outside all regions then, and no region it had open before can be left any more. -/
theorem top_exitRegion_of_active {arch : Arch} {config : LaunchConfig} {mid : Block}
    {fullRuntime : Bool} {work : WorkHandle} (created : create arch .generic config = .ok block)
    (before during : List Operation)
    (told : enterRegion lane fullRuntime (run before block).2 = .ok (.active work) mid)
    (nested : wellNested block.layout lane 0 during = true)
    (goes : ∀ outcome ∈ (run during mid).1, outcome.goesOn = true) :
    (∀ outcome ∈ (run during mid).1,
      outcome.operation.mover? block.layout = some lane → outcome.result.isOk = true) ∧
    ∃ after, exitRegion lane (run during mid).2 = .ok () after ∧
      (after.state.thread lane).top = some baseId ∧
      ((after.state.thread lane).top = ((run before block).2.state.thread lane).top ↔
        Block.level lane (run before block).2 = .ok 0 (run before block).2) ∧
      endSerial lane after = .error (.rejected (.unbalancedExit lane)) after := by
  obtain ⟨full, layout⟩ := run_of_keeps (keeps_layout block.layout) before
    ⟨initialized_of_create_generic created, rfl⟩
  have owns := owns_of_active told
  obtain ⟨stackOf, stacked⟩ :=
    (run_of_keeps Founded.keeps_perform before (.of_create created)).exists_stacked full owns.maps
  have within := stacked.within_of_active told
  have layout' : mid.layout = block.layout :=
    ((ends_of_ok told).1 (effect_enterRegion fullRuntime)).2.layout.trans layout
  obtain ⟨⟨stackOf', last⟩, accepted⟩ := within.run during (layout' ▸ nested) goes
  have layout'' := (run_of_keeps (keeps_layout block.layout) during
    ⟨within.stacked.initialized, layout'⟩).2
  have owns' : (run during mid).2.Owns lane lane := by
    have same := layout''.trans layout.symm
    exact ⟨same ▸ owns.inside, same ▸ owns.owner⟩
  obtain ⟨after, exited, top, refused⟩ := last.exitRegion_eq owns'
  refine ⟨layout' ▸ accepted, after, exited, top, ?_, refused⟩
  rw [top, ← stacked.top_eq_baseId_iff owns, eq_comm]

/-- Worker 5 begins a serialized region before the master posts a region. -/
def strayed : List Operation := [.beginSerial 5, .prepareRegion 32 firstWork true]

/-- In its team it enters two regions and leaves them, and worker 6 comes and goes. -/
def visiting : List Operation :=
  [.beginSerial 5, .enterRegion 6 true, .beginSerial 5, .endSerial 5, .exitRegion 6, .endSerial 5]

theorem enterRegion_strayed :
    enterRegion 5 true (run strayed twoWarps).2 =
      .ok (.active firstWork) (run (strayed ++ [.enterRegion 5 true]) twoWarps).2 := by
  with_unfolding_all rfl

theorem top_exitRegion_strayed :
    ∃ after, exitRegion 5 (run visiting (run (strayed ++ [.enterRegion 5 true]) twoWarps).2).2 =
        .ok () after ∧
      (after.state.thread 5).top = some baseId ∧
      endSerial 5 after = .error (.rejected (.unbalancedExit 5)) after := by
  obtain ⟨-, after, exited, top, -, refused⟩ :=
    top_exitRegion_of_active create_twoWarps strayed visiting enterRegion_strayed
      (by decide +kernel) (by decide +kernel)
  exact ⟨after, exited, top, refused⟩

/-- **A worker that does not return to where it was.** Worker 5 has a serialized region open when it
joins a team; once it has left the team it stands on the outermost frame. -/
theorem not_returns :
    ¬∀ (arch : Arch) (config : LaunchConfig) (block mid after : Block)
        (before during : List Operation) (lane : Nat) (work : WorkHandle),
      arch.isValid = true → create arch .generic config = .ok block →
      (∀ op ∈ before, op.isOrdinary block.layout = true) →
      enterRegion lane true (run before block).2 = .ok (.active work) mid →
      wellNested block.layout lane 0 during = true →
      (∀ outcome ∈ (run during mid).1, outcome.result.isOk = true) →
      exitRegion lane (run during mid).2 = .ok () after →
      (after.state.thread lane).top = ((run before block).2.state.thread lane).top := by
  intro returns
  have left : exitRegion 5 (run (strayed ++ [.enterRegion 5 true]) twoWarps).2 =
      .ok () (run (strayed ++ [.enterRegion 5 true, .exitRegion 5]) twoWarps).2 := by
    with_unfolding_all rfl
  have same := returns _ _ _ _ _ strayed [] 5 firstWork (by decide) create_twoWarps
    (by decide +kernel) enterRegion_strayed rfl (fun _ none => absurd none List.not_mem_nil) left
  have moved : ((run (strayed ++ [.enterRegion 5 true, .exitRegion 5]) twoWarps).2.state.thread
      5).top ≠ ((run strayed twoWarps).2.state.thread 5).top := by
    decide +kernel
  exact moved same

end Block

end RegionDispatch
