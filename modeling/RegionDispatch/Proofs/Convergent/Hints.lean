import RegionDispatch.Proofs.Convergent.Session
import RegionDispatch.Proofs.Convergent.Sources

/-! # What a pushed hint is worth

A hint is spent by the next region of its thread: by a region the master posts, by a nested region,
or by a convergent team whose source is the thread. Nothing else takes it, and only a push gives a
new one. But a lane that leaves a convergent region puts back the hint it held on entry, also where
its team has spent that hint, and then one more region can be sized by it.

* **`Convergent.Event.sizedBy`**, **`Convergent.Event.pushes`**, **`Convergent.Event.handsBack`** —
  the events in which a value is spent, pushed and put back.
* `Convergent.Session.Effect.accounted` — what one move does to the hints.
* `Convergent.countP_sizedBy_le` — over a whole run, a value sizes no more regions than it was
  pushed and put back. -/

namespace RegionDispatch

open Dispatch

namespace BlockState

variable {state : BlockState} {construct kind : Construct} {tid other n : Nat} {id : FrameId}
  {frame : Frame}

/-- The hint a construct finds with a thread. -/
def hint (state : BlockState) (construct : Construct) (tid : Nat) : Nat :=
  construct.hint (state.thread tid)

theorem hint_modifyThread {f : Thread → Thread}
    (kept : ∀ thread, construct.hint (f thread) = construct.hint thread) :
    (state.modifyThread tid f).hint construct other = state.hint construct other := by
  rw [hint, thread_modifyThread]
  split
  · exact kept _
  · rfl

/-- A new hint of one thread, which a thread outside the block does not take. -/
theorem hint_withHint :
    (state.modifyThread tid (construct.withHint n)).hint kind other =
      if kind = construct ∧ other = tid ∧ tid < state.threads.size then n
      else state.hint kind other := by
  rw [hint, thread_modifyThread]
  by_cases mine : tid = other ∧ tid < state.threads.size
  · rw [if_pos mine, Construct.hint_withHint]
    simp only [mine.1.symm, mine.2, and_true, hint]
  · rw [if_neg mine, if_neg fun all => mine ⟨all.2.1.symm, all.2.2⟩, hint]

/-- A hint is spent, also that of a thread outside the block, which never has one. -/
theorem hint_withHint_zero :
    (state.modifyThread tid (construct.withHint 0)).hint kind other =
      if kind = construct ∧ other = tid then 0 else state.hint kind other := by
  rw [hint_withHint]
  by_cases mine : kind = construct ∧ other = tid
  · rw [if_pos mine]
    split
    · rfl
    · next outside =>
      have fresh : state.thread other = {} := thread_of_size_le (by
        rw [mine.2]
        exact Nat.le_of_not_lt fun inside => outside ⟨mine.1, mine.2, inside⟩)
      rw [hint, fresh]
      cases kind <;> rfl
  · rw [if_neg mine, if_neg fun all => mine ⟨all.1, all.2.1⟩]

@[simp] theorem hint_setTop : (state.setTop tid id).hint kind other = state.hint kind other :=
  hint_modifyThread fun _ => by cases kind <;> rfl

@[simp] theorem hint_modifyFrame (f : Frame → Frame) :
    (state.modifyFrame id f).hint kind other = state.hint kind other := rfl

@[simp] theorem hint_release : (state.release id).hint kind other = state.hint kind other := rfl

@[simp] theorem hint_releases (pushed : Option FrameId) :
    (state.releases pushed).hint kind other = state.hint kind other := by
  cases pushed <;> rfl

@[simp] theorem hint_overwrite :
    (state.overwrite id frame).2.hint kind other = state.hint kind other := rfl

@[simp] theorem hint_push :
    (state.push tid frame).2.hint kind other = state.hint kind other := by
  rw [push_snd, hint_setTop]
  rfl

@[simp] theorem hint_openSerial :
    (state.openSerial tid id frame).hint kind other = state.hint kind other := by
  rw [openSerial, hint_push, hint_modifyFrame]

@[simp] theorem hint_closeSerial {parent : FrameId} {loop : LoopState} :
    (state.closeSerial tid id parent loop).hint kind other = state.hint kind other := by
  rw [closeSerial, hint_modifyThread fun _ => by cases kind <;> rfl, hint_modifyFrame, hint_release,
    hint_setTop]

@[simp] theorem hint_joinTeam {event : Nat} :
    (state.joinTeam tid id frame event).hint kind other = state.hint kind other := by
  rw [joinTeam, hint_modifyThread fun _ => by cases kind <;> rfl, hint_setTop, hint_overwrite]

/-- The clause taken is the hint of a parallel construct. -/
theorem hint_takePendingThreads :
    (state.takePendingThreads tid).2.hint kind other =
      if kind = .parallel ∧ other = tid then 0 else state.hint kind other := by
  have taken : (state.takePendingThreads tid).2 =
      state.modifyThread tid (Construct.parallel.withHint 0) := rfl
  rw [taken, hint_withHint_zero]

/-- A lane that leaves gives its thread the hint of its job. -/
theorem hint_vacate {saved : FrameId} {job : Job} :
    (state.vacate tid saved job construct).hint kind other =
      if kind = construct ∧ other = tid ∧ tid < state.threads.size then job.hint
      else state.hint kind other := by
  cases construct with
  | simd => rw [vacate, hint_setTop, hint_withHint]
  | parallel =>
    have size :
        ((state.setTop tid saved).releases job.pushed).threads.size = state.threads.size := by
      cases job.pushed <;> exact size_setTop
    rw [vacate, hint_withHint, hint_releases, hint_setTop, size]

end BlockState

/-- The hint that a call pushes: its construct, the thread that gets it, and the value. -/
def Operation.push? (layout : BlockLayout) : Operation → Option (Construct × Nat × Nat)
  | pushThreads lane count => (layout.threadOf lane).toOption.map (Construct.parallel, ·, count)
  | pushSimd lane limit => (layout.threadOf lane).toOption.map (Construct.simd, ·, limit)
  | _ => none

namespace Block

variable {block after : Block} {op : Operation} {returned : Bool} {lane : Nat} {work : WorkHandle}
  {fullRuntime : Bool}

/-- A region that is posted has spent the clause of thread 0. -/
theorem Effect.hint_of_posted
    (effect : Effect block (.prepareRegion lane work fullRuntime) true after) :
    after.state.hint .parallel 0 = 0 := by
  cases effect with
  | posted posts =>
    show (block.state.takePendingThreads 0).2.hint .parallel 0 = 0
    rw [BlockState.hint_takePendingThreads]
    rfl

/-- Entering a serialized region leaves all hints alone. -/
theorem Effect.hint_beginSerial (effect : Effect block (.beginSerial lane) returned after)
    (kind : Construct) (tid : Nat) : after.state.hint kind tid = block.state.hint kind tid := by
  cases effect with
  | refused => rfl
  | counted => rfl
  | opened opens => exact BlockState.hint_openSerial

/-- A call leaves a hint as it was, or spends it, or has pushed it. -/
theorem Effect.hint (effect : Effect block op returned after) (kind : Construct) (tid : Nat) :
    after.state.hint kind tid = block.state.hint kind tid ∨ after.state.hint kind tid = 0 ∨
      returned = true ∧ op.push? block.layout = some (kind, tid, after.state.hint kind tid) := by
  have spent : (block.state.takePendingThreads 0).2.hint kind tid = block.state.hint kind tid ∨
      (block.state.takePendingThreads 0).2.hint kind tid = 0 := by
    rw [BlockState.hint_takePendingThreads]
    split
    · exact .inr rfl
    · exact .inl rfl
  have pushed (construct : Construct) (thread n : Nat) :
      (block.state.modifyThread thread (construct.withHint n)).hint kind tid =
        block.state.hint kind tid ∨ (kind, tid,
          (block.state.modifyThread thread (construct.withHint n)).hint kind tid) =
            (construct, thread, n) := by
    rw [BlockState.hint_withHint]
    split
    · next mine => exact .inr (by rw [mine.1, mine.2.1])
    · exact .inl rfl
  cases effect with
  | spent posts => exact spent.imp_right .inl
  | posted posts => exact spent.imp_right .inl
  | joined activates => exact .inl BlockState.hint_joinTeam
  | left exits => exact .inl BlockState.hint_setTop
  | opened opens => exact .inl BlockState.hint_openSerial
  | closed closes distinct => exact .inl BlockState.hint_closeSerial
  | lost closes => exact .inl BlockState.hint_setTop
  | looped owns => exact .inl (BlockState.hint_modifyThread fun _ => by cases kind <;> rfl)
  | @hinted lane thread count owns =>
    have push : Operation.push? block.layout (.pushThreads lane count) =
        some (.parallel, thread, count) := by
      rw [Operation.push?, owns.owner]
      rfl
    exact (pushed .parallel thread count).imp_right fun new =>
      .inr ⟨rfl, push.trans (congrArg some new.symm)⟩
  | @limited lane thread limit owns =>
    have push : Operation.push? block.layout (.pushSimd lane limit) =
        some (.simd, thread, limit) := by
      rw [Operation.push?, owns.owner]
      rfl
    exact (pushed .simd thread limit).imp_right fun new =>
      .inr ⟨rfl, push.trans (congrArg some new.symm)⟩
  | _ => exact .inl rfl

end Block

namespace Convergent

variable {construct kind : Construct} {tid value : Nat} {s : Session} {event : Event}

/-! ## What is counted -/

/-- The region that a move begins: the construct whose hint sizes it, and the thread that holds the
hint. -/
def Move.region? (layout : BlockLayout) : Move → Option (Construct × Nat)
  | call (.prepareRegion _ _ _) => some (.parallel, 0)
  | nested lane => (layout.threadOf lane).toOption.map (Construct.parallel, ·)
  | enter construct warp mask cursor _ => do
    let source ← (sources warp mask cursor).head?
    let hwLane ← (warp.hwLane source).toOption
    let tid ← (layout.threadOf hwLane).toOption
    return (construct, tid)
  | _ => none

namespace Event

/-- A region of a thread begins, and the hint it finds is `value`. -/
def sizedBy (construct : Construct) (tid value : Nat) (event : Event) : Bool :=
  event.result.isOk &&
    decide (event.move.region? event.before.block.layout = some (construct, tid)) &&
    decide (event.before.block.state.hint construct tid = value)

/-- A thread gets `value` as its hint by a push. -/
def pushes (construct : Construct) (tid value : Nat) (event : Event) : Bool :=
  match event.move with
  | .call op => event.result.isOk &&
      decide (op.push? event.before.block.layout = some (construct, tid, value))
  | _ => false

/-- A lane leaves a convergent region and thereby gives its thread, which has not got it, the hint
`value` that it held on entry. -/
def handsBack (construct : Construct) (tid value : Nat) (event : Event) : Bool :=
  match event.move with
  | .leave index =>
    match event.before.stays[index]? with
    | some stay => decide (stay.construct = construct) &&
        decide ((event.before.block.layout.threadOf stay.hwLane).toOption = some tid) &&
        decide (stay.job.hint = value) &&
        decide (event.before.block.state.hint construct tid ≠ value)
    | none => false
  | _ => false

end Event

/-! ## One move -/

/-- The balance of one move: a value that sizes a region is spent, and a thread that has a value had
it before, or it was pushed, or handed back. -/
structure Accounted (construct : Construct) (tid value : Nat) (event : Event) : Prop where
  runtime : event.after.block.initialized = true
  spent : event.sizedBy construct tid value = true →
    event.after.block.state.hint construct tid ≠ value
  gained : event.after.block.state.hint construct tid = value →
    event.before.block.state.hint construct tid = value ∨
      event.pushes construct tid value = true ∨ event.handsBack construct tid value = true

/-- Moves that begin no region and leave the hint of a thread alone. -/
theorem Accounted.of_eq (runtime : event.after.block.initialized = true)
    (same : event.after.block.state.hint construct tid =
      event.before.block.state.hint construct tid)
    (none : event.result.isOk = true → event.move.region? event.before.block.layout = none) :
    Accounted construct tid value event where
  runtime := runtime
  spent sized := by
    rw [Event.sizedBy, Bool.and_eq_true, Bool.and_eq_true, decide_eq_true_eq] at sized
    rw [none sized.1.1] at sized
    cases sized.1.2
  gained has := .inl (same.symm.trans has)

/-- Moves that spend the hint that a construct finds with a thread. -/
theorem Accounted.of_spent {thread : Nat} (nonzero : value ≠ 0)
    (runtime : event.after.block.initialized = true)
    (spent : event.after.block.state.hint construct tid =
      if construct = kind ∧ tid = thread then 0 else event.before.block.state.hint construct tid)
    (region : event.result.isOk = true →
      event.move.region? event.before.block.layout = some (kind, thread)) :
    Accounted construct tid value event where
  runtime := runtime
  spent sized := by
    rw [Event.sizedBy, Bool.and_eq_true, Bool.and_eq_true, decide_eq_true_eq] at sized
    have mine := sized.1.2
    rw [region sized.1.1, Option.some.injEq, Prod.mk.injEq] at mine
    rw [spent, if_pos ⟨mine.1.symm, mine.2.symm⟩]
    exact nonzero.symm
  gained has := by
    rw [spent] at has
    split at has
    · exact absurd has.symm nonzero
    · exact .inl has

/-- A change that leaves the hints alone. -/
structure SameHints (before after : Block) : Prop where
  runtime : after.initialized = before.initialized
  hint : ∀ kind other, after.state.hint kind other = before.state.hint kind other

/-- A change that spends the hint a construct finds with a thread, and no other hint. -/
structure Spends (construct : Construct) (tid : Nat) (before after : Block) : Prop where
  runtime : after.initialized = before.initialized
  hint : ∀ kind other, after.state.hint kind other =
    if kind = construct ∧ other = tid then 0 else before.state.hint kind other

theorem Spends.trans {before mid after : Block} (spends : Spends construct tid before mid)
    (same : SameHints mid after) : Spends construct tid before after :=
  ⟨same.runtime.trans spends.runtime, fun kind other =>
    (same.hint kind other).trans (spends.hint kind other)⟩

theorem spends_withHint (block : Block) (construct : Construct) (tid : Nat) (counters : Counters) :
    Spends construct tid block { block with
      state := block.state.modifyThread tid (construct.withHint 0), counters } :=
  ⟨rfl, fun _ _ => BlockState.hint_withHint_zero⟩

/-- A nested region spends the clause of its thread, also where it stops later. -/
theorem spends_nested {block after : Block} {lane tid : Nat} {returned : Bool}
    (begun : Block.Effect { block with state := (block.state.takePendingThreads tid).2 }
      (.beginSerial lane) returned after) : Spends .parallel tid block after :=
  ⟨begun.initialized, fun kind other => by
    rw [begun.hint_beginSerial, ← BlockState.hint_takePendingThreads]⟩

/-- Seating a team leaves the hints alone. -/
theorem seatable_sameHints (block : Block) : Seatable fun entry => SameHints block entry.block where
  withJob _ _ _ same := same
  setTop _ _ _ same :=
    ⟨same.runtime, fun kind tid => BlockState.hint_setTop.trans (same.hint kind tid)⟩
  push _ _ _ _ same :=
    ⟨same.runtime, fun kind tid => BlockState.hint_push.trans (same.hint kind tid)⟩

/-- **Entering** spends the hint of the next lane's thread. Where it stops it may have done so. -/
theorem ends_arrive_hint {warp : Warp} {mask : LaneMask} {entry : Entry}
    (runtime : entry.block.initialized = true) :
    Ends (arrive construct warp mask) entry
      (fun _ after => ∃ source hwLane tid, (sources warp mask entry.cursor).head? = some source ∧
        warp.hwLane source = .ok hwLane ∧ entry.block.layout.threadOf hwLane = .ok tid ∧
        Spends construct tid entry.block after.block)
      fun _ after => after.block = entry.block ∨
        ∃ tid, Spends construct tid entry.block after.block := by
  rw [arrive, ends_bind, enter, ends_bind, ends_get, ends_bind, ends_refuseIf]
  refine ⟨fun _ => .inl rfl, fun _ => ?_⟩
  rw [ends_bind]
  refine (effect_formTeam runtime).mono ?_ ?_
  · intro formation formed forms
    obtain ⟨rest, next, -⟩ := forms.next
    obtain ⟨seat, among, lane, thread, -⟩ := forms.origin
    have hwLane := (forms.published seat among).hwLane
    have owner := (forms.published seat among).thread
    rw [lane] at hwLane
    rw [thread] at owner
    obtain ⟨counters, block⟩ := forms.block
    have spends : Spends construct formation.sourceThread entry.block formed.block :=
      block ▸ spends_withHint entry.block construct formation.sourceThread counters
    -- from here on only seats are taken
    have stops (_ : Failure) (after : Entry) (same : SameHints formed.block after.block) :
        after.block = entry.block ∨ ∃ tid, Spends construct tid entry.block after.block :=
      .inr ⟨_, spends.trans same⟩
    have seatable := seatable_sameHints formed.block
    rw [ends_bind]
    refine (seatable.ends_joiner formation ⟨rfl, fun _ _ => rfl⟩).mono ?_ stops
    rintro join joining ⟨same, joins⟩
    rw [ends_bind]
    refine (seatable.keeps_takeSeats warp.width joins _ joining same).mono ?_ stops
    intro _ after same
    exact ⟨formation.team.source, seat.hwLane, formation.sourceThread, next ▸ rfl, hwLane, owner,
      spends.trans same⟩
  · rintro _ after ⟨-, same | ⟨tid, spent⟩, -⟩
    · exact .inl same
    · exact .inr ⟨tid, spent ▸ spends_withHint entry.block construct tid entry.block.counters⟩

variable {result : Except Failure Unit} {t : Session}

/-- A move that stops has at most spent a hint. -/
theorem Accounted.of_stopped {move : Move} (nonzero : value ≠ 0)
    (runtime : s.block.initialized = true) (failed : result.isOk = false)
    (stopped : t.block = s.block ∨ ∃ thread, Spends kind thread s.block t.block) :
    Accounted construct tid value ⟨move, s, result, t⟩ := by
  have never (returned : result.isOk = true) : False := by
    rw [failed] at returned
    cases returned
  obtain same | ⟨thread, spends⟩ := stopped
  · exact .of_eq (same ▸ runtime) (congrArg (·.state.hint construct tid) same)
      fun returned => (never returned).elim
  · exact .of_spent nonzero (spends.runtime.trans runtime) (spends.hint construct tid)
      fun returned => (never returned).elim

/-- **A call** outside convergent regions. -/
theorem accounted_call {op : Operation} {after : Block} (nonzero : value ≠ 0)
    (runtime : s.block.initialized = true)
    (effect : Block.Effect s.block op result.isOk after) :
    Accounted construct tid value ⟨.call op, s, result, ⟨after, s.stays⟩⟩ := by
  refine ⟨effect.initialized.trans runtime, fun sized => ?_, fun has => ?_⟩
  · -- only posting begins a region
    cases op with
    | prepareRegion lane work fullRuntime =>
      simp only [Event.sizedBy, Move.region?, Bool.and_eq_true, decide_eq_true_eq,
        Option.some.injEq, Prod.mk.injEq] at sized
      obtain ⟨⟨returned, rfl, rfl⟩, -⟩ := sized
      rw [returned] at effect
      show after.state.hint .parallel 0 ≠ value
      rw [effect.hint_of_posted]
      exact nonzero.symm
    | _ => simp [Event.sizedBy, Move.region?] at sized
  · obtain same | zero | ⟨returned, pushed⟩ := effect.hint construct tid
    · exact .inl (same.symm.trans has)
    · exact absurd (has.symm.trans zero) nonzero
    · refine .inr (.inl ?_)
      rw [has] at pushed
      simp only [Event.pushes, returned, pushed, decide_true, Bool.and_true]

/-- **Leaving** begins no region, and what a thread gets from it is handed back. -/
theorem accounted_leave {index thread : Nat} {stay : Stay} (found : s.stays[index]? = some stay)
    (owns : s.block.Owns stay.hwLane thread) (runtime : t.block.initialized = true)
    (hint : t.block.state.hint construct tid =
      if construct = stay.construct ∧ tid = thread ∧ thread < s.block.state.threads.size then
        stay.job.hint
      else s.block.state.hint construct tid) :
    Accounted construct tid value ⟨.leave index, s, result, t⟩ := by
  refine ⟨runtime, fun sized => ?_, fun has => ?_⟩
  · simp [Event.sizedBy, Move.region?] at sized
  · by_cases before : s.block.state.hint construct tid = value
    · exact .inl before
    have now : t.block.state.hint construct tid = value := has
    rw [hint] at now
    split at now
    · next mine =>
      obtain ⟨rfl, rfl, -⟩ := mine
      refine .inr (.inr ?_)
      simp only [Event.handsBack, found, owns.toOption_threadOf, decide_true, Bool.true_and,
        Bool.and_eq_true, decide_eq_true_eq]
      exact ⟨now, before⟩
    · exact absurd now before

/-- **What one move does to the hints** is accounted for. -/
theorem Session.Effect.accounted {move : Move} (effect : s.Effect move result.isOk t)
    (nonzero : value ≠ 0) (runtime : s.block.initialized = true) :
    Accounted construct tid value ⟨move, s, result, t⟩ := by
  generalize ended : result.isOk = returned at effect
  cases effect with
  | refused =>
    refine .of_eq runtime rfl fun returned => ?_
    rw [ended] at returned
    cases returned
  | called effect => exact accounted_call nonzero runtime (ended ▸ effect)
  | @begun lane thread returned after owns effect =>
    have spends := spends_nested effect
    refine .of_spent nonzero (spends.runtime.trans runtime) (spends.hint construct tid) fun _ => ?_
    show (s.block.layout.threadOf lane).toOption.map _ = _
    rw [owns.toOption_threadOf]
    rfl
  | @entered kind warp mask cursor jobs stays entry arrives =>
    have before : (⟨s.block, cursor, jobs⟩ : Entry).block.initialized = true := runtime
    obtain ⟨source, hwLane, thread, next, lane, owner, spends⟩ :=
      (ends_of_ok arrives).1 (ends_arrive_hint before)
    refine .of_spent nonzero (spends.runtime.trans runtime) (spends.hint construct tid) fun _ => ?_
    simp [Move.region?, next, lane, owner, Except.toOption]
  | @stopped kind warp mask cursor jobs failure entry arrives =>
    have before : (⟨s.block, cursor, jobs⟩ : Entry).block.initialized = true := runtime
    exact .of_stopped nonzero runtime ended ((ends_of_error arrives).1 (ends_arrive_hint before))
  | nobody => exact .of_eq runtime rfl fun _ => rfl
  | left found owns => exact accounted_leave found owns runtime BlockState.hint_vacate
  | hinted found owns => exact accounted_leave found owns runtime BlockState.hint_withHint
  | lost => exact .of_eq runtime rfl fun _ => rfl
  | fenced => exact .of_eq runtime rfl fun _ => rfl

/-! ## A whole run -/

/-- The stock of a value: one if a thread of a block with the full runtime has it, none else. -/
def InStock (construct : Construct) (tid value stock : Nat) (s : Session) : Prop :=
  s.block.initialized = true ∧
    stock = (decide (s.block.state.hint construct tid = value)).toNat

/-- Whether a thread gets a value, by a push or from an exit. -/
def Event.gives (construct : Construct) (tid value : Nat) (event : Event) : Bool :=
  event.pushes construct tid value || event.handsBack construct tid value

/-- A move uses the value in stock at most once, and stocks it only where the thread gets it. -/
theorem inStock_event (nonzero : value ≠ 0) (move : Move) (s : Session) (stock : Nat)
    (holds : InStock construct tid value stock s) :
    ∃ left, InStock construct tid value left (move.event s).after ∧
      ((move.event s).sizedBy construct tid value).toNat + left ≤
        ((move.event s).gives construct tid value).toNat + stock := by
  obtain ⟨runtime, rfl⟩ := holds
  obtain ⟨runtime', spent, gained⟩ : Accounted construct tid value (move.event s) := by
    obtain ⟨result, t, happens, effect⟩ := s.exists_effect runtime move
    exact happens ▸ effect.accounted nonzero runtime
  refine ⟨_, ⟨runtime', rfl⟩, ?_⟩
  rw [Move.event_before] at gained
  cases sized : (move.event s).sizedBy construct tid value with
  | true =>
    have had : s.block.state.hint construct tid = value := by
      rw [Event.sizedBy, Bool.and_eq_true, decide_eq_true_eq, Move.event_before] at sized
      exact sized.2
    rw [decide_eq_false (spent sized), decide_eq_true had]
    exact Nat.le_add_left 1 _
  | false =>
    by_cases has : (move.event s).after.block.state.hint construct tid = value
    · rw [decide_eq_true has]
      obtain had | given := gained has
      · rw [decide_eq_true had]
        exact Nat.le_add_left 1 _
      · rw [Event.gives, Bool.or_eq_true_iff.2 given]
        exact Nat.le_add_right 1 _
    · rw [decide_eq_false has]
      exact Nat.zero_le _

/-- **No value is used more often than it is given.** Over a run of a block with the full runtime,
whatever its moves are and however they end, a value that a thread has not got at first sizes at
most as many regions of the thread as there are pushes of it and exits that hand it back. -/
theorem countP_sizedBy_le (runtime : s.block.initialized = true) (nonzero : value ≠ 0)
    (unset : s.block.state.hint construct tid ≠ value) (moves : List Move) :
    (run moves s).countP (Event.sizedBy construct tid value) ≤
      (run moves s).countP (Event.pushes construct tid value) +
        (run moves s).countP (Event.handsBack construct tid value) := by
  have empty : InStock construct tid value 0 s := ⟨runtime, by rw [decide_eq_false unset]; rfl⟩
  calc (run moves s).countP (Event.sizedBy construct tid value)
      ≤ (run moves s).countP (Event.gives construct tid value) + 0 :=
        countP_run_le moves (fun move _ => inStock_event nonzero move) empty
    _ ≤ _ := countP_or_le _ _ _

/-- A block of two SPMD lanes that are in no convergent region. -/
def twoLanes : Session := ⟨Block.twoLanes, []⟩

/-- Both lanes reach a simd construct twice after lane 0 has pushed a limit of one, and lane 0, for
which alone the team works, leaves each time. -/
def limitedTwice : List Move :=
  [.call (.pushSimd 0 1), .enter .simd ⟨0, 2⟩ (.full 2) 0 (Array.replicate 2 {}), .leave 0,
    .enter .simd ⟨0, 2⟩ (.full 2) 0 (Array.replicate 2 {}), .leave 0]

theorem countP_sizedBy_limitedTwice :
    (run limitedTwice twoLanes).countP (Event.sizedBy .simd 0 1) ≤
      (run limitedTwice twoLanes).countP (Event.pushes .simd 0 1) +
        (run limitedTwice twoLanes).countP (Event.handsBack .simd 0 1) :=
  countP_sizedBy_le rfl (by decide) (by decide +kernel) limitedTwice

/-- **A value pushed once can size two regions**: the exit from the first hands it back. -/
theorem not_sizedBy_once : ¬∀ moves : List Move,
    (run moves twoLanes).countP (Event.pushes .simd 0 1) = 1 →
      (run moves twoLanes).countP (Event.sizedBy .simd 0 1) ≤ 1 := by
  intro once
  have twice : (run limitedTwice twoLanes).countP (Event.sizedBy .simd 0 1) = 2 := by
    decide +kernel
  have sized := once limitedTwice (by decide +kernel)
  rw [twice] at sized
  exact absurd sized (by decide)

end Convergent

end RegionDispatch
