import RegionDispatch.Proofs.Kernel.Parallel

/-! # Programs of the master

The sequential part of a kernel as a list of calls, run on a new block with every call of a region
body written down.

* **`MasterCall`**, **`MasterCall.answer`** — one call, and what came of it: its result, the calls
  of its body, and the state after it. Writing them down changes nothing (`MasterCall.perform_eq`).
* **`Master.Conforms`** — what the answers of a program have to be: each region gets the team size
  of the sizing rule, calls its body once on each lane of the team in order, and leaves the block at
  rest.
* `Master.Ready.answer_pushThreads`, `Master.Ready.answer_setThreads`,
  `Master.Ready.answer_parallel` — the answer to one call.
* `Master.Ready.conforms_run` — the answers of every program conform, as long as its bodies stay on
  their lanes and settle. -/

namespace RegionDispatch

open Dispatch

/-- What the sequential part asks for. -/
inductive MasterCall (ω : Type) where
  /-- The `num_threads` clause of the next region. -/
  | pushThreads (count : Nat)
  /-- The requested threads of the regions from here on. -/
  | setThreads (count : Nat)
  /-- A region. -/
  | parallel (body : RegionBody ω)

/-- What came of a call. -/
structure MasterAnswer (ω : Type) where
  /-- The team size, if the call was a region, or why the call stopped. -/
  result : Except Failure (Option Nat)
  /-- The calls of the region's body, in order; each is tagged with its lane. -/
  calls : List (Recorded Nat ω)
  /-- The state after the call. -/
  after : Master ω

/-- The master's state without the log. -/
def Master.forget {ω ρ : Type} (s : Master (ω × ρ)) : Master ω :=
  { s with hosted := s.hosted.forget }

/-- The master's state with a log. -/
def Master.withLog {ω ρ : Type} (s : Master ω) (log : ρ) : Master (ω × ρ) :=
  { s with hosted := s.hosted.withLog log }

namespace MasterCall

variable {ω : Type}

/-- What a call does. -/
def perform : MasterCall ω → MasterM ω (Option Nat)
  | pushThreads count => do
    Master.pushThreads count
    return none
  | setThreads count => do
    Master.setThreads count
    return none
  | parallel body => do
    let size ← Master.parallel body
    return some size

/-- The call with its body's calls written down. -/
def recorded : MasterCall ω → MasterCall (ω × List (Recorded Nat ω))
  | pushThreads count => pushThreads count
  | setThreads count => setThreads count
  | parallel body => parallel fun lane => RegionDispatch.recorded lane (body lane)

/-- What comes of a call. -/
def answer (call : MasterCall ω) (s : Master ω) : MasterAnswer ω :=
  match call.recorded.perform (s.withLog []) with
  | .ok size t => ⟨.ok size, t.hosted.host.2, t.forget⟩
  | .error failure t => ⟨.error failure, t.hosted.host.2, t.forget⟩

/-- Every body of the call acts on its own lane only. -/
def Confined : MasterCall ω → Prop
  | pushThreads _ => True
  | setThreads _ => True
  | parallel body => ∀ lane, Region.Confined lane (body lane)

end MasterCall

namespace Master

variable {ω : Type}

/-- The answers to a list of calls, up to the first one that stops. -/
def run : List (MasterCall ω) → Master ω → List (MasterAnswer ω)
  | [], _ => []
  | call :: calls, s =>
    let answer := call.answer s
    answer :: match answer.result with
      | .ok _ => run calls answer.after
      | .error _ => []

/-- The block of a state has the given layout and is at rest. -/
def Rests (layout : BlockLayout) (limit nthreads clause : Nat) (s : Master ω) : Prop :=
  s.hosted.block.layout = layout ∧ s.hosted.block.AtRest limit nthreads clause

/-- What the answers to a list of calls have to be on a block of `available` workers, where `clause`
is the clause pushed last since the previous region, `nthreads` the threads set last, and
`activated` the number of workers activated so far. -/
inductive Conforms (arch : Arch) (layout : BlockLayout) (available limit : Nat) :
    (clause nthreads activated : Nat) → List (MasterCall ω) → List (MasterAnswer ω) → Prop
  | done {clause nthreads activated : Nat} :
      Conforms arch layout available limit clause nthreads activated [] []
  | pushThreads {clause nthreads activated count : Nat} {calls : List (MasterCall ω)}
      {answer : MasterAnswer ω} {answers : List (MasterAnswer ω)}
      (returned : answer.result = .ok none)
      (rests : answer.after.Rests layout limit nthreads count)
      (later : Conforms arch layout available limit count nthreads activated calls answers) :
      Conforms arch layout available limit clause nthreads activated (.pushThreads count :: calls)
        (answer :: answers)
  | setThreads {clause nthreads activated count : Nat} {calls : List (MasterCall ω)}
      {answer : MasterAnswer ω} {answers : List (MasterAnswer ω)}
      (returned : answer.result = .ok none)
      (rests : answer.after.Rests layout limit count clause)
      (later : Conforms arch layout available limit clause count activated calls answers) :
      Conforms arch layout available limit clause nthreads activated (.setThreads count :: calls)
        (answer :: answers)
  /-- A region of the size the sizing rule grants, whose body is called once on each lane of the
  team, in order, and sees the region there. -/
  | parallel {clause nthreads activated : Nat} {body : RegionBody ω} {calls : List (MasterCall ω)}
      {answer : MasterAnswer ω} {answers : List (MasterAnswer ω)} {decision : TeamDecision}
      (sized : arch.sizeTeam ⟨clause, nthreads, limit, available⟩ = .ok decision)
      (returned : answer.result = .ok (some decision.size))
      (lanes : answer.calls.map (·.tag) = List.range decision.size)
      (views : ∀ call ∈ answer.calls, call.SeesRegion decision.size)
      (rests : answer.after.Rests layout limit nthreads 0)
      (later : Conforms arch layout available limit 0 nthreads (activated + decision.size) calls
        answers) :
      Conforms arch layout available limit clause nthreads activated (.parallel body :: calls)
        (answer :: answers)
  /-- The run is halted at a region with which the count of activations does not fit its word. -/
  | overflow {clause nthreads activated : Nat} {body : RegionBody ω} {calls : List (MasterCall ω)}
      {answer : MasterAnswer ω} {decision : TeamDecision}
      (sized : arch.sizeTeam ⟨clause, nthreads, limit, available⟩ = .ok decision)
      (halted : answer.result = .error (.halted .addOverflow))
      (full : UInt32.size ≤ activated + decision.size) :
      Conforms arch layout available limit clause nthreads activated (.parallel body :: calls)
        [answer]

end Master

/-! ## Writing down changes nothing -/

section Forget

variable {ω ρ α : Type} {step' : RegionM (ω × ρ) α} {step : RegionM ω α}

namespace Master

theorem forgets_onHosted (h : Forgets Hosted.forget step' step) :
    Forgets forget (onHosted step') (onHosted step) :=
  h.zoom id (fun _ => rfl) fun _ _ => rfl

theorem forgets_onBlock (step : Dispatch Block α) :
    Forgets forget (onBlock step : MasterM (ω × ρ) α) (onBlock step) :=
  forgets_onHosted (Dispatch.forgets_onBlock step)

theorem forgets_lane : Forgets forget (lane : MasterM (ω × ρ) Nat) lane :=
  .read fun s => .checked s.hosted.block.layout.masterLane

theorem forgets_nextWork : Forgets forget (nextWork : MasterM (ω × ρ) WorkHandle) nextWork := by
  refine .read fun s => ?_
  refine (Forgets.checked _).bind fun id => Forgets.bind (.modify ?_) fun _ => ?_
  · exact fun _ => rfl
  split
  · exact .pure _
  · exact .reject _

theorem forgets_parallel {body' : RegionBody (ω × ρ)} {body : RegionBody ω}
    (h : ∀ lane, Forgets Hosted.forget (body' lane) (body lane)) :
    Forgets forget (parallel body') (parallel body) := by
  refine forgets_lane.bind fun master => forgets_nextWork.bind fun work => ?_
  refine .read fun s => (forgets_onBlock _).bind fun decision => ?_
  have sync : Forgets forget (sync : MasterM (ω × ρ) Unit) Master.sync := .modify fun _ => rfl
  refine sync.bind fun _ => (forgets_onBlock _).bind fun team => ?_
  refine (Forgets.forM (fun lane => forgets_onHosted (h lane)) team).bind fun _ => ?_
  refine (Forgets.forM (fun lane => forgets_onBlock _) team).bind fun _ => sync.bind fun _ => ?_
  refine Forgets.bind (.modify ?_) fun _ => .pure _
  exact fun _ => rfl

end Master

/-- **Writing down changes nothing**: the answer to a call has the result and the state of the call
itself. -/
theorem MasterCall.perform_eq (call : MasterCall ω) (s : Master ω) :
    call.perform s = match (call.answer s).result with
      | .ok size => .ok size (call.answer s).after
      | .error failure => .error failure (call.answer s).after := by
  have forgets : Forgets Master.forget call.recorded.perform call.perform := by
    cases call with
    | pushThreads count =>
      exact (Master.forgets_lane.bind fun _ => Master.forgets_onBlock _).bind fun _ => .pure _
    | setThreads count =>
      exact (Master.forgets_lane.bind fun _ => Master.forgets_onBlock _).bind fun _ => .pure _
    | parallel body =>
      exact (Master.forgets_parallel fun lane => forgets_recorded lane (body lane)).bind fun _ =>
        .pure _
  have run := forgets (s.withLog [])
  have plain : Master.forget (s.withLog ([] : List (Recorded Nat ω))) = s := rfl
  rw [plain] at run
  unfold Ends at run
  unfold answer
  split at run
  · next heq => rw [heq]; exact run
  · next heq => rw [heq]; exact run

/-- A call ends with its answer. -/
theorem MasterCall.ends_perform (call : MasterCall ω) (s : Master ω) :
    Ends call.perform s
      (fun size t => (call.answer s).result = .ok size ∧ t = (call.answer s).after)
      fun failure t => (call.answer s).result = .error failure ∧ t = (call.answer s).after := by
  unfold Ends
  rw [call.perform_eq]
  cases (call.answer s).result with
  | ok size => exact ⟨rfl, rfl⟩
  | error failure => exact ⟨rfl, rfl⟩

end Forget

/-! ## The answers of a program -/

namespace Master

variable {ω : Type} {arch : Arch} {layout : BlockLayout}
  {limit clause nthreads activated : Nat} {s : Master ω}

theorem Ready.withLog {ρ : Type} (ready : Ready arch layout limit clause nthreads activated s)
    (log : ρ) : Ready arch layout limit clause nthreads activated (s.withLog log) :=
  { ready with }

theorem Ready.forget {ρ : Type} {s : Master (ω × ρ)}
    (ready : Ready arch layout limit clause nthreads activated s) :
    Ready arch layout limit clause nthreads activated s.forget :=
  { ready with }

theorem Ready.rests (ready : Ready arch layout limit clause nthreads activated s) :
    s.Rests layout limit nthreads clause :=
  ⟨ready.layout, ready.rest⟩

/-- How a call ends decides its answer. -/
theorem answer_of_ends {call : MasterCall ω}
    {done : Option Nat → Master (ω × List (Recorded Nat ω)) → Prop}
    {stopped : Failure → Master (ω × List (Recorded Nat ω)) → Prop}
    (h : Ends call.recorded.perform (s.withLog []) done stopped) :
    (∃ size t, done size t ∧ call.answer s = ⟨.ok size, t.hosted.host.2, t.forget⟩) ∨
      ∃ failure t, stopped failure t ∧
        call.answer s = ⟨.error failure, t.hosted.host.2, t.forget⟩ := by
  unfold Ends at h
  unfold MasterCall.answer
  split at h
  · next heq => rw [heq]; exact .inl ⟨_, _, h, rfl⟩
  · next heq => rw [heq]; exact .inr ⟨_, _, h, rfl⟩

/-- The answer to a call that is no region and leads to a ready state. -/
theorem answer_of_ready {call : MasterCall ω} {step : MasterM (ω × List (Recorded Nat ω)) Unit}
    (performs : call.recorded.perform = do step; return none)
    (h : Ends step (s.withLog [])
      (fun _ t => Ready arch layout limit clause nthreads activated t) fun _ _ => False) :
    (call.answer s).result = .ok none ∧
      Ready arch layout limit clause nthreads activated (call.answer s).after := by
  have performed : Ends call.recorded.perform (s.withLog []) (fun size t => size = none ∧
      Ready arch layout limit clause nthreads activated t) fun _ _ => False := by
    rw [performs, ends_bind]
    exact h.mono (fun _ _ ready => ⟨rfl, ready⟩) fun _ _ stopped => stopped
  obtain ⟨_, t, ⟨rfl, ready⟩, heq⟩ | ⟨_, _, stopped, -⟩ := answer_of_ends performed
  · rw [heq]
    exact ⟨rfl, ready.forget⟩
  · exact stopped.elim

theorem Ready.answer_pushThreads (ready : Ready arch layout limit clause nthreads activated s)
    (count : Nat) :
    ((MasterCall.pushThreads count).answer s).result = .ok none ∧
      Ready arch layout limit count nthreads activated
        ((MasterCall.pushThreads count).answer s).after :=
  answer_of_ready rfl ((ready.withLog []).ends_pushThreads count)

theorem Ready.answer_setThreads (ready : Ready arch layout limit clause nthreads activated s)
    (count : Nat) :
    ((MasterCall.setThreads count).answer s).result = .ok none ∧
      Ready arch layout limit clause count activated
        ((MasterCall.setThreads count).answer s).after :=
  answer_of_ready rfl ((ready.withLog []).ends_setThreads count)

/-- **The answer to a region** whose calls settle: it conforms, or the counter of activations is
full. -/
theorem Ready.answer_parallel (ready : Ready arch layout limit clause nthreads activated s)
    {body : RegionBody ω} (confined : ∀ lane, Region.Confined lane (body lane))
    (settled : ∀ call ∈ ((MasterCall.parallel body).answer s).calls, call.Settled)
    {decision : TeamDecision}
    (sized : arch.sizeTeam ⟨clause, nthreads, limit, layout.master⟩ = .ok decision)
    (pos : 0 < decision.size) (le : decision.size ≤ layout.master) :
    (((MasterCall.parallel body).answer s).result = .ok (some decision.size) ∧
      ((MasterCall.parallel body).answer s).calls.map (·.tag) = List.range decision.size ∧
      (∀ call ∈ ((MasterCall.parallel body).answer s).calls, call.SeesRegion decision.size) ∧
      Ready arch layout limit 0 nthreads (activated + decision.size)
        ((MasterCall.parallel body).answer s).after) ∨
    ((MasterCall.parallel body).answer s).result = .error (.halted .addOverflow) ∧
      UInt32.size ≤ activated + decision.size := by
  have performed : Ends (MasterCall.parallel body).recorded.perform (s.withLog [])
      (fun size t => size = some decision.size ∧
        t.hosted.host.2.map (·.tag) = List.range decision.size ∧
        (∀ call ∈ t.hosted.host.2, call.SeesRegion decision.size) ∧
        ((∀ call ∈ t.hosted.host.2, call.Settled) →
          Ready arch layout limit 0 nthreads (activated + decision.size) t))
      fun failure t => (∃ call ∈ t.hosted.host.2, ¬call.Settled) ∨
        (failure = .halted .addOverflow ∧ UInt32.size ≤ activated + decision.size) := by
    rw [MasterCall.recorded, MasterCall.perform, ends_bind]
    refine ((ready.withLog []).ends_parallel rfl confined sized pos le).mono
      (fun size t done => ?_) fun _ _ stopped => stopped
    exact ⟨congrArg some done.1, done.2⟩
  obtain ⟨_, t, ⟨rfl, lanes, views, again⟩, heq⟩ | ⟨failure, t, stopped, heq⟩ :=
    answer_of_ends performed
  · rw [heq] at settled ⊢
    exact .inl ⟨rfl, lanes, views, (again settled).forget⟩
  · rw [heq] at settled ⊢
    obtain ⟨call, member, fails⟩ | ⟨rfl, full⟩ := stopped
    · exact absurd (settled call member) fails
    · exact .inr ⟨rfl, full⟩

/-- **From a ready state** the answers of every program conform. -/
theorem Ready.conforms_run (hwidth : 0 < arch.width) (calls : List (MasterCall ω)) :
    ∀ {clause nthreads activated : Nat} {s : Master ω},
      Ready arch layout limit clause nthreads activated s →
      (∀ call ∈ calls, call.Confined) →
      (∀ answer ∈ run calls s, ∀ call ∈ answer.calls, call.Settled) →
      Conforms arch layout layout.master limit clause nthreads activated calls (run calls s) := by
  -- by induction on the calls left; being ready is what each call preserves
  induction calls with
  | nil => exact fun _ _ _ => .done
  | cons call calls ih =>
    intro clause nthreads activated s ready confined settled
    have confined' : ∀ call ∈ calls, call.Confined := fun other later =>
      confined other (List.mem_cons_of_mem call later)
    have here := confined call List.mem_cons_self
    rw [run] at settled ⊢
    have now := settled _ List.mem_cons_self
    cases call with
    | pushThreads count =>
      obtain ⟨returned, ready'⟩ := ready.answer_pushThreads count
      simp only [returned] at settled ⊢
      refine .pushThreads returned ready'.rests (ih ready' confined' ?_)
      exact fun answer later => settled answer (List.mem_cons_of_mem _ later)
    | setThreads count =>
      obtain ⟨returned, ready'⟩ := ready.answer_setThreads count
      simp only [returned] at settled ⊢
      refine .setThreads returned ready'.rests (ih ready' confined' ?_)
      exact fun answer later => settled answer (List.mem_cons_of_mem _ later)
    | parallel body =>
      obtain ⟨decision, sized, pos, le⟩ := Arch.exists_sizeTeam hwidth
        ⟨clause, nthreads, limit, layout.master⟩ ready.workers
      obtain ⟨returned, lanes, views, ready'⟩ | ⟨halted, full⟩ :=
        ready.answer_parallel here now sized pos le
      · simp only [returned] at settled ⊢
        refine .parallel sized returned lanes views ready'.rests (ih ready' confined' ?_)
        exact fun answer later => settled answer (List.mem_cons_of_mem _ later)
      · simp only [halted]
        exact .overflow sized halted full

/-- **Whole programs conform.** On a new generic block with a worker, any program whose region
bodies act on their own lanes only, return, and leave no clause pending on thread 0 is answered as
the sizing rule says, region by region, with the block at rest after every call. -/
theorem conforms_run_of_create (config : LaunchConfig) {block : Block} {available : Nat}
    (valid : arch.isValid = true) (full : config.fullRuntime = true)
    (created : Block.create arch .generic config = .ok block)
    (lanes : block.layout.available = .ok available) (workers : 1 ≤ available) (host : ω)
    (barrier : Barrier) (calls : List (MasterCall ω)) (confined : ∀ call ∈ calls, call.Confined)
    (settled : ∀ answer ∈ run calls ⟨⟨block, host⟩, barrier, [], 0, config.fullRuntime⟩,
      ∀ call ∈ answer.calls, call.Settled) :
    Conforms arch block.layout available config.threadLimit.toNat 0 0 0 calls
      (run calls ⟨⟨block, host⟩, barrier, [], 0, config.fullRuntime⟩) := by
  have rest := Block.atRest_of_create valid created
  have master : available = block.layout.master := by
    rw [BlockLayout.available, rest.generic,
      BlockLayout.masterLane_eq (rest.maps rest.generic), Except.ok.injEq] at lanes
    exact lanes.symm
  subst master
  obtain ⟨size, -, rfl⟩ := Block.eq_of_create created rest.initialized
  refine Ready.conforms_run (Arch.width_pos_of_isValid valid) calls ?_ confined settled
  exact
    { workers
      rest
      arch := rfl
      layout := rfl
      fullRuntime := full
      activations := rfl
      regions := Nat.le_refl _
      begun := Nat.le_refl _ }

/-- A device with groups of two lanes. -/
def pairs : Arch := ⟨"pairs", 2, true⟩

/-- A generic block of three groups of `pairs`, of which the last one stands for the master. -/
def threePairs : Block where
  arch := pairs
  layout := ⟨6, 2, .generic⟩
  initialized := true
  state := .withStacks 6 (.initial 0)

/-- A region of a single worker that goes into a nested one, then a region of two workers. -/
def twoRegions : List (MasterCall Unit) :=
  [.pushThreads 1,
   .parallel fun lane => Region.nested lane fun lane => Hosted.onBlock (Block.setThreads lane 7),
   .setThreads 3,
   .parallel fun _ => pure ()]

theorem conforms_run_twoRegions :
    Conforms pairs threePairs.layout 4 0 0 0 0 twoRegions
      (run twoRegions ⟨⟨threePairs, ()⟩, ⟨#[]⟩, [], 0, true⟩) := by
  have confined : ∀ call ∈ twoRegions, call.Confined := by
    refine List.forall_mem_cons.2 ⟨trivial, List.forall_mem_cons.2 ⟨fun lane => ?_, ?_⟩⟩
    · exact .nested (.setThreads 7)
    · exact List.forall_mem_cons.2 ⟨trivial, List.forall_mem_singleton.2 fun lane =>
        .observe fun s => rfl⟩
  exact conforms_run_of_create { grid := .line 1, block := .line 6 } (by decide) rfl rfl rfl
    (by decide) () ⟨#[]⟩ twoRegions confined (by decide +kernel)

end Master

end RegionDispatch
