import RegionDispatch.Proofs.Block.LaneView

/-! # Interleaved SPMD lanes

The lanes of an SPMD block store their frames in one arena and release them there, so where a frame
ends up depends on what the other lanes did before. What a lane observes does not: in any
interleaving it observes what it observes when its calls are run without those of the others.

* **`Block.observe schedule block`** — what comes of the calls of a schedule, up to a fault.
* `Block.observe_filter` — two runs in which a lane makes the same calls agree on what it observes,
  as long as they start with the same view of the lane.
* `Block.observe_filter_of_create` — the same for a new block and the lane's own calls. -/

namespace RegionDispatch

open Dispatch
open BlockState (baseId homeId)

/-- A call of a lane with what it gave back. -/
structure Observation where
  /-- The lane. -/
  lane : Nat
  /-- Its call. -/
  call : LaneCall
  /-- The answer or the refusal. -/
  result : Except DispatchError Answer

namespace Block

variable {block together alone : Block} {size lane : Nat} {views views' : Nat → LaneView}

/-- What comes of a schedule of calls, each by one lane. After a fault nothing is observed. -/
def observe : List (Nat × LaneCall) → Block → List Observation
  | [], _ => []
  | (lane, call) :: calls, block =>
    match attempt (call.perform lane) block with
    | .ok result after => ⟨lane, call, result⟩ :: observe calls after
    | .error _ _ => []

/-- The calls of a schedule that enter a serialized region. -/
def begins (schedule : List (Nat × LaneCall)) : Nat :=
  schedule.countP fun call => call.2 = .beginSerial

theorem entries_le_begins (size lane : Nat) (call : LaneCall) (calls : List (Nat × LaneCall)) :
    call.entries size lane + begins calls ≤ begins ((lane, call) :: calls) := by
  rw [begins, begins, List.countP_cons]
  cases call with
  | beginSerial =>
    have entered : LaneCall.beginSerial.entries size lane ≤ 1 := by
      rw [LaneCall.entries]
      split <;> omega
    simp only [decide_true, if_true]
    omega
  | _ =>
    simp only [LaneCall.entries, reduceCtorEq, decide_false, Bool.false_eq_true, if_false]
    omega

/-- **What a lane observes** in a schedule is a start of what it observes when only its calls are
run, and all of it unless a counter can fill up. -/
theorem observe_filter (schedule : List (Nat × LaneCall)) (shared : Shows size views together)
    (own : Shows size views' alone) (agree : views lane = views' lane)
    (fewer : alone.counters.serialized ≤ together.counters.serialized) :
    (observe schedule together).filter (·.lane = lane) <+:
        observe (schedule.filter (·.1 = lane)) alone ∧
      (together.counters.serialized + begins schedule < UInt32.size →
        (observe schedule together).filter (·.lane = lane) =
          observe (schedule.filter (·.1 = lane)) alone) := by
  -- by induction on the schedule; what both runs keep is that they show the lane the same view
  induction schedule generalizing together alone views views' with
  | nil => exact ⟨List.nil_prefix, fun _ => rfl⟩
  | cons call calls ih =>
    obtain ⟨caller, call⟩ := call
    have count := entries_le_begins together.layout.size caller call calls
    by_cases full : Overflows caller call together
    · -- the shared block halts, and nothing more is observed there
      have maps : together.layout.MapsLanes := by
        obtain ⟨-, -, stackOf, stacked, -⟩ := shared
        exact stacked.maps
      rw [observe, attempt_of_overflows maps full]
      refine ⟨List.nil_prefix, fun room => ?_⟩
      have := full.1
      have := full.2
      omega
    obtain ⟨after, run, shared', counted⟩ := shared.attempt_eq_ok full
    rw [shared.2.1] at count
    have rest : together.counters.serialized + begins ((caller, call) :: calls) < UInt32.size →
        after.counters.serialized + begins calls < UInt32.size := by omega
    rw [observe, run]
    by_cases same : caller = lane
    · -- the call is the lane's own, so both runs make it
      subst same
      have full' : ¬Overflows caller call alone := by
        rintro ⟨enters, overflow⟩
        refine full ⟨?_, by omega⟩
        rw [shared.2.1, ← own.2.1]
        exact enters
      obtain ⟨after', run', own', counted'⟩ := own.attempt_eq_ok full'
      rw [← agree] at run' own'
      have later := ih shared' own' (by rw [Function.update_self, Function.update_self]) (by omega)
      rw [List.filter_cons_of_pos (by simp), List.filter_cons_of_pos (by simp), observe, run']
      refine ⟨(List.prefix_cons_inj _).2 later.1, fun room => ?_⟩
      rw [later.2 (rest room)]
    · -- the call is another lane's, so only the shared run makes it
      have later := ih shared' own ((Function.update_of_ne (Ne.symm same) _ _).trans agree)
        (Nat.le_trans fewer (counted ▸ Nat.le_add_right _ _))
      rw [List.filter_cons_of_neg (by simpa using same),
        List.filter_cons_of_neg (by simpa using same)]
      exact ⟨later.1, fun room => later.2 (rest room)⟩

/-! ## New blocks -/

/-- What a lane sees of a new block: the frame set aside for it. -/
def initialView (block : Block) (lane : Nat) : LaneView where
  top := (block.state.arena.unlinked? (homeId lane)).getD {}
  below := []
  loop := (block.state.thread lane).loop
  pendingThreads := (block.state.thread lane).pendingThreads
  pendingSimd := (block.state.thread lane).pendingSimd

theorem shows_of_create {arch : Arch} {config : LaunchConfig}
    (created : create arch .spmd config = .ok block) (initialized : block.initialized = true) :
    Shows block.layout.size (initialView block) block := by
  have stacked := stacked_of_create (fun generic => by cases generic) created initialized
  have spmd : block.layout.mode = .spmd := by
    obtain ⟨size, -, rfl⟩ := eq_of_create created initialized
    rfl
  refine ⟨spmd, rfl, _, stacked, fun lane inside => ⟨?_, rfl, rfl, rfl, rfl⟩⟩
  obtain ⟨frame, hframe⟩ := Option.isSome_iff_exists.1 (stacked.isLive_homeId inside)
  have seen : block.state.arena.unlinked? (homeId lane) = some frame.unlinked := by
    rw [FrameArena.unlinked?, hframe]
    rfl
  show [block.state.arena.unlinked? (homeId lane)] =
    [some ((block.state.arena.unlinked? (homeId lane)).getD {})]
  rw [seen]
  rfl

/-- **SPMD lanes do not interfere.** Whatever the lanes of a new block with the full runtime call
and however their calls are interleaved, each lane observes what it observes when only its own calls
are run on such a block. Only a block in which the 32-bit counter of serialized regions fills up
halts; what a lane observed up to there is then a start of what it observes alone. -/
theorem observe_filter_of_create {arch : Arch} {config : LaunchConfig}
    (created : create arch .spmd config = .ok block) (initialized : block.initialized = true)
    (schedule : List (Nat × LaneCall)) (lane : Nat) :
    (observe schedule block).filter (·.lane = lane) = observe (schedule.filter (·.1 = lane)) block ∨
      UInt32.size ≤ begins schedule ∧
        (observe schedule block).filter (·.lane = lane) <+:
          observe (schedule.filter (·.1 = lane)) block := by
  have shown := shows_of_create created initialized
  have unused : block.counters.serialized = 0 := by
    obtain ⟨size, -, rfl⟩ := eq_of_create created initialized
    rfl
  have agree : initialView block lane = initialView block lane := rfl
  obtain ⟨start, all⟩ := observe_filter schedule shown shown agree (Nat.le_refl _)
  rw [unused, Nat.zero_add] at all
  by_cases room : begins schedule < UInt32.size
  · exact .inl (all room)
  · exact .inr ⟨Nat.le_of_not_lt room, start⟩

/-- Two lanes that enter and leave in turns, so that each stores its frames where the other released
one. -/
def crossed : List (Nat × LaneCall) :=
  [(0, .beginSerial), (1, .beginSerial), (0, .endSerial), (1, .beginSerial), (0, .ask .parkedLoop),
    (1, .endSerial), (0, .beginSerial), (1, .ask .level), (0, .ask .level), (1, .endSerial),
    (1, .endSerial)]

theorem observe_filter_crossed :
    (observe crossed twoLanes).filter (·.lane = 1) =
      observe (crossed.filter (·.1 = 1)) twoLanes := by
  have created : create .volta .spmd { grid := .line 1, block := .line 2 } = .ok twoLanes := rfl
  rcases observe_filter_of_create created rfl crossed 1 with same | ⟨full, -⟩
  · exact same
  · exact absurd full (by decide)

end Block

end RegionDispatch
