import Mathlib.Order.Bounds.Basic
import RegionDispatch.Proofs.Block.Barrier

/-! # The arrivals a barrier has seen

A barrier serves any sequence of arrivals, of one lane or of all participants at once, and of lanes
that take no part. The count of a lane is a function of what happened since the barrier was made:
the phases everyone arrived at, and the arrivals of the lane alone. The barrier is aligned exactly
where these counts agree, and otherwise reports the least and the greatest of them; lanes that take
no part have no say in either.

* `BarrierEvent`, `BarrierEvent.arrivalsIn` — what can happen, and how often a lane arrives in it.
* `Barrier.arrivalsOf_serve`, `Barrier.arrivalsOf_foldl_serve` — the count after one event, and
  after any number of them.
* `Barrier.aligned_eq_ok`, `Barrier.aligned_eq_error` — when the counts of a barrier are aligned.
* **`Barrier.Accounts`** — what holds of a barrier after a sequence of events, and
  `Barrier.accounts_after`, that it does. -/

namespace RegionDispatch

/-- What can happen at a barrier. -/
inductive BarrierEvent where
  /-- One lane arrives. -/
  | arrive (lane : Nat)
  /-- Every participant arrives. -/
  | syncAll
  deriving DecidableEq

namespace BarrierEvent

/-- How often a lane that takes part arrives in the course of the events. -/
def arrivalsIn (events : List BarrierEvent) (lane : Nat) : Nat :=
  events.count .syncAll + events.count (.arrive lane)

@[simp] theorem arrivalsIn_nil (lane : Nat) : arrivalsIn [] lane = 0 := rfl

@[simp] theorem arrivalsIn_syncAll (lane : Nat) : arrivalsIn [.syncAll] lane = 1 := rfl

@[simp] theorem arrivalsIn_arrive (other lane : Nat) :
    arrivalsIn [.arrive other] lane = if other = lane then 1 else 0 := by
  simp [arrivalsIn, List.count_singleton]

/-- The arrivals of the first event and of the later ones. -/
theorem arrivalsIn_cons (event : BarrierEvent) (events : List BarrierEvent) (lane : Nat) :
    arrivalsIn (event :: events) lane = arrivalsIn [event] lane + arrivalsIn events lane := by
  simp only [arrivalsIn, List.count_cons, List.count_nil]
  omega

/-- No event is more than one arrival of a lane. -/
theorem arrivalsIn_le_length (events : List BarrierEvent) (lane : Nat) :
    arrivalsIn events lane ≤ events.length := by
  induction events with
  | nil => exact Nat.le_refl 0
  | cons event events ih =>
    have once : arrivalsIn [event] lane ≤ 1 := by
      cases event with
      | arrive other =>
        rw [arrivalsIn_arrive]
        split <;> omega
      | syncAll => exact Nat.le_refl 1
    rw [arrivalsIn_cons, List.length_cons]
    omega

end BarrierEvent

namespace Barrier

open BarrierEvent

variable {barrier : Barrier} {size lane n : Nat} {participants : List Nat}
  {events : List BarrierEvent}

/-! ## Counting -/

/-- One event. -/
def serve (barrier : Barrier) : BarrierEvent → Barrier
  | .arrive lane => barrier.arrive lane
  | .syncAll => barrier.syncAll

@[simp] theorem arrivalsOf_arrive (barrier : Barrier) (other lane : Nat) :
    (barrier.arrive other).arrivalsOf lane =
      if other = lane then (barrier.arrivalsOf lane).map (· + 1) else barrier.arrivalsOf lane := by
  rw [arrivalsOf, arrivalsOf, arrive, Array.getElem?_modify]
  split
  · cases barrier.arrivals[lane]? <;> rfl
  · rfl

@[simp] theorem arrivalsOf_syncAll (barrier : Barrier) (lane : Nat) :
    barrier.syncAll.arrivalsOf lane = (barrier.arrivalsOf lane).map (· + 1) := by
  rw [arrivalsOf, arrivalsOf, syncAll, Array.getElem?_map]
  cases barrier.arrivals[lane]? <;> rfl

/-- **One event** raises the count of a lane by the arrivals it is; a lane without a count gets
none. -/
theorem arrivalsOf_serve (barrier : Barrier) (event : BarrierEvent) (lane : Nat) :
    (barrier.serve event).arrivalsOf lane =
      (barrier.arrivalsOf lane).map (· + arrivalsIn [event] lane) := by
  cases event with
  | arrive other =>
    rw [serve, arrivalsOf_arrive, arrivalsIn_arrive]
    split <;> simp
  | syncAll => rw [serve, arrivalsOf_syncAll, arrivalsIn_syncAll]

/-- **Any number of events** raise it by the arrivals they are together. -/
theorem arrivalsOf_foldl_serve (events : List BarrierEvent) (barrier : Barrier) (lane : Nat) :
    (events.foldl serve barrier).arrivalsOf lane =
      (barrier.arrivalsOf lane).map (· + arrivalsIn events lane) := by
  -- by induction on the events, for whatever the barrier has counted before
  induction events generalizing barrier with
  | nil => simp
  | cons event events ih =>
    rw [List.foldl_cons, ih, arrivalsOf_serve, Option.map_map, arrivalsIn_cons event events]
    refine congrArg (Option.map · _) (funext fun before => ?_)
    rw [Function.comp_apply, Nat.add_assoc]

/-- The lanes that take part: those of the block that were named, however often. -/
def TakesPart (size : Nat) (participants : List Nat) (lane : Nat) : Prop :=
  lane < size ∧ lane ∈ participants

instance (size : Nat) (participants : List Nat) (lane : Nat) :
    Decidable (TakesPart size participants lane) :=
  inferInstanceAs (Decidable (lane < size ∧ lane ∈ participants))

theorem arrivalsOf_ofParticipants (size : Nat) (participants : List Nat) (lane : Nat) :
    (ofParticipants size participants).arrivalsOf lane =
      if TakesPart size participants lane then some 0 else none := by
  rw [arrivalsOf, ofParticipants, getElem?_foldl_setIfInBounds, Array.getElem?_replicate]
  unfold TakesPart
  by_cases inside : lane < size <;> by_cases named : lane ∈ participants <;> simp [inside, named]

/-- The barrier of a block after a sequence of events. -/
def after (size : Nat) (participants : List Nat) (events : List BarrierEvent) : Barrier :=
  events.foldl serve (ofParticipants size participants)

/-- Its count of a lane is what happened. -/
theorem arrivalsOf_after :
    (after size participants events).arrivalsOf lane =
      if TakesPart size participants lane then some (arrivalsIn events lane) else none := by
  rw [after, arrivalsOf_foldl_serve, arrivalsOf_ofParticipants]
  split <;> simp

theorem arrivalsOf_after_eq_some :
    (after size participants events).arrivalsOf lane = some n ↔
      TakesPart size participants lane ∧ arrivalsIn events lane = n := by
  rw [arrivalsOf_after]
  split <;> simp [*]

/-! ## Alignment -/

/-- The counts of the participants. -/
def counted (barrier : Barrier) : Set Nat := {n | ∃ lane, barrier.arrivalsOf lane = some n}

theorem mem_participantCounts : n ∈ barrier.participantCounts ↔ n ∈ barrier.counted := by
  rw [participantCounts, List.mem_filterMap]
  constructor
  · rintro ⟨entry, member, count⟩
    obtain ⟨lane, place⟩ := List.mem_iff_getElem?.mp member
    refine ⟨lane, ?_⟩
    rw [arrivalsOf, ← Array.getElem?_toList, place]
    exact count
  · rintro ⟨lane, count⟩
    rw [arrivalsOf, Option.join_eq_some_iff, ← Array.getElem?_toList] at count
    exact ⟨some n, List.mem_of_getElem? count, rfl⟩

/-- **What a check comes to**: there is nobody to count, or it compares the least count with the
greatest. -/
theorem aligned_cases (barrier : Barrier) :
    (¬barrier.counted.Nonempty ∧ barrier.aligned = .ok 0) ∨
      ∃ least greatest, IsLeast barrier.counted least ∧ IsGreatest barrier.counted greatest ∧
        barrier.aligned =
          if least = greatest then .ok least else .error (.barrierMisaligned least greatest) := by
  unfold aligned
  cases counts : barrier.participantCounts with
  | nil =>
    refine .inl ⟨?_, rfl⟩
    rintro ⟨n, count⟩
    rw [← mem_participantCounts, counts] at count
    cases count
  | cons first rest =>
    have members (n : Nat) : n ∈ first :: rest ↔ n ∈ barrier.counted := by
      rw [← counts, mem_participantCounts]
    have least : (first :: rest).min? = some (rest.foldl min first) := List.min?_cons'
    have greatest : (first :: rest).max? = some (rest.foldl max first) := List.max?_cons'
    obtain ⟨found, below⟩ := List.min?_eq_some_iff.mp least
    obtain ⟨found', above⟩ := List.max?_eq_some_iff.mp greatest
    refine .inr ⟨rest.foldl min first, rest.foldl max first, ⟨?_, ?_⟩, ⟨?_, ?_⟩, rfl⟩
    · exact (members _).mp found
    · exact fun n count => below n ((members n).mpr count)
    · exact (members _).mp found'
    · exact fun n count => above n ((members n).mpr count)

/-- All counts are the same where the least and the greatest one are. -/
theorem forall_counted_eq {least greatest common : Nat} (isLeast : IsLeast barrier.counted least)
    (isGreatest : IsGreatest barrier.counted greatest) :
    (∀ n ∈ barrier.counted, n = common) ↔ least = common ∧ greatest = common := by
  constructor
  · intro same
    exact ⟨same least isLeast.1, same greatest isGreatest.1⟩
  · rintro ⟨rfl, bound⟩ n count
    have above := isLeast.2 count
    have below := isGreatest.2 count
    omega

/-- A barrier is aligned where nobody takes part, or where all counts are the same. -/
theorem aligned_eq_ok {common : Nat} :
    barrier.aligned = .ok common ↔
      ¬barrier.counted.Nonempty ∧ common = 0 ∨
        barrier.counted.Nonempty ∧ ∀ n ∈ barrier.counted, n = common := by
  obtain ⟨nobody, empty⟩ | ⟨least, greatest, isLeast, isGreatest, compared⟩ := aligned_cases barrier
  · rw [empty]
    simp [nobody, eq_comm]
  · have somebody : barrier.counted.Nonempty := ⟨least, isLeast.1⟩
    rw [compared, forall_counted_eq isLeast isGreatest]
    split
    · next same => simp [somebody, same]
    · next different =>
      simp only [reduceCtorEq, somebody, not_true, false_and, true_and, false_or, false_iff]
      omega

/-- Otherwise it tells the least and the greatest count. -/
theorem aligned_eq_error {error : DispatchError} :
    barrier.aligned = .error error ↔
      ∃ least greatest, error = .barrierMisaligned least greatest ∧ least ≠ greatest ∧
        IsLeast barrier.counted least ∧ IsGreatest barrier.counted greatest := by
  obtain ⟨nobody, empty⟩ | ⟨least, greatest, isLeast, isGreatest, compared⟩ := aligned_cases barrier
  · rw [empty]
    constructor
    · intro refused
      cases refused
    · rintro ⟨least, _, -, -, isLeast, -⟩
      exact absurd ⟨least, isLeast.1⟩ nobody
  · rw [compared]
    constructor
    · intro refused
      split at refused
      · cases refused
      · next different =>
        cases refused
        exact ⟨least, greatest, rfl, different, isLeast, isGreatest⟩
    · rintro ⟨least', greatest', rfl, different, isLeast', isGreatest'⟩
      rw [isLeast.unique isLeast', isGreatest.unique isGreatest', if_neg different]

/-! ## Any history -/

/-- The arrivals of the lanes that take part. -/
def arrivalsOfAll (size : Nat) (participants : List Nat) (events : List BarrierEvent) : Set Nat :=
  {n | ∃ lane, TakesPart size participants lane ∧ arrivalsIn events lane = n}

/-- They are what the barrier counts. -/
theorem counted_after (size : Nat) (participants : List Nat) (events : List BarrierEvent) :
    (after size participants events).counted = arrivalsOfAll size participants events := by
  unfold counted arrivalsOfAll
  simp only [arrivalsOf_after_eq_some]

theorem nonempty_counted_after :
    (after size participants events).counted.Nonempty ↔
      ∃ lane, TakesPart size participants lane := by
  rw [counted_after]
  constructor
  · rintro ⟨_, lane, part, -⟩
    exact ⟨lane, part⟩
  · rintro ⟨lane, part⟩
    exact ⟨_, lane, part, rfl⟩

theorem forall_counted_after {common : Nat} :
    (∀ n ∈ (after size participants events).counted, n = common) ↔
      ∀ lane, TakesPart size participants lane → arrivalsIn events lane = common := by
  rw [counted_after]
  constructor
  · intro same lane part
    exact same _ ⟨lane, part, rfl⟩
  · rintro same _ ⟨lane, part, rfl⟩
    exact same lane part

/-- **What a barrier accounts for** after a sequence of events. -/
structure Accounts (size : Nat) (participants : List Nat) (events : List BarrierEvent) : Prop where
  /-- There is no count of lanes outside the block, nor of lanes that were not named. -/
  none_iff : ∀ lane, (after size participants events).arrivalsOf lane = none ↔
    size ≤ lane ∨ lane ∉ participants
  /-- Each other lane has its phases and its own arrivals counted. -/
  some_eq : ∀ lane, lane < size → lane ∈ participants →
    (after size participants events).arrivalsOf lane =
      some (events.count .syncAll + events.count (.arrive lane))
  /-- The counts fit a 64-bit word as long as the number of events does. -/
  fits : events.length < UInt64.size → ∀ lane n,
    (after size participants events).arrivalsOf lane = some n → n < UInt64.size
  /-- The barrier is aligned where nobody takes part, with no arrivals, or where all that do have
  arrived equally often. -/
  ok_iff : ∀ common, (after size participants events).aligned = .ok common ↔
    (¬∃ lane, TakesPart size participants lane) ∧ common = 0 ∨
      (∃ lane, TakesPart size participants lane) ∧
        ∀ lane, TakesPart size participants lane → arrivalsIn events lane = common
  /-- Otherwise it is refused, with the least and the greatest count of those that take part. -/
  error_iff : ∀ error, (after size participants events).aligned = .error error ↔
    ∃ least greatest, error = .barrierMisaligned least greatest ∧ least ≠ greatest ∧
      IsLeast (arrivalsOfAll size participants events) least ∧
      IsGreatest (arrivalsOfAll size participants events) greatest

/-- **The accounts of a barrier are exact**, for every block, whoever is named to take part and
whatever happens. -/
theorem accounts_after (size : Nat) (participants : List Nat) (events : List BarrierEvent) :
    Accounts size participants events where
  none_iff lane := by
    rw [arrivalsOf_after, ite_eq_right_iff, TakesPart]
    simp only [reduceCtorEq, imp_false, not_and_or, Nat.not_lt]
  some_eq lane inside named := by
    rw [arrivalsOf_after, if_pos ⟨inside, named⟩, arrivalsIn]
  fits few lane n count := by
    obtain ⟨-, rfl⟩ := arrivalsOf_after_eq_some.mp count
    exact Nat.lt_of_le_of_lt (arrivalsIn_le_length events lane) few
  ok_iff common := by
    rw [aligned_eq_ok, nonempty_counted_after, forall_counted_after]
  error_iff error := by
    rw [aligned_eq_error, counted_after]

/-- Lane 9 is outside the block, lane 3 was not named, and lane 1 was named twice; lane 1 alone is
one arrival ahead. -/
example : (after 4 [0, 9, 1, 1] [.arrive 3, .syncAll, .arrive 1, .arrive 9, .syncAll]).aligned =
    .error (.barrierMisaligned 2 3) := by
  cbv

end Barrier

end RegionDispatch
