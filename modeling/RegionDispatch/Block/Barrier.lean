import RegionDispatch.DispatchError

/-!
# The block barrier

Lanes of a block only synchronize at barriers, and every participating lane has to arrive equally
often whether or not it joined the region in between. The barrier counts arrivals per lane; lanes
that never take part have no count.

* `Barrier.arrive`, `Barrier.syncAll` — one lane arrives, every participant arrives.
* `Barrier.aligned` — the common count, or the least and greatest of counts that differ.
-/

namespace RegionDispatch

/-- Arrivals at the barrier of one block. -/
structure Barrier where
  /-- Arrivals by hardware lane; none for lanes that never take part. -/
  arrivals : Array (Option Nat)
  deriving DecidableEq, Repr

namespace Barrier

/-- A barrier nobody has arrived at yet. Participants outside the block are left out. -/
def ofParticipants (size : Nat) (participants : List Nat) : Barrier :=
  ⟨participants.foldl (fun arrivals lane => arrivals.setIfInBounds lane (some 0))
    (Array.replicate size none)⟩

/-- One lane arrives; nothing happens for a lane that does not take part. -/
def arrive (barrier : Barrier) (lane : Nat) : Barrier :=
  ⟨barrier.arrivals.modify lane (Option.map (· + 1))⟩

/-- Every participant arrives. -/
def syncAll (barrier : Barrier) : Barrier := ⟨barrier.arrivals.map (Option.map (· + 1))⟩

/-- Arrivals of a participating lane. -/
def arrivalsOf (barrier : Barrier) (lane : Nat) : Option Nat := barrier.arrivals[lane]?.join

/-- Arrivals per lane, 0 for lanes that do not take part. -/
def counts (barrier : Barrier) : List Nat := barrier.arrivals.toList.map (·.getD 0)

/-- The counts of the participants, in lane order. -/
def participantCounts (barrier : Barrier) : List Nat := barrier.arrivals.toList.filterMap id

/-- The count all participants share, 0 if there are none. -/
def aligned (barrier : Barrier) : Except DispatchError Nat :=
  match barrier.participantCounts with
  | [] => .ok 0
  | first :: rest =>
    let least := rest.foldl min first
    let greatest := rest.foldl max first
    if least = greatest then .ok least else .error (.barrierMisaligned least greatest)

end Barrier

end RegionDispatch
