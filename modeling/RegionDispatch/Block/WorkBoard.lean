import RegionDispatch.Fault
import RegionDispatch.Frame.Basic

/-!
# The work board

The one record per block through which the master hands a region to the workers: the region's
handle, the team size and the frame every member copies. A board without a handle tells the workers
to shut down. Beside it stands a counter of work-sharing events, which posting a region clears and
each activated worker's private counter starts from.

* `WorkHandle` — a region; 0 is not one.
* `WorkBoard.post`, `WorkBoard.retire` — the master's side.
* `EventCounter` — the shared counter; counters are 64-bit words.
-/

namespace RegionDispatch

/-- Names an outlined parallel region. -/
structure WorkHandle where
  /-- The number of the region. -/
  id : Nat
  /-- No region has number 0. -/
  pos : 0 < id
  deriving DecidableEq

namespace WorkHandle

/-- The handle of a number, if it names a region. -/
def ofId? (id : Nat) : Option WorkHandle := if pos : 0 < id then some ⟨id, pos⟩ else none

end WorkHandle

/-- Events a team has handed out. -/
structure EventCounter where
  /-- The next event. -/
  next : Nat := 0
  deriving DecidableEq, Repr

namespace EventCounter

/-- Claims the next event. -/
def claim (counter : EventCounter) : Except Fault (Nat × EventCounter) := do
  let next ← checkedAdd UInt64.size counter.next 1
  return (counter.next, ⟨next⟩)

/-- A private counter advanced by `n` completed events. -/
def complete (done n : Nat) : Except Fault Nat := checkedAdd UInt64.size done n

end EventCounter

/-- What the master last posted. -/
structure WorkBoard where
  /-- The posted region; none tells the workers to shut down. -/
  posted : Option WorkHandle := none
  /-- The frame each member of the team copies. -/
  template : Frame := {}
  /-- Lanes of the team. -/
  teamSize : Nat := 0
  /-- Events of the team. -/
  events : EventCounter := {}
  deriving DecidableEq

namespace WorkBoard

/-- Posts a region for the team that `template` describes, and clears the events. -/
def post (work : WorkHandle) (template : Frame) : WorkBoard :=
  { posted := some work, template, teamSize := template.teamSize }

/-- Tells the workers to shut down. -/
def retire (board : WorkBoard) : WorkBoard := { board with posted := none }

end WorkBoard

end RegionDispatch
