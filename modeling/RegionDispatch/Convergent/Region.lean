import RegionDispatch.Convergent.Team

/-!
# Convergent regions

Entering and leaving a convergent region. A whole group enters at once; its active lanes leave one
by one, each with the job it saved on entry.

* `Convergent.enter` — forms the next team and seats its active lanes.
* `Convergent.exit` — restores one lane's stack and hint.
* `Block.fence` — orders the lanes of one warp; there is no barrier at this scope.
-/

namespace RegionDispatch

/-- Counts a memory fence of one warp. -/
def Block.fence : Dispatch Block Unit := Block.tally Counters.addFence

namespace Convergent

open Dispatch

/-- Changes the job of one lane. -/
def modifyJob (lane : Nat) (f : Job → Job) : Dispatch Entry Unit :=
  modify fun entry => { entry with jobs := entry.jobs.modify lane f }

/-- Puts an active lane on the source's own frame. -/
def joinSimd (sourceTop : FrameId) (seat : Seat) : Dispatch Entry Unit :=
  onBlock (Block.onState fun state => state.setTop seat.thread sourceTop)

/-- Puts an active lane on a fresh frame, derived from the source's and numbered by rank. -/
def joinParallel (sourceTop : FrameId) (sourceFrame : Frame) (size : Nat) (seat : Seat)
    (member : Member) : Dispatch Entry Unit := do
  let state := (← get).block.state
  let (id, pushed) :=
    state.push seat.thread (sourceFrame.convergent sourceTop member.rank size)
  modifyJob seat.lane ({ · with pushed := some id })
  onBlock (Block.onState fun _ => pushed)

/-- Writes the job of one lane of the mask, and lets it join the team if it is active. -/
def takeSeat (limit : Nat) (join : Seat → Member → Dispatch Entry Unit) (seat : Seat)
    (member : Member) : Dispatch Entry Unit := do
  refuseIf ((← get).jobs.size ≤ seat.lane) (.laneOutOfRange seat.lane limit)
  modifyJob seat.lane fun _ => { hint := seat.hint }
  if member.active then
    let saved ← granted ((← get).block.state.top seat.thread)
    modifyJob seat.lane ({ · with savedTop := some saved })
    join seat member
  else
    pure ()

/-- Lets the lanes of the mask take their seats, in ascending order. -/
def takeSeats (limit : Nat) (join : Seat → Member → Dispatch Entry Unit) :
    List (Seat × Member) → Dispatch Entry Unit
  | [] => pure ()
  | (seat, member) :: others => do
    takeSeat limit join seat member
    takeSeats limit join others

/-- How the active lanes of a formed team join it. -/
def joiner (construct : Construct) (formation : Formation) :
    Dispatch Entry (Seat → Member → Dispatch Entry Unit) := do
  let state := (← get).block.state
  let sourceTop ← granted (state.top formation.sourceThread)
  match construct with
  | .simd => return fun seat _ => joinSimd sourceTop seat
  | .parallel =>
    let sourceFrame ← granted (state.frame sourceTop)
    return joinParallel sourceTop sourceFrame formation.team.size

/-- Enters a convergent region. The jobs have to cover the whole warp; this is checked before any
lane's state changes. -/
def enter (construct : Construct) (warp : Warp) (mask : LaneMask) : Dispatch Entry Team := do
  let jobs := (← get).jobs.size
  refuseIf (jobs < warp.width) (.laneOutOfRange jobs warp.width)
  let formation ← formTeam construct warp mask
  let join ← joiner construct formation
  takeSeats warp.width join (formation.seats.zip formation.team.members)
  return formation.team

/-- Leaves a convergent simd region: the hint comes back first, then the stack. -/
def exitSimd (hwLane : Nat) (job : Job) : Dispatch Block Unit := do
  let tid ← Block.threadOf hwLane
  Block.onState fun state => state.modifyThread tid (Construct.simd.withHint job.hint)
  match job.savedTop with
  | none => reject (.stackUnderflow tid)
  | some saved => Block.onState fun state => state.setTop tid saved

/-- Leaves a convergent parallel region: the stack comes back, the pushed frame is released, then
the hint comes back. -/
def exitParallel (hwLane : Nat) (job : Job) : Dispatch Block Unit := do
  let tid ← Block.threadOf hwLane
  match job.savedTop with
  | none => reject (.stackUnderflow tid)
  | some saved =>
    Block.onState fun state =>
      let state := state.setTop tid saved
      let state := match job.pushed with
        | none => state
        | some id => state.release id
      state.modifyThread tid (Construct.parallel.withHint job.hint)

/-- Leaves a convergent region on one hardware lane, with the job that lane saved. -/
def exit : Construct → Nat → Job → Dispatch Block Unit
  | .simd => exitSimd
  | .parallel => exitParallel

end Convergent

end RegionDispatch
