import RegionDispatch.Block.Basic

/-!
# Serialized regions

A parallel construct reached inside a region runs with a team of one on the calling thread. Entering
it parks the thread's loop state in the frame it leaves and pushes a frame; leaving it pops that
frame and brings the loop state back. A block without the full runtime only counts open regions.

* `Block.beginSerial`, `Block.endSerial` — entering and leaving.
* `BlockState.topIsSerialized` — whether the top of a stack was pushed by entering.
-/

namespace RegionDispatch

/-- Whether the top of a thread's stack belongs to a serialized region: a team of one, one region
further in than the frame below it, which holds parked loop state. A thread's own first-level frame
and the outermost frame never do. -/
def BlockState.topIsSerialized (state : BlockState) (tid : Nat) : Except DispatchError Bool := do
  let top ← state.top tid
  if (state.thread tid).home = some top then
    return false
  else
    let frame ← state.frame top
    match frame.parent with
    | none => return false
    | some parent =>
      let below ← state.frame parent
      return frame.rank = 0 && frame.teamSize = 1 && frame.depth = below.depth.deeper
        && below.parkedLoop.isSome

namespace Block

open Dispatch

/-- Enters a serialized region on the calling thread. -/
def beginSerial (lane : Nat) : Dispatch Block Unit := do
  let tid ← threadOf lane
  tally Counters.addSerialized
  let block ← get
  if block.initialized then
    let top ← granted (block.state.top tid)
    let frame ← granted (block.state.topFrame tid)
    let parked := (block.state.thread tid).loop
    onState fun state =>
      ((state.modifyFrame top ({ · with parkedLoop := some parked })).push tid
        (frame.serialized top)).2
  else
    let openRegions ← checked (checkedAdd UInt32.size (block.state.thread tid).openRegions 1)
    onState fun state => state.modifyThread tid ({ · with openRegions })

/-- Takes the parked loop state out of the thread's top frame and gives it back to the thread. -/
def unparkLoop (tid : Nat) : Dispatch Block Unit := do
  let state := (← get).state
  let top ← granted (state.top tid)
  let frame ← granted (state.topFrame tid)
  match frame.parkedLoop with
  | none => pure ()
  | some loop =>
    onState fun state =>
      (state.modifyFrame top ({ · with parkedLoop := none })).modifyThread tid ({ · with loop })

/-- Leaves the serialized region that the calling thread entered last. -/
def endSerial (lane : Nat) : Dispatch Block Unit := do
  let tid ← threadOf lane
  let block ← get
  if block.initialized then
    let serialized ← granted (block.state.topIsSerialized tid)
    refuseIf (!serialized) (.unbalancedExit tid)
    let (popped, state) ← granted (block.state.pop tid)
    onState fun _ => state.release popped
    unparkLoop tid
  else
    let openRegions := (block.state.thread tid).openRegions
    refuseIf (openRegions = 0) (.unbalancedExit tid)
    onState fun state => state.modifyThread tid ({ · with openRegions := openRegions - 1 })

end Block

end RegionDispatch
