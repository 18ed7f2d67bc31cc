import RegionDispatch.Convergent.Loop
import RegionDispatch.Demo.Event

/-!
# Demonstration programs

Two small programs that show what the dispatcher does. Their own data are the events so far, the
last one first.

* `nestedRegions` — a kernel whose master forks two regions, the second with a region nested in it.
* `simdLanes` — three divergent lanes that reach a simd construct.
-/

namespace RegionDispatch.Demo

open Dispatch

/-- The events so far, the last one first. -/
abbrev Journal := List Event

/-- Tells an event. -/
def tell (event : Event) : Dispatch Journal Unit := modify (event :: ·)

/-- A region body in which the first thread of the team tells its team. -/
def firstBody : RegionBody Journal := fun lane => do
  let rank ← Hosted.onBlock (Block.threadNum lane)
  if rank = 0 then
    let teamSize ← Hosted.onBlock (Block.teamSize lane)
    let level ← Hosted.onBlock (Block.level lane)
    Hosted.onHost (tell (.firstRegion teamSize level))

/-- The body of a nested region, in which lane 0 tells its team. -/
def innerBody : RegionBody Journal := fun lane => do
  if lane = 0 then
    let teamSize ← Hosted.onBlock (Block.teamSize lane)
    let level ← Hosted.onBlock (Block.level lane)
    Hosted.onHost (tell (.nestedRegion teamSize level))

/-- A region body in which every thread asks for four threads and nests a region all the same. -/
def secondBody : RegionBody Journal := fun lane => do
  Hosted.onBlock (Block.pushThreads lane 4)
  Region.nested lane innerBody

/-- The master runs the sequential part and forks two regions, one with a clause of 33 threads, one
with 48 threads requested for all regions. -/
def nestedRegions : Kernel Journal where
  name := "nested_regions"
  body := .generic do
    Master.pushThreads 33
    let first ← Master.parallel firstBody
    Master.setThreads 48
    let second ← Master.parallel secondBody
    Master.onHost (tell (.masterFinished first second))

/-- The lanes that reach the simd construct. -/
def simdMask : LaneMask := LaneMask.ofNat 0b1011

/-- Lanes 0, 1 and 3 of the first warp reach a simd construct; lane 0 asked for a single lane, lane
1 for three. -/
def simdLanes : RegionM Journal Nat := do
  Hosted.onBlock (Block.pushSimd 0 1)
  Hosted.onBlock (Block.pushSimd 1 3)
  let warp : Warp := ⟨0, (← get).block.arch.width⟩
  Convergent.loop .simd warp simdMask fun team member => do
    let thread ← Hosted.onBlock (Block.threadNum member.hwLane)
    Hosted.onHost (tell (.simdLane team.source member.lane thread))

end RegionDispatch.Demo
