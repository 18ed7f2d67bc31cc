import RegionDispatch.Block.Basic
import RegionDispatch.Warp

/-!
# Convergent teams

In divergent control flow only some lanes of a warp execute, and no block-wide barrier can be
reached. A nested simd or parallel construct then works on the *activity mask* alone: each call
takes the lowest lane of the mask that was not used yet as the *source*, broadcasts the source's
pending hint, and gives the first lanes of the mask, by rank, to the source as its team. The
*cursor* is the lowest lane not used yet.

* `Construct` — simd or parallel, which differ in the hint they consume.
* `Team`, `Member` — the group-uniform result of one call.
* `Convergent.formTeam` — choosing the source, consuming its hint, sizing the team.
-/

namespace RegionDispatch

/-- A construct that divergent lanes can run together. -/
inductive Construct where
  /-- Lanes of the team run on the source's frame. -/
  | simd
  /-- Lanes of the team run on fresh frames, renumbered by rank. -/
  | parallel
  deriving DecidableEq, Repr

namespace Construct

/-- The hint the construct consumes. -/
def hint : Construct → Thread → Nat
  | simd, thread => thread.pendingSimd
  | parallel, thread => thread.pendingThreads

/-- A thread with that hint replaced. -/
def withHint : Construct → Nat → Thread → Thread
  | simd, n, thread => { thread with pendingSimd := n }
  | parallel, n, thread => { thread with pendingThreads := n }

end Construct

/-- What a lane saves on entry to a convergent region and hands back on exit. -/
structure Job where
  /-- The hint the lane held on entry. -/
  hint : Nat := 0
  /-- The lane's top frame on entry; none for a lane outside the team. -/
  savedTop : Option FrameId := none
  /-- The frame pushed for the lane, if the construct pushes one. -/
  pushed : Option FrameId := none
  deriving DecidableEq, Repr

instance : Inhabited Job := ⟨{}⟩

/-- One lane's part in a convergent team. -/
structure Member where
  /-- The lane within the warp. -/
  lane : Nat
  /-- The hardware lane within the block. -/
  hwLane : Nat
  /-- The lane's rank within the activity mask. -/
  rank : Nat
  /-- Whether the lane belongs to the team. -/
  active : Bool
  deriving DecidableEq, Repr

/-- The result of one convergent call, the same on every lane of the group. -/
structure Team where
  /-- The lane of the warp the team works for. -/
  source : Nat
  /-- Whether the source was the last lane of the mask. -/
  isFinal : Bool
  /-- Lanes of the team: the members of rank below it are active. -/
  size : Nat
  /-- Every lane of the mask, in ascending order. -/
  members : List Member
  deriving DecidableEq, Repr

namespace Team

/-- The lanes that work in the team. -/
def active (team : Team) : List Member := team.members.filter (·.active)

/-- The mask of the lanes that work in the team. -/
def activeMask (team : Team) : LaneMask := LaneMask.ofLanes (team.active.map (·.lane))

end Team

namespace Convergent

open Dispatch

/-- The state of a convergent entry: the block, the group's cursor, and the jobs by lane. -/
structure Entry where
  /-- The block. -/
  block : Block
  /-- The lowest lane not used as a source yet. -/
  cursor : Nat
  /-- What each lane saves. -/
  jobs : Array Job

/-- A lane of the activity mask with its thread and the hint it holds on entry. -/
structure Seat where
  /-- The lane within the warp. -/
  lane : Nat
  /-- The hardware lane within the block. -/
  hwLane : Nat
  /-- The logical thread. -/
  thread : Nat
  /-- The hint on entry. -/
  hint : Nat
  deriving DecidableEq, Repr

/-- A step on the block of an entry. -/
def onBlock {α : Type} : Dispatch Block α → Dispatch Entry α :=
  zoom (fun entry => (entry.block, entry.cursor, entry.jobs)) fun block (cursor, jobs) =>
    ⟨block, cursor, jobs⟩

/-- The seat of one lane; a lane outside the block has none. -/
def seat (construct : Construct) (warp : Warp) (lane : Nat) : Dispatch Block Seat := do
  let hwLane ← checked (warp.hwLane lane)
  let tid ← Block.threadOf hwLane
  let hint := construct.hint ((← get).state.thread tid)
  return { lane, hwLane, thread := tid, hint }

/-- The seats of all lanes of the mask. Every lane publishes its hint before any lane reads. -/
def seats (construct : Construct) (warp : Warp) : List Nat → Dispatch Block (List Seat)
  | [] => return []
  | lane :: lanes => do
    let first ← seat construct warp lane
    let others ← seats construct warp lanes
    return first :: others

/-- A formed team with the seats of its mask and the thread of its source. -/
structure Formation where
  /-- The team. -/
  team : Team
  /-- One seat per member, in the same order. -/
  seats : List Seat
  /-- The source's logical thread. -/
  sourceThread : Nat

/-- The member that takes a seat in a team of `size` lanes of `mask`. -/
def Seat.member (mask : LaneMask) (size : Nat) (seat : Seat) : Member :=
  { lane := seat.lane, hwLane := seat.hwLane, rank := mask.rankOf seat.lane,
    active := mask.rankOf seat.lane < size }

/-- The lanes a team of a group of `count` convergent lanes gets when its source hints at `hint`. -/
def teamSize (count hint : Nat) : Nat := if 0 < hint then min count hint else count

/-- Forms the next team: the source is the lowest lane of the mask at or above the cursor, its hint
is consumed, and no more lanes join than are convergent. The cursor moves past the source. -/
def formTeam (construct : Construct) (warp : Warp) (mask : LaneMask) :
    Dispatch Entry Formation := do
  let entry ← get
  refuseIf (!entry.block.initialized) .runtimeUninitialized
  let mask := mask.inter (LaneMask.full warp.width)
  let remaining := mask.remainingFrom entry.cursor
  match remaining.lowestFrom 0 with
  | none => reject (.noRemainingLanes mask entry.cursor)
  | some source =>
    let seats ← onBlock (seats construct warp mask.lanes)
    match seats.find? (·.lane = source) with
    | none => reject (.sourceLaneInactive source)
    | some origin =>
      let size := teamSize mask.count origin.hint
      onBlock (Block.onState fun state => state.modifyThread origin.thread (construct.withHint 0))
      modify ({ · with cursor := source + 1 })
      onBlock (Block.tally Counters.addTeam)
      return {
        team := {
          source, isFinal := remaining.count = 1, size,
          members := seats.map (·.member mask size) },
        seats, sourceThread := origin.thread }

end Convergent

end RegionDispatch
