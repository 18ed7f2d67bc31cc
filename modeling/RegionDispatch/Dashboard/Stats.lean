import RegionDispatch.Metrics.Snapshot
import RegionDispatch.Screen.Gauge

/-!
# The statistics panel

Two gauges, for the lanes of the last team and for the blocks that are done, and the totals of the
launch below them.

* `teamGauge`, `blocksGauge` — the gauges.
* `statLines` — the totals.
* `stats` — the panel.
-/

namespace RegionDispatch.Dashboard

open Screen

/-- How much of the lanes that regions can use the last team had; more than all are shown as all. -/
def teamPercent (s : Snapshot) : Nat :=
  min 100 (percentOf s.lastTeamSize.toNat s.availableLanes.toNat)

/-- How much of the blocks is done. -/
def blocksPercent (s : Snapshot) : Nat :=
  percentOf s.blocksExecuted.toNat s.blocksTotal.toNat

/-- Two numbers as a share. -/
def shareText (part total : UInt32) : String := s!"{part.toNat} / {total.toNat}"

/-- The gauge of the last team. -/
def teamGauge (s : Snapshot) : Except Fault Gauge :=
  Gauge.create "Team / available lanes" .green (shareText s.lastTeamSize s.availableLanes)
    (teamPercent s)

/-- The gauge of the blocks. -/
def blocksGauge (s : Snapshot) : Except Fault Gauge :=
  Gauge.create "Blocks" .blue (shareText s.blocksExecuted s.blocksTotal) (blocksPercent s)

/-- A line with a label and a value. -/
def statLine (label value : String) : Line := [.colored label .darkGray, ⟨value, {}⟩]

/-- Three dimensions in brackets. -/
def extentText (v : Vector UInt32 3) : String :=
  s!"({v[0].toNat},{v[1].toNat},{v[2].toNat})"

/-- The most barrier arrivals a lane has. -/
def barrierPhases (s : Snapshot) : UInt64 := s.barrierArrivals.foldl max 0

/-- The totals. -/
def statLines (s : Snapshot) : List Line :=
  [statLine "Regions:    " (toString s.regions.toNat),
    statLine "Activated:  " (toString s.activations.toNat),
    statLine "Serialized: " (toString s.serializedRegions.toNat),
    statLine "Convergent: " (toString s.convergentTeams.toNat),
    statLine "Barriers:   " (toString (barrierPhases s).toNat),
    [.colored "Limiter:    " .darkGray, .colored s.lastLimiter .yellow],
    [],
    statLine "Grid:   " (extentText s.grid),
    statLine "Block:  " (extentText s.block)]

/-- What is shown without a snapshot. -/
def emptyLines : List Line :=
  [[], [.colored "  No launch running." .darkGray],
    [.colored "  Start simtomp to see live data." .darkGray]]

/-- The inside of the panel: two rows a gauge with a blank row behind each, then the totals. -/
def gaugesAbove (team blocks : Gauge) (lines : List Line) (width height : Nat) : Grid :=
  fitHeight width height <|
    team.grid width ++ blankGrid width 1 ++ blocks.grid width ++ blankGrid width 1 ++
      paragraph lines width (height - 6)

/-- The panel. It faults where more blocks are done than there are, by a percent or more. -/
def stats (snapshot : Option Snapshot) (width height : Nat) : Except Fault Grid := do
  let panel := bordered [⟨" Stats ", {}⟩]
  match snapshot with
  | none => return panel (paragraph emptyLines) width height
  | some s =>
    let team ← teamGauge s
    let blocks ← blocksGauge s
    return panel (gaugesAbove team blocks (statLines s)) width height

end RegionDispatch.Dashboard
