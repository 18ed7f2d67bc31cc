/-!
# Live snapshots

What a running launch publishes after every block for the dashboard.
-/

namespace RegionDispatch

/-- The state of a launch after one of its blocks. -/
structure Snapshot where
  /-- `idle`, `running` or `complete`. -/
  status : String
  /-- Name of the kernel. -/
  kernelName : String
  /-- Name of the architecture. -/
  arch : String
  /-- Name of the mode. -/
  mode : String
  /-- The three dimensions of the grid. -/
  grid : Vector UInt32 3
  /-- The three dimensions of a block. -/
  block : Vector UInt32 3
  /-- Blocks of the launch. -/
  blocksTotal : UInt32
  /-- Blocks that are done. -/
  blocksExecuted : UInt32
  /-- Lanes of one SIMD group. -/
  groupWidth : UInt32
  /-- Lanes a parallel region can use. -/
  availableLanes : UInt32
  /-- First-level regions so far. -/
  regions : UInt32
  /-- Activations so far. -/
  activations : UInt32
  /-- Serialized regions so far. -/
  serializedRegions : UInt32
  /-- Convergent teams so far. -/
  convergentTeams : UInt32
  /-- Team size of the last region of the last block. -/
  lastTeamSize : UInt32
  /-- The bound that determined it. -/
  lastLimiter : String
  /-- Whether each hardware lane ran the last region. -/
  laneActive : List Bool
  /-- Barrier arrivals of each hardware lane in the last block. -/
  barrierArrivals : List UInt64
  /-- When the snapshot was written, in milliseconds. -/
  timestampMs : UInt64
  deriving DecidableEq

end RegionDispatch
