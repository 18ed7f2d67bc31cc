import RegionDispatch.Arch
import RegionDispatch.Json.Record
import RegionDispatch.LaneMask
import RegionDispatch.Launch.Config
import RegionDispatch.Metrics.Snapshot

/-!
# JSON forms

The JSON forms of the values that are exchanged: launch configurations, architectures, modes, masks
and live snapshots.

* `Extent.codec`, `Arch.codec`, `LaunchConfig.codec`, `Snapshot.codec` — records.
* `ExecMode.codec` — a mode by its name.
* `LaneMask.codec` — a mask by its word.
-/

namespace RegionDispatch

open Json

namespace Extent

/-- The fields of an extent. -/
def fields : List Field :=
  [.required "x" .word32, .required "y" .word32, .required "z" .word32]

/-- An extent, by its three dimensions. -/
def codec : Codec Extent :=
  (Codec.record fields).map (fun (x, y, z, ()) => ⟨x, y, z⟩) fun e => (e.x, e.y, e.z, ())

end Extent

namespace Arch

/-- The fields of an architecture. -/
def fields : List Field :=
  [.required "name" .string, .required "simd_width" .word32,
    .required "full_group_activation" .flag]

/-- An architecture. -/
def codec : Codec Arch :=
  (Codec.record fields).map (fun (name, width, whole, ()) => ⟨name, width, whole⟩)
    fun arch => (arch.name, arch.groupWidth, arch.wholeGroups, ())

end Arch

namespace LaunchConfig

/-- The fields of a launch configuration. -/
def fields : List Field :=
  [.required "grid_dim" Extent.codec, .required "block_dim" Extent.codec,
    .optional "runtime_initialized" .flag true, .optional "thread_limit" .word32 0]

/-- A launch configuration. -/
def codec : Codec LaunchConfig :=
  (Codec.record fields).map (fun (grid, block, full, limit, ()) => ⟨grid, block, full, limit⟩)
    fun config => (config.grid, config.block, config.fullRuntime, config.threadLimit, ())

end LaunchConfig

namespace ExecMode

/-- The name a mode is exchanged under. -/
def tag : ExecMode → String
  | .generic => "Generic"
  | .spmd => "Spmd"

/-- The mode of a name; a name that no mode has is a mismatch. -/
def ofTag (name : String) : Except ReadError ExecMode :=
  if name = "Generic" then .ok .generic
  else if name = "Spmd" then .ok .spmd
  else .error .mismatch

/-- Passes over the word `null`. -/
def readNull (text : List Char) : Except ReadError (List Char) :=
  match skipBlank text with
  | 'n' :: rest => readWord ['u', 'l', 'l'] rest
  | rest => .error (wrongKind rest)

/-- A mode: its name, or an object with its name as the only key and no value. -/
def read : Reader ExecMode := fun text =>
  match skipBlank text with
  | [] => .error .truncated
  | '"' :: rest => do
    let (name, rest) ← readString rest
    return (← ofTag name, rest)
  | '{' :: rest => do
    let (name, rest) ← readQuoted rest
    let mode ← ofTag name
    let rest ← readNull (← readColon rest)
    match skipBlank rest with
    | [] => throw .truncated
    | '}' :: rest => return (mode, rest)
    | _ => throw .malformed
  | _ => .error .malformed

/-- A mode, by its name. -/
def codec : Codec ExecMode where
  read := read
  write mode := writeText mode.tag

end ExecMode

/-- A mask, by the value of its word. -/
def LaneMask.codec : Codec LaneMask :=
  Codec.word64.map (fun word => ⟨word.toBitVec⟩) fun mask => ⟨mask.bits⟩

namespace Snapshot

/-- The fields of a live snapshot. -/
def fields : List Field :=
  [.required "status" .string, .required "kernel_name" .string, .required "arch" .string,
    .required "mode" .string, .required "grid" (.triple .word32),
    .required "block" (.triple .word32), .required "blocks_total" .word32,
    .required "blocks_executed" .word32, .required "simd_width" .word32,
    .required "available_lanes" .word32, .required "regions" .word32,
    .required "activations" .word32, .required "serialized_regions" .word32,
    .required "convergent_teams" .word32, .required "last_team_size" .word32,
    .required "last_limiter" .string, .required "lane_active" (.list .flag),
    .optional "barrier_arrivals" (.list .word64) [], .required "timestamp_ms" .word64]

/-- The snapshot with the given field values. -/
def ofRecord : Record fields → Snapshot
  | (status, kernelName, arch, mode, grid, block, blocksTotal, blocksExecuted, groupWidth,
      availableLanes, regions, activations, serializedRegions, convergentTeams, lastTeamSize,
      lastLimiter, laneActive, barrierArrivals, timestampMs, ()) =>
    { status, kernelName, arch, mode, grid, block, blocksTotal, blocksExecuted, groupWidth,
      availableLanes, regions, activations, serializedRegions, convergentTeams, lastTeamSize,
      lastLimiter, laneActive, barrierArrivals, timestampMs }

/-- The field values of a snapshot. -/
def toRecord (s : Snapshot) : Record fields :=
  (s.status, s.kernelName, s.arch, s.mode, s.grid, s.block, s.blocksTotal, s.blocksExecuted,
    s.groupWidth, s.availableLanes, s.regions, s.activations, s.serializedRegions,
    s.convergentTeams, s.lastTeamSize, s.lastLimiter, s.laneActive, s.barrierArrivals,
    s.timestampMs, ())

@[simp] theorem ofRecord_toRecord (s : Snapshot) : ofRecord s.toRecord = s := rfl

/-- A live snapshot. -/
def codec : Codec Snapshot := (Codec.record fields).map ofRecord toRecord

end Snapshot

end RegionDispatch
