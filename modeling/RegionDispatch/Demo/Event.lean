import RegionDispatch.Kernel.Launch

/-!
# Events of a demonstration

What a demonstration tells while it runs. Most events go to the log; the two reports are printed in
any case.

* `Event`, `Event.text` — the events and their lines.
* `Event.isReport` — the events that are printed without a log too.
-/

namespace RegionDispatch.Demo

/-- Something a demonstration tells. -/
inductive Event where
  /-- The device is ready; the launch has so many blocks of so many threads. -/
  | ready (arch : Arch) (blocks threads : Nat)
  /-- A kernel is launched. -/
  | launching (kernel : String) (mode : ExecMode) (arch : Arch) (config : LaunchConfig)
  /-- The first thread of the first region looks at its team. -/
  | firstRegion (teamSize level : Nat)
  /-- A nested region looks at its team. -/
  | nestedRegion (teamSize level : Nat)
  /-- The master is done; the team sizes of its two regions. -/
  | masterFinished (first second : Nat)
  /-- The launch was refused. -/
  | refused (error : DispatchError)
  /-- The launch is done. -/
  | complete (kernel : String) (sums : LaunchTotals)
  /-- Report: the totals of the launch. -/
  | totals (sums : LaunchTotals)
  /-- A lane of a convergent team: the source's lane, its own, and the thread it runs as. -/
  | simdLane (source lane thread : Nat)
  /-- Report: how many convergent teams were formed over a mask. -/
  | teams (mask : LaneMask) (count : Nat)
  deriving DecidableEq

/-- An extent in brackets. -/
def extentText (e : Extent) : String :=
  s!"({e.x.toNat}, {e.y.toNat}, {e.z.toNat})"

/-- The line of a refusal. Only a missing runtime and a team without lanes are worth one. -/
def refusalText : DispatchError → Option String
  | .runtimeUninitialized => some "ERROR simtomp::parallel: expected an initialized runtime"
  | .invalidTeamSize size => some s!"ERROR simtomp::parallel: bad thread request team_size={size}"
  | _ => none

namespace Event

/-- The line of an event. -/
def text : Event → Option String
  | ready arch blocks threads =>
    some <| s!"INFO simtomp: initialized device arch={arch.name} simd_width={arch.width} " ++
      s!"blocks={blocks} threads_per_block={threads}"
  | launching kernel mode arch config =>
    some <| s!"INFO simtomp::executor: launching kernel kernel={kernel} mode={mode.text} " ++
      s!"arch={arch.name} grid={extentText config.grid} block={extentText config.block}"
  | firstRegion teamSize level =>
    some s!"INFO simtomp: first region num_threads={teamSize} level={level}"
  | nestedRegion teamSize level =>
    some s!"INFO simtomp: nested region runs serialized num_threads={teamSize} level={level}"
  | masterFinished first second =>
    some s!"INFO simtomp: master finished first={first} second={second}"
  | refused error => refusalText error
  | complete kernel sums =>
    some <| s!"INFO simtomp::executor: kernel complete kernel={kernel} blocks={sums.blocks} " ++
      s!"regions={sums.regions} activations={sums.activations}"
  | totals sums =>
    some <| s!"Stats: {sums.blocks} blocks | {sums.regions} regions | " ++
      s!"{sums.activations} activations | {sums.serialized} serialized | " ++
      s!"{sums.phases} barrier phases/block"
  | simdLane source lane thread =>
    some s!"INFO simtomp: simd lane source={source} lane={lane} thread={thread}"
  | teams mask count =>
    some s!"Convergent simd over lanes {mask.text} formed {count} sub-teams"

/-- Whether an event is printed without a log too. -/
def isReport : Event → Bool
  | totals _ => true
  | teams _ _ => true
  | _ => false

end Event

end RegionDispatch.Demo
