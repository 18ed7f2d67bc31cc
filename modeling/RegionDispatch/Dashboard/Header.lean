import RegionDispatch.Metrics.Snapshot
import RegionDispatch.Screen.Grid
import RegionDispatch.Text.Upper

/-!
# Header and footer

The header names the kernel, the architecture, the mode and the status of the launch; the footer
says how to leave and where the snapshots come from.

* `headerLine`, `header` — the header.
* `footerLine`, `footer` — the footer.
-/

namespace RegionDispatch.Dashboard

open Screen

/-- Where snapshots are published. -/
def snapshotPath : String := "/tmp/simtomp_live.json"

/-- The colour of a status. -/
def statusColor (status : String) : Color :=
  if status = "running" then .green
  else if status = "complete" then .cyan
  else .darkGray

/-- The line of the header. -/
def headerLine (kernelName arch mode status : String) : Line :=
  [.colored "  kernel: " .darkGray, .strong kernelName .yellow,
    .colored "   arch: " .darkGray, .colored arch .cyan,
    .colored "   mode: " .darkGray, .colored mode .cyan,
    .colored "   status: " .darkGray, .strong (Text.upper status) (statusColor status)]

/-- The title of the dashboard. -/
def titleLine : Line := [.strong " ⚡ simtomp live monitor " .cyan]

/-- The header; without a snapshot there is nothing to name. -/
def header (snapshot : Option Snapshot) : Nat → Nat → Grid :=
  let line := match snapshot with
    | some s => headerLine s.kernelName s.arch s.mode s.status
    | none => headerLine "—" "—" "—" "idle"
  bordered titleLine (paragraph [line])

/-- The line of the footer. -/
def footerLine : Line :=
  [.colored ("  q / esc: quit    auto-refreshes every 200ms    reads " ++ snapshotPath) .darkGray]

/-- The footer. -/
def footer : Nat → Nat → Grid := paragraph [footerLine]

end RegionDispatch.Dashboard
