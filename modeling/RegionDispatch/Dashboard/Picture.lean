import RegionDispatch.Dashboard.Header
import RegionDispatch.Dashboard.Lanes
import RegionDispatch.Dashboard.Stats
import RegionDispatch.Json.Forms

/-!
# The dashboard

The whole picture: the header above, the footer below, and between them the lane map beside the
statistics.

* `readSnapshot` — the snapshot of a published text.
* `Part`, `draw` — one part of the dashboard, or all of it, on a screen.
-/

namespace RegionDispatch.Dashboard

open Screen

/-- The snapshot a published text holds, if there is a text and it can be read. -/
def readSnapshot (text : Option String) : Option Snapshot :=
  text.bind fun text => (Snapshot.codec.parse text).toOption

/-- Rows of the footer on a screen. -/
def footerHeight (height : Nat) : Nat := min 1 height

/-- Rows of the header. -/
def headerHeight (height : Nat) : Nat := min 3 (height - footerHeight height)

/-- Columns of the lane map: 62 percent, a half rounded up. -/
def lanesWidth (width : Nat) : Nat := (62 * width + 50) / 100

/-- The whole dashboard. -/
def picture (snapshot : Option Snapshot) (width height : Nat) : Except Fault Grid := do
  let middle := height - headerHeight height - footerHeight height
  let left := lanes snapshot (lanesWidth width) middle
  let right ← stats snapshot (width - lanesWidth width) middle
  return header snapshot width (headerHeight height) ++ beside left right ++
    footer width (footerHeight height)

/-- What can be drawn. -/
inductive Part where
  /-- The whole dashboard. -/
  | all
  /-- The header. -/
  | header
  /-- The lane map. -/
  | lanes
  /-- The statistics. -/
  | stats
  /-- The footer. -/
  | footer
  deriving DecidableEq, Repr

/-- Draws a part on a screen of its own. -/
def draw (part : Part) (snapshot : Option Snapshot) (width height : Nat) : Except Fault Grid :=
  match part with
  | .all => picture snapshot width height
  | .header => .ok (header snapshot width height)
  | .lanes => .ok (lanes snapshot width height)
  | .stats => stats snapshot width height
  | .footer => .ok (footer width height)

end RegionDispatch.Dashboard
