import RegionDispatch.Fault
import RegionDispatch.Number.Binary
import RegionDispatch.Screen.Grid

/-!
# Gauges

A gauge shows a share of a whole: a title, and a bar below it that is filled up to the share, with a
label across its middle. Shares are whole percents. They are computed in single precision and the
filled columns in double precision, each step rounded to the nearest number of that precision.

* `percentOf` — the percentage of a part.
* `Gauge`, `Gauge.create`, `Gauge.grid` — gauges.
-/

namespace RegionDispatch.Screen

/-- Binary digits of a number in single precision. -/
def singleDigits : Nat := 24

/-- Binary digits of a number in double precision. -/
def doubleDigits : Nat := 53

/-- The whole percents that `part` is of `total`, rounded down; no percents of nothing. -/
def percentOf (part total : Nat) : Nat :=
  if total = 0 then 0
  else
    let share := ((Quotient.ofNat part).round singleDigits).div
      ((Quotient.ofNat total).round singleDigits) |>.round singleDigits
    ((share.mul (.ofNat 100)).round singleDigits).floor

/-- A gauge. -/
structure Gauge where
  /-- What stands above the bar. -/
  title : String
  /-- The colour of the bar. -/
  color : Color
  /-- What stands in the bar. -/
  label : String
  /-- The filled part in percents, at most 100. -/
  percent : Nat
  deriving DecidableEq, Repr

namespace Gauge

/-- A gauge; one of more than the whole faults. -/
def create (title : String) (color : Color) (label : String) (percent : Nat) :
    Except Fault Gauge :=
  if percent ≤ 100 then .ok ⟨title, color, label, percent⟩ else .error .percentRange

/-- How many of `width` columns are filled, a half being filled. -/
def filled (gauge : Gauge) (width : Nat) : Nat :=
  let ratio := (Quotient.mk gauge.percent 100).round doubleDigits
  (((Quotient.ofNat width).mul ratio).round doubleDigits).nearest

/-- The bar. A filled column is a full block, but where the label stands, and on the column behind
it, the colours are exchanged instead. -/
def bar (gauge : Gauge) (width : Nat) : List Cell :=
  let label := gauge.label.toList.take width
  let start := (width - label.length) / 2
  let filled := gauge.filled width
  (List.range width).map fun x =>
    let covered := start ≤ x && x ≤ start + label.length
    let style : Style :=
      if x < filled && covered then { background := gauge.color }
      else { foreground := gauge.color }
    let empty := if x < filled && !covered then '█' else ' '
    let symbol := if start ≤ x then label.getD (x - start) empty else empty
    .ofChar symbol style

/-- A gauge in two rows. -/
def grid (gauge : Gauge) (width : Nat) : Grid :=
  [Line.cells [⟨gauge.title, {}⟩] width Cell.blank, gauge.bar width]

end Gauge

end RegionDispatch.Screen
