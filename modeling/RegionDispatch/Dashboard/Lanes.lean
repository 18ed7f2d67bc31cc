import RegionDispatch.Metrics.Snapshot
import RegionDispatch.Screen.Grid

/-!
# The lane map

The lanes of the last region, one row a warp and one cell a lane. An idle lane that no region can
use, because it belongs to the warp of the master, is shown as such.

The lanes of a snapshot are assumed to be fewer than 2 ^ 32, so that the number of each is a 32-bit
word, as the count of lanes that regions can use is.

* `LaneRole`, `laneRole` — what a lane did.
* `warpRows` — the lanes row by row.
* `laneLines`, `lanes` — the lane map.
-/

namespace RegionDispatch.Dashboard

open Screen

/-- What a lane did in the last region. -/
inductive LaneRole where
  /-- It belonged to the team. -/
  | active
  /-- It did nothing, as a lane of the master's warp. -/
  | masterWarp
  /-- It did nothing. -/
  | idle
  deriving DecidableEq, Repr

/-- The cell of a role. -/
def LaneRole.span : LaneRole → Span
  | active => .colored "█" .green
  | masterWarp => .colored "▒" .magenta
  | idle => .colored "░" .darkGray

/-- What a lane did: only generic blocks have a master, whose warp begins behind the lanes that
regions can use. -/
def laneRole (s : Snapshot) (lane : Nat) (ran : Bool) : LaneRole :=
  if ran then .active
  else if s.mode = "generic" && s.availableLanes.toNat ≤ lane then .masterWarp
  else .idle

/-- Lanes of one row. -/
def rowWidth (s : Snapshot) : Nat := max s.groupWidth.toNat 1

/-- The roles of all lanes, in order. -/
def roles (s : Snapshot) : List LaneRole := s.laneActive.mapIdx (laneRole s)

/-- A list cut into rows of `width` items, the last of them perhaps shorter. -/
def rowsOf {α : Type} (width : Nat) (items : List α) : List (List α) :=
  let items := items.toArray
  (List.range ((items.size + width - 1) / width)).map fun row =>
    (items.extract (row * width) (row * width + width)).toList

/-- The roles of the lanes, warp by warp. -/
def warpRows (s : Snapshot) : List (List LaneRole) := rowsOf (rowWidth s) (roles s)

/-- A number with blanks behind it, three columns wide at least. -/
def padNumber (n : Nat) : String :=
  let text := toString n
  text ++ String.ofList (List.replicate (3 - text.length) ' ')

/-- The line of a warp. -/
def warpLine (warp : Nat) (row : List LaneRole) : Line :=
  .colored s!"  w{padNumber warp} " .darkGray :: row.map LaneRole.span

/-- The line that explains the cells. -/
def legend : Line :=
  [LaneRole.span .active, ⟨" active  ", {}⟩, LaneRole.span .idle, ⟨" idle  ", {}⟩,
    LaneRole.span .masterWarp, ⟨" master warp", {}⟩]

/-- The line that counts the lanes of the team. -/
def teamLine (s : Snapshot) : Line :=
  [.colored s!"  {s.laneActive.count true}/{s.laneActive.length} lanes in team" .darkGray]

/-- The lines of the lane map. -/
def laneLines (s : Snapshot) : List Line :=
  legend :: [] :: ((warpRows s).mapIdx warpLine ++ [[], teamLine s])

/-- The lane map; without a snapshot it is empty. -/
def lanes (snapshot : Option Snapshot) : Nat → Nat → Grid :=
  bordered [⟨" Lanes (last region) ", {}⟩] (paragraph (snapshot.elim [] laneLines))

end RegionDispatch.Dashboard
