import RegionDispatch.Screen.Cell

/-!
# Grids

A picture is a grid of cells, its rows from top to bottom. Pictures are put together from smaller
ones: lines of text, a border around an inside, and grids side by side.

* `Grid`, `paragraph`, `beside` — grids, lines of text, two grids side by side.
* `bordered` — a border with a title.
* `rowText`, `styleRuns` — a row as text, and its runs of one style.
-/

namespace RegionDispatch.Screen

/-- A picture, row by row. -/
abbrev Grid := List (List Cell)

/-- The empty picture. -/
def blankGrid (width height : Nat) : Grid :=
  List.replicate height (List.replicate width Cell.blank)

/-- A grid brought to a height: rows too many are dropped, rows too few are blank. -/
def fitHeight (width height : Nat) (grid : Grid) : Grid :=
  grid.take height ++ blankGrid width (height - grid.length)

/-- Lines of text, one a row. -/
def paragraph (lines : List Line) (width height : Nat) : Grid :=
  fitHeight width height ((lines.take height).map (·.cells width Cell.blank))

/-- Two grids of one height side by side. -/
def beside (left right : Grid) : Grid := left.zipWith (· ++ ·) right

/-! ## Borders -/

/-- A cell of a border. -/
def Cell.border (c : Char) : Cell := .ofChar c {}

/-- A row between two cells, cut to a width. -/
def edged (left right : Char) (width : Nat) (middle : List Cell) : List Cell :=
  (.border left :: (middle ++ [.border right])).take width

/-- The width or height inside a border. -/
def insideOf (outer : Nat) : Nat := outer - 2

/-- A border around an inside that is given as a picture of any size; the title stands in the
border's first row. -/
def bordered (title : Line) (inside : Nat → Nat → Grid) (width height : Nat) : Grid :=
  let columns := insideOf width
  let top := edged '┌' '┐' width (title.cells columns (.border '─'))
  let bottom := edged '└' '┘' width (List.replicate columns (.border '─'))
  let rows := (inside columns (insideOf height)).map (edged '│' '│' width)
  (top :: (rows ++ [bottom])).take height

/-! ## Reading a grid -/

/-- The symbols of a row, without the blanks at its end. -/
def rowText (row : List Cell) : String :=
  String.ofList ((row.flatMap (·.symbol)).reverse.dropWhile (· = ' ')).reverse

/-- A run of neighbouring cells of one style. -/
structure StyleRun where
  /-- The first column. -/
  column : Nat
  /-- The number of cells. -/
  length : Nat
  /-- Their style. -/
  style : Style
  deriving DecidableEq, Repr

/-- The longest runs of one style in a row that starts at a column. -/
def styleRuns : (column : Nat) → List Cell → List StyleRun
  | _, [] => []
  | column, cell :: row =>
    match styleRuns (column + 1) row with
    | [] => [⟨column, 1, cell.style⟩]
    | run :: runs =>
      if run.style = cell.style then ⟨column, run.length + 1, run.style⟩ :: runs
      else ⟨column, 1, cell.style⟩ :: run :: runs

/-- The longest runs of one style other than the screen's own. -/
def coloredRuns (row : List Cell) : List StyleRun :=
  (styleRuns 0 row).filter fun run => decide (run.style ≠ {})

end RegionDispatch.Screen
