import RegionDispatch.Text.Width

/-!
# Cells and lines

A screen is made of cells, each with a symbol, two colours and a weight. A line of text is laid
into a row of cells, cluster by cluster: a cluster of two columns is followed by a blank cell, one
of none is left out, and the line is cut where a cluster no longer fits.

* `Color`, `Style`, `Cell` — cells.
* `Span`, `Line` — styled text.
* `Line.cells` — the row a line is laid into.
-/

namespace RegionDispatch.Screen

open Text

/-- A colour of a cell. -/
inductive Color where
  /-- The screen's own. -/
  | default
  /-- Green. -/
  | green
  /-- Yellow. -/
  | yellow
  /-- Blue. -/
  | blue
  /-- Magenta. -/
  | magenta
  /-- Cyan. -/
  | cyan
  /-- Dark gray. -/
  | darkGray
  deriving DecidableEq, Repr

/-- How a cell looks apart from its symbol. -/
structure Style where
  /-- Colour of the symbol. -/
  foreground : Color := .default
  /-- Colour behind it. -/
  background : Color := .default
  /-- Whether the symbol is bold. -/
  bold : Bool := false
  deriving DecidableEq, Repr

/-- One cell. -/
structure Cell where
  /-- What it shows: one cluster. -/
  symbol : List Char
  /-- How it looks. -/
  style : Style := {}
  deriving DecidableEq, Repr

/-- An empty cell. -/
def Cell.blank : Cell := ⟨[' '], {}⟩

/-- A cell that shows one character. -/
def Cell.ofChar (c : Char) (style : Style) : Cell := ⟨[c], style⟩

/-- Text of one style. -/
structure Span where
  /-- The text. -/
  text : String
  /-- Its style. -/
  style : Style := {}
  deriving DecidableEq, Repr

/-- Text of one colour. -/
def Span.colored (text : String) (color : Color) : Span := ⟨text, { foreground := color }⟩

/-- Bold text of one colour. -/
def Span.strong (text : String) (color : Color) : Span :=
  ⟨text, { foreground := color, bold := true }⟩

/-- The clusters of a text with its style; line feeds are left out. -/
def Span.glyphs (span : Span) : List Cell :=
  ((clusters span.text.toList).filter (· ≠ ['\n'])).map (⟨·, span.style⟩)

/-- A line of text. -/
abbrev Line := List Span

namespace Line

/-- Lays clusters into cells while there is room: `room` columns are left of `width`. A cluster
wider than the whole row is left out. -/
def lay (width : Nat) : (room : Nat) → List Cell → List Cell
  | _, [] => []
  | room, glyph :: glyphs =>
    let columns := clusterWidth glyph.symbol
    if columns = 0 || width < columns then lay width room glyphs
    else if room < columns then []
    else glyph :: (List.replicate (columns - 1) Cell.blank ++ lay width (room - columns) glyphs)

/-- A row of `width` cells that starts with the line and ends with copies of `filler`. -/
def cells (line : Line) (width : Nat) (filler : Cell) : List Cell :=
  let shown := lay width width (line.flatMap Span.glyphs)
  shown ++ List.replicate (width - shown.length) filler

end Line

end RegionDispatch.Screen
