import LogBrowser.Display.Style
import LogBrowser.Text.Grapheme
import LogBrowser.Text.Width

/-!
# Cells, lines and paragraphs

A screen is a grid of cells, each holding one grapheme and its look. Text to draw is a `Line` of
`Span`s, each span a run of text with its style; the line's own style lies under all of its spans.

`Line.render` draws a line into a row `width` columns wide, from the left, without wrapping:

* the line is cut into graphemes span by span; a grapheme holding a control character (a line
  feed, a tab, an escape) is dropped;
* a grapheme wider than the whole row is skipped, and the row ends at the first grapheme that
  does not fit in the columns left;
* a grapheme of width zero takes no cell;
* a grapheme `w` columns wide takes its cell and leaves the `w - 1` cells after it blank; a
  halfwidth katakana sound mark inside a grapheme is drawn one column wider than it measures;
* the columns after the text are blank.

`paragraph` draws lines into an area, one row each, as many as fit, blank rows below.
-/

namespace LogBrowser.Display

/-- A terminal cell: the grapheme drawn there and its look. -/
structure Cell where
  symbol : String := " "
  style : CellStyle := {}
  deriving DecidableEq, Repr

/-- An empty cell in the terminal's own colours. -/
def Cell.blank : Cell := {}

/-- A run of text in one style. -/
structure Span where
  text : String
  style : Style := {}
  deriving Repr

/-- A line of spans with a style under all of them. -/
structure Line where
  spans : List Span
  style : Style := {}
  deriving Repr

/-- A line of one unstyled span over a line style. -/
def Line.styled (text : String) (style : Style) : Line := { spans := [{ text := text }], style := style }

/-- The graphemes of a line, each with the line's style overlaid by its span's; graphemes holding
a control character are not drawn. -/
def Line.graphemes (l : Line) : List (String × Style) :=
  l.spans.flatMap fun sp =>
    ((Text.graphemes sp.text).filter fun g => !g.any Text.isControl).map fun g =>
      (g, l.style.patch sp.style)

/-- The halfwidth katakana sound marks U+FF9E and U+FF9F. -/
def isHalfwidthSoundMark (c : Char) : Bool :=
  c.toNat = 0xFF9E || c.toNat = 0xFF9F

/-- The columns a grapheme takes when drawn: its width, and one more for each halfwidth sound
mark that follows the grapheme's first character. -/
def drawnWidth (g : String) : Nat :=
  Text.width g + (g.toList.drop 1).countP isHalfwidthSoundMark

/-- The cells of graphemes placed from the left with `room` columns left in a row `total`
columns wide. -/
def placeCells (total : Nat) : Nat → List (String × Style) → List Cell
  | _, [] => []
  | room, (g, s) :: rest =>
    if total < drawnWidth g then placeCells total room rest
    else if room < drawnWidth g then []
    else if drawnWidth g = 0 then placeCells total room rest
    else { symbol := g, style := CellStyle.apply {} s } ::
      (List.replicate (drawnWidth g - 1) Cell.blank ++ placeCells total (room - drawnWidth g) rest)

theorem length_placeCells_le (total : Nat) :
    ∀ (room : Nat) (gs : List (String × Style)), (placeCells total room gs).length ≤ room
  | _, [] => by simp [placeCells]
  | room, (g, s) :: rest => by
    have ih1 := length_placeCells_le total room rest
    have ih2 := length_placeCells_le total (room - drawnWidth g) rest
    unfold placeCells
    split
    · exact ih1
    · split
      · simp
      · split
        · exact ih1
        · simp only [List.length_cons, List.length_append, List.length_replicate]
          omega

/-- A line drawn into a row `width` columns wide. -/
def Line.render (l : Line) (width : Nat) : List Cell :=
  let cells := placeCells width width l.graphemes
  cells ++ List.replicate (width - cells.length) Cell.blank

/-- A drawn row is exactly as wide as asked. -/
theorem Line.length_render (l : Line) (width : Nat) : (l.render width).length = width := by
  have h := length_placeCells_le width width l.graphemes
  simp only [Line.render, List.length_append, List.length_replicate]
  omega

/-- A row of blank cells. -/
def blankRow (width : Nat) : List Cell := List.replicate width Cell.blank

/-- Lines drawn into an area `width` columns wide and `height` rows high: one row for each line
that fits, blank rows below. -/
def paragraph (width height : Nat) (lines : List Line) : List (List Cell) :=
  let rows := (lines.take height).map (·.render width)
  rows ++ List.replicate (height - rows.length) (blankRow width)

theorem length_paragraph (width height : Nat) (lines : List Line) :
    (paragraph width height lines).length = height := by
  simp only [paragraph, List.length_append, List.length_map, List.length_take, List.length_replicate]
  omega

/-- The text of a row: its symbols one after another. -/
def rowText (row : List Cell) : String :=
  String.join (row.map (·.symbol))

/-- A row as runs of cells of one look: where each run starts, how long it is, and the look. -/
def styleRuns (row : List Cell) : List (Nat × Nat × CellStyle) :=
  (row.foldl (fun (runs : List (Nat × Nat × CellStyle)) c =>
    match runs with
    | (x, n, s) :: rest => if s = c.style then (x, n + 1, s) :: rest else (x + n, 1, c.style) :: runs
    | [] => [(0, 1, c.style)]) []).reverse

end LogBrowser.Display
