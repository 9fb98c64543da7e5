import LogBrowser.View.Filtered
import LogBrowser.Text.Find
import LogBrowser.Display.Paragraph
import LogBrowser.Viewer.Theme

/-!
# Drawing a filtered view

A filtered view is drawn as its header, its content rows and its position footer.

* A header of one row is the top header, a space and the filter label, the label styled by its
  state and its suffix set apart; a header wrapped over several rows is drawn in the header style.
* Without any rows at all, the placeholder text follows the header and nothing else is drawn.
* Each content row is drawn in the row style (selected, selected while typing, or plain), with
  every occurrence of the highlighted text in that row laid over in the highlight style. Rows are
  highlighted after wrapping and panning, so an occurrence cut by a row end is not marked.
* The footer is dim when the view does not have focus.

While the query is typed, the cursor stands in the header at the query's cursor, kept inside the
area.
-/

namespace LogBrowser

open LogBrowser.Display

namespace FilteredView

variable {α : Type} [Record α] [BEq α]

/-- The one-row header: top header and filter label. -/
def headerLine (fv : FilteredView α) (t : Theme) : Line :=
  let label := fv.filter.label
  let labelStyle := match label.state with
    | .idle => t.filterIdle
    | .editing => t.filterEditing
    | .applied => t.filterApplied
  let spans : List Span :=
    [{ text := fv.topHeader, style := t.header }, { text := " " },
      { text := label.labelPrefix ++ label.text, style := labelStyle }]
  let suffix : List Span :=
    if label.suffix.isEmpty then [] else [{ text := " " }, { text := label.suffix, style := t.filterSuffix }]
  { spans := spans ++ suffix }

/-- The style of the rows of an item. -/
def rowStyle (fv : FilteredView α) (t : Theme) (item : Nat) : Style :=
  if !fv.surface.isSelected item then t.text
  else match fv.surface.selectionStyle with
    | .applied => t.selected
    | .editing => t.selectedEditing

end FilteredView

/-- A row cut at each occurrence of a needle, the occurrences in the base style overlaid with the
highlight. -/
def highlightedLine (text needle : String) (base highlight : Style) : Line :=
  { spans := (Text.markOccurrences text.toList needle.toList).map fun (cs, marked) =>
      { text := String.ofList cs, style := if marked then base.patch highlight else base } }

namespace FilteredView

variable {α : Type} [Record α] [BEq α]

/-- The lines of a view, top to bottom. -/
def lines (fv : FilteredView α) (t : Theme) : List Line :=
  let v := fv.surface
  let header := match v.headerLines with
    | [_] => [fv.headerLine t]
    | rows => rows.map fun h => Line.styled h t.header
  match fv.placeholder with
  | some p => header ++ [Line.styled p t.placeholder]
  | none =>
    let rows := v.visibleLines.map fun l =>
      highlightedLine l.text v.highlight (fv.rowStyle t l.item) t.highlight
    let footer := match v.footer with
      | some f => [Line.styled f (if v.focused then t.footer else t.footerUnfocused)]
      | none => []
    header ++ rows ++ footer

/-- The column of the cursor in an area `width` columns wide, while the query is typed. -/
def cursorColumn (fv : FilteredView α) (width : Nat) : Option Nat :=
  if fv.placeholder.isSome || !fv.isCapturingInput then none
  else
    let label := fv.filter.label
    some (min (Text.width fv.topHeader + 1 + Text.width label.labelPrefix + fv.filter.cursor) (width - 1))

/-- The view drawn into an area: its rows, and the cursor column if the cursor is shown. Nothing
is drawn into an empty area. -/
def draw (fv : FilteredView α) (t : Theme) (width height : Nat) : List (List Cell) × Option Nat :=
  if width = 0 || height = 0 then (List.replicate height (blankRow width), none)
  else (paragraph width height (fv.lines t), fv.cursorColumn width)

omit [BEq α] in
/-- A drawn view has one row for each row of its area. -/
theorem length_draw (fv : FilteredView α) (t : Theme) (width height : Nat) :
    (fv.draw t width height).1.length = height := by
  unfold draw
  split
  · simp
  · exact length_paragraph width height (fv.lines t)

end FilteredView

end LogBrowser
