import LogBrowser.View.Record
import LogBrowser.Text.Wrap
import LogBrowser.Text.Columns

/-!
# The viewport

A window of fixed width and height over a list of items, under a header. With wrapping each item
takes the rows `Text.wrap` gives it; without, one row, panned horizontally. The scroll position
is the top item and the number of its rows scrolled out of view (`topItem`, `topOffset`).

This module computes what the window shows: the header rows that fit, the content rows from the
scroll position on, and a footer such as `40% (4/10)`. The footer appears once the view is
scrolled, or when the content fills the window or comes within a row of filling it; it then
takes the last row. From these the scroll limits follow: `maxTop` is the highest position that
still fills the window from the bottom.
-/

namespace LogBrowser

/-- How the selected row is drawn: as applied, or while a query is typed. -/
inductive SelectionStyle where
  | applied
  | editing
  deriving DecidableEq, Repr

/-- A content row of the window and the item it belongs to. -/
structure VisibleLine where
  item : Nat
  text : String
  deriving DecidableEq, Repr

/-- A scrollable, selectable window over a list of items. -/
structure Viewport (α : Type) where
  items : Array α := #[]
  header : List String := []
  width : Nat
  height : Nat
  selectionEnabled : Bool := false
  wrap : Bool := false
  highlight : String := ""
  topSticky : Bool := false
  bottomSticky : Bool := false
  maintainSelection : Bool := false
  selected : Nat := 0
  topItem : Nat := 0
  topOffset : Nat := 0
  xOffset : Nat := 0
  selectionStyle : SelectionStyle := .applied
  focused : Bool := false

namespace Viewport

variable {α : Type} [Record α]

/-- An empty window of the given size. -/
def new (width height : Nat) : Viewport α := { width := width, height := height }

/-- The header rows that fit; the header comes before any content. -/
def headerLines (v : Viewport α) : List String :=
  if v.height = 0 then []
  else
    let rows := if v.wrap then v.header.flatMap (Text.wrap · v.width) else v.header
    rows.take v.height

/-- The rows of an item: wrapped, or the whole text as one row. -/
def itemLines (v : Viewport α) (it : α) : List String :=
  if v.width = 0 then []
  else if v.wrap then Text.wrap (Record.render it) v.width
  else [Record.render it]

/-- The number of rows of the item at `idx`; none past the end. -/
def numLinesFor (v : Viewport α) (idx : Nat) : Nat :=
  if v.width = 0 then 0
  else match v.items[idx]? with
    | none => 0
    | some it => if v.wrap then (Text.wrap (Record.render it) v.width).length else 1

/-- The rows of the items from `idx` on, less the first `skip` rows, until `room` rows are
taken; `fuel` bounds the number of items visited. -/
def rowsFrom (v : Viewport α) : Nat → Nat → Nat → Nat → List VisibleLine
  | 0, _, _, _ => []
  | fuel + 1, idx, skip, room =>
    if room = 0 then []
    else match v.items[idx]? with
      | none => []
      | some it =>
        let rows := ((v.itemLines it).drop skip).take room
        rows.map (fun t => { item := idx, text := t }) ++ v.rowsFrom fuel (idx + 1) 0 (room - rows.length)

/-- The rows left for content below the header. -/
def afterHeader (v : Viewport α) : Nat := v.height - v.headerLines.length

/-- The content rows from the scroll position and whether a footer is shown. The footer shows
once scrolled, or when the content reaches within one row of the bottom. -/
def visibleContent (v : Viewport α) : List VisibleLine × Bool :=
  if v.width = 0 || v.items.isEmpty then ([], false)
  else
    let room := v.afterHeader
    if room = 0 then ([], false)
    else
      let rows := v.rowsFrom v.items.size (min v.topItem (v.items.size - 1)) v.topOffset room
      let atTop := v.topItem = 0 && v.topOffset = 0
      let showFooter := !atTop || room ≤ rows.length + 1
      if showFooter then (rows.take (room - 1), true) else (rows, false)

/-- The content rows as drawn: wrapped, or panned to the horizontal offset. -/
def visibleLines (v : Viewport α) : List VisibleLine :=
  if v.wrap then v.visibleContent.1
  else v.visibleContent.1.map fun l => { l with text := Text.pan l.text v.xOffset v.width }

/-- The rows between header and footer that content may use. -/
def numContentLines (v : Viewport α) : Nat :=
  if v.visibleContent.2 then v.afterHeader - 1 else v.afterHeader

/-- The number of items with a row in view. -/
def numVisibleItems (v : Viewport α) : Nat :=
  if !v.wrap then v.numContentLines
  else ((v.visibleContent.1.map (·.item)).eraseDups).length

/-- Climbs from item `top` while `remaining` rows are still to fill above the bottom item. -/
def climb (v : Viewport α) : Nat → Nat → Nat × Nat
  | 0, _ => (0, 0)
  | top + 1, remaining =>
    let lines := v.numLinesFor top
    if remaining ≤ lines then (top, lines - remaining) else v.climb top (remaining - lines)

/-- The lowest scroll position: the one whose window ends with the last row of the last item. -/
def maxTop (v : Viewport α) : Nat × Nat :=
  let n := v.items.size
  if n = 0 then (0, 0)
  else
    let content := v.numContentLines
    if !v.wrap then (n - content, 0)
    else
      let lastLines := v.numLinesFor (n - 1)
      if content ≤ lastLines then (n - 1, lastLines - content)
      else v.climb (n - 1) (content - lastLines)

/-- Whether the view is at or past its lowest scroll position. -/
def isScrolledToBottom (v : Viewport α) : Bool :=
  let (mi, mo) := v.maxTop
  mi < v.topItem || (v.topItem = mi && mo ≤ v.topOffset)

/-- The percentage footer: the selected item, or without selection the last item in view. An
unfinished last item under wrapping reads `99%`. -/
def footer (v : Viewport α) : Option String :=
  let (rows, shown) := v.visibleContent
  if !shown then none
  else match rows.getLast? with
    | none => none
    | some last =>
      let denominator := v.items.size
      let numerator := if v.selectionEnabled then v.selected + 1 else last.item + 1
      let fraction := " (" ++ toString numerator ++ "/" ++ toString denominator ++ ")"
      if !v.selectionEnabled && v.wrap && numerator = denominator && !v.isScrolledToBottom then
        some ("99%" ++ fraction)
      else some (toString (numerator * 100 / max denominator 1) ++ "%" ++ fraction)

/-- The widest header or content row, in columns, before panning. -/
def maxLineWidth (v : Viewport α) : Nat :=
  ((v.headerLines.map Text.width) ++ (v.visibleContent.1.map fun l => Text.width l.text)).foldl max 0

/-- Whether the item at `idx` is drawn as the selection. -/
def isSelected (v : Viewport α) (idx : Nat) : Bool := v.selectionEnabled && idx = v.selected

/-- The selected index, or zero without selection. -/
def selectedIndex (v : Viewport α) : Nat := if v.selectionEnabled then v.selected else 0

/-- The selected item, if selection is on and the index holds one. -/
def selectedItem (v : Viewport α) : Option α := if v.selectionEnabled then v.items[v.selected]? else none

omit [Record α] in
theorem headerLines_length_le (v : Viewport α) : v.headerLines.length ≤ v.height := by
  unfold headerLines
  split
  · simp
  · exact List.length_take_le _ _

end Viewport

end LogBrowser
