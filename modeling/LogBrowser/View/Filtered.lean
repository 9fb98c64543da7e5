import LogBrowser.View.Viewport.Update
import LogBrowser.Filter.Label

/-!
# Filtered views

A viewport over the rows that pass a filter, with the filter's label in the header. Rows pass
when the filter accepts their text.

A plain filter shows only the rows that pass. With context on, every row is shown and the rows
that pass become the filter's matches, through which `nextMatch` and `prevMatch` cycle, moving
the selection (or the scroll position) to each. While the query is typed, keys edit it; every
change of the query refreshes the rows, and with context on jumps to the first match.

`handle` answers each event with the effects a caller reacts to, and refreshes the header after
every event.
-/

namespace LogBrowser

/-- How a filtered view starts. -/
structure FilteredViewConfig (α : Type) where
  topHeader : String
  startWithContext : Bool := false
  canToggleContext : Bool := true
  startSelectionEnabled : Bool := true
  startWrap : Bool := false
  width : Nat
  height : Nat
  rows : Array α := #[]
  whenEmpty : String
  hints : FilterHints := {}

/-- A viewport over the rows that pass a filter. -/
structure FilteredView (α : Type) where
  filter : Filter
  surface : Viewport α
  allRows : Array α
  topHeader : String
  whenEmpty : String

namespace FilteredView

variable {α : Type} [Record α] [BEq α]

/-- The header: the top header, a space, and the filter label. -/
def header (fv : FilteredView α) : String :=
  fv.topHeader ++ " " ++ fv.filter.label.display

/-- Puts the current header into the viewport. -/
def updateHeader (fv : FilteredView α) : FilteredView α :=
  { fv with surface := fv.surface.setHeader [fv.header] }

/-- Whether a row passes the filter. -/
def passes (fv : FilteredView α) (row : α) : Bool := fv.filter.accepts (Record.render row)

/-- The indexes of the rows that pass the filter. -/
def matchingIndexes (fv : FilteredView α) : List Nat :=
  ((List.range fv.allRows.size).zip fv.allRows.toList).filterMap fun (i, r) =>
    if fv.passes r then some i else none

/-- Shows the rows for the current query: all rows with their matches marked in context mode,
the passing rows for a plain query, all rows without a query. -/
def updateVisibleRows (fv : FilteredView α) : FilteredView α :=
  if fv.filter.context && fv.filter.hasText then
    let f := fv.filter.setMatchingIndexes fv.matchingIndexes
    { fv with filter := f, surface := fv.surface.setContent fv.allRows }
  else if fv.filter.hasText then
    { fv with surface := fv.surface.setContent (fv.allRows.filter fv.passes) }
  else { fv with surface := fv.surface.setContent fv.allRows }

/-- Builds a view as configured. -/
def new (c : FilteredViewConfig α) : FilteredView α :=
  let filter := ((Filter.new c.hints).setContextEnabled c.startWithContext).setContextToggleAllowed
    c.canToggleContext
  let surface : Viewport α := Viewport.new c.width c.height
  let surface := ((surface.setDimensions c.width c.height).setSelectionEnabled
    c.startSelectionEnabled).setWrap c.startWrap
  let surface := surface.setSelectionStyle .applied
  let fv : FilteredView α :=
    { filter := filter, surface := surface, allRows := c.rows, topHeader := c.topHeader,
      whenEmpty := c.whenEmpty }
  fv.updateVisibleRows.updateHeader

/-- Moves to the item at `idx`: selects it when selection is on, else scrolls to it. -/
def scrollToItem (fv : FilteredView α) (idx : Nat) : FilteredView α :=
  { fv with surface := if fv.surface.selectionEnabled then fv.surface.setSelectedIndex idx
      else fv.surface.scrollToIndex idx }

/-- Forgets the query and shows all rows. -/
def clearFilter (fv : FilteredView α) : FilteredView α :=
  { fv with filter := fv.filter.blurAndClear,
            surface := (fv.surface.setHighlight "").setSelectionStyle .applied }.updateVisibleRows

/-- After the query changed: refresh the rows and, in context mode, go to the first match. -/
def afterQueryChange (fv : FilteredView α) : FilteredView α × List Effect :=
  let value := fv.filter.value
  let fv := { fv with surface := fv.surface.setHighlight value }.updateVisibleRows
  if fv.filter.context then
    let fv := { fv with filter := fv.filter.resetMatchCursor }
    let idx := fv.filter.currentMatchIndex
    let fv := fv.scrollToItem idx
    (fv, (if fv.filter.hasContextualMatches then [.matchFocused idx] else []) ++ [.filterChanged value])
  else (fv, [.filterChanged value])

/-- Edits the query with an event, if it is an edit; reports a change of the query. -/
def editQuery (fv : FilteredView α) (e : ViewEvent) : FilteredView α × List Effect :=
  let before := fv.filter.value
  let fv := match e with
    | .filterInput r => { fv with filter := fv.filter.edit r }
    | _ => fv
  if fv.filter.value = before then (fv, []) else fv.afterQueryChange

/-- Handles an event, before the header is refreshed. -/
def dispatch (fv : FilteredView α) (e : ViewEvent) : FilteredView α × List Effect :=
  if e = .clear then (fv.clearFilter, [.filterCleared])
  else if fv.filter.focused then
    if e = .accept then
      ({ fv with surface := fv.surface.setSelectionStyle .applied, filter := fv.filter.blur },
        [.filterApplied])
    else fv.editQuery e
  else match e with
    | .navigate n => ({ fv with surface := fv.surface.navigate n }, [])
    | .nextMatch | .prevMatch =>
      if !fv.filter.context || !fv.filter.hasText then (fv, [])
      else
        let fv := { fv with filter := fv.filter.advanceMatch (if e = ViewEvent.nextMatch then .next else .prev) }
        if fv.filter.hasContextualMatches then
          let idx := fv.filter.currentMatchIndex
          (fv.scrollToItem idx, [.matchFocused idx])
        else (fv, [])
    | .startFilter | .startRegexFilter =>
      let wasRegex := fv.filter.mode = .regex
      let regex := e = .startRegexFilter
      let fv := { fv with filter := (fv.filter.setMode (if regex then .regex else .plain)).focus }
      let fv := if wasRegex ≠ regex then fv.updateVisibleRows else fv
      ({ fv with surface := fv.surface.setSelectionStyle .editing }, [.filterFocused])
    | .toggleWrap =>
      let wrap := !fv.surface.wrap
      ({ fv with surface := fv.surface.setWrap wrap }, [.wrapToggled wrap])
    | _ => fv.editQuery e

/-- Handles an event and refreshes the header. -/
def handle (fv : FilteredView α) (e : ViewEvent) : FilteredView α × List Effect :=
  let (fv, effects) := fv.dispatch e
  (fv.updateHeader, effects)

/-- Replaces all rows; in context mode with a query, goes to the first match. -/
def setAllRows (fv : FilteredView α) (rows : Array α) : FilteredView α :=
  let fv := { fv with allRows := rows }.updateVisibleRows
  let fv := if fv.filter.context && fv.filter.hasText then
      let fv := { fv with filter := fv.filter.resetMatchCursor }
      if fv.filter.hasContextualMatches then fv.scrollToItem fv.filter.currentMatchIndex else fv
    else fv
  fv.updateHeader

/-- Turns context mode on or off, when that is allowed. -/
def toggleShowContext (fv : FilteredView α) : FilteredView α :=
  if !fv.filter.contextToggleAllowed then fv
  else { fv with filter := fv.filter.setContextEnabled !fv.filter.context }.updateVisibleRows.updateHeader

/-- Replaces the top header. -/
def setTopHeader (fv : FilteredView α) (t : String) : FilteredView α :=
  { fv with topHeader := t }.updateHeader

/-- The rows shown. -/
def visibleRows (fv : FilteredView α) : Array α := fv.surface.items

/-- The selected row. -/
def selection (fv : FilteredView α) : Option α := fv.surface.selectedItem

/-- The selected index. -/
def selectionIndex (fv : FilteredView α) : Nat := fv.surface.selectedIndex

/-- Selects the row at `idx`. -/
def setSelectionIndex (fv : FilteredView α) (idx : Nat) : FilteredView α :=
  { fv with surface := fv.surface.setSelectedIndex idx }

/-- Changes the viewport alone. -/
def mapSurface (fv : FilteredView α) (f : Viewport α → Viewport α) : FilteredView α :=
  { fv with surface := f fv.surface }

/-- Turns focus and selection on or off. -/
def setFocus (fv : FilteredView α) (focused selection : Bool) : FilteredView α :=
  { fv with surface := (fv.surface.setSelectionEnabled selection).setFocused focused }.updateHeader

/-- Whether keys go to the query. -/
def isCapturingInput (fv : FilteredView α) : Bool := fv.filter.focused

/-- The text shown when there are no rows at all. -/
def placeholder (fv : FilteredView α) : Option String :=
  if fv.allRows.isEmpty then some fv.whenEmpty else none

/-- Puts a query in force without typing it. -/
def applyFilter (fv : FilteredView α) (text : String) (mode : FilterMode) : FilteredView α :=
  let fv := { fv with filter := (fv.filter.setMode mode).setText text,
                      surface := fv.surface.setHighlight text }.updateVisibleRows
  { fv with filter := fv.filter.resetMatchCursor }.updateHeader

end FilteredView

end LogBrowser
