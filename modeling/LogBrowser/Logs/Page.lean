import LogBrowser.Logs.Entry
import LogBrowser.Store
import LogBrowser.View.Filtered

/-!
# The logs page

All lines of all sources in one filtered view, ordered by instant and then arrival. The page keeps
its entries in a sorted store and hands the view the store's snapshot after every change.

Stickiness follows the order: reading ascending, the view sticks to its bottom, so the newest line
stays selected as lines arrive; reading descending, it sticks to its top. While paused, arriving
lines are held back and merged when the page resumes.
-/

namespace LogBrowser

open LogBrowser.Time

/-- How a logs page starts. -/
structure PageOptions where
  descending : Bool := false
  context : Bool := true
  wrap : Bool := false
  timestamps : TimestampFormat := .none
  sources : SourceFormat := .short
  width : Nat := 80
  height : Nat := 24

/-- The logs page. -/
structure LogsPage where
  store : SortedStore (Instant × Nat) LogEntry
  view : FilteredView LogEntry
  timestamps : TimestampFormat
  sources : SourceFormat
  nextSeq : Nat := 0
  paused : Bool := false
  held : List LogLine := []

/-- The top header for a reading direction. -/
def orderHeader (ascending : Bool) : String :=
  "Logs, " ++ (if ascending then "Ascending" else "Descending")

/-- What the page shows when it has no line. -/
def noLogsText : String := "No logs yet"

namespace LogsPage

/-- Sticks the view to the end where new lines appear in the current order. -/
def followOrder (p : LogsPage) : LogsPage :=
  let asc := p.store.ascending
  { p with view := p.view.mapSurface fun s => (s.setTopSticky !asc).setBottomSticky asc }

/-- A page as configured, with no line. -/
def new (o : PageOptions) : LogsPage :=
  let store : SortedStore (Instant × Nat) LogEntry := SortedStore.empty LogEntry.key !o.descending
  let config : FilteredViewConfig LogEntry :=
    { topHeader := orderHeader store.ascending, startWithContext := o.context,
      canToggleContext := true, startSelectionEnabled := true, startWrap := o.wrap,
      width := o.width, height := o.height, rows := #[], whenEmpty := noLogsText }
  let view := FilteredView.new config
  let view := (view.mapSurface (·.setMaintainSelection true)).setFocus true true
  followOrder { store := store, view := view, timestamps := o.timestamps, sources := o.sources }

/-- Hands the view the current snapshot. -/
def refreshRows (p : LogsPage) : LogsPage :=
  { p with view := p.view.setAllRows p.store.snapshot.toArray }

/-- Files lines as entries, numbered on from `nextSeq`, without refreshing the view. -/
def fileLines (p : LogsPage) : List LogLine → LogsPage
  | [] => p
  | l :: ls =>
    let e : LogEntry :=
      { seq := p.nextSeq, timestamp := l.timestamp, text := l.text, source := l.source }
    let e := e.restyle p.timestamps p.sources
    fileLines { p with store := (p.store.insert e).1, nextSeq := p.nextSeq + 1 } ls

/-- Merges a batch of lines; while paused the batch is held back. -/
def append (p : LogsPage) (lines : List LogLine) : LogsPage :=
  if lines.isEmpty then p
  else if p.paused then { p with held := p.held ++ lines }
  else (p.fileLines lines).refreshRows

/-- Drops every line, held ones included. -/
def clear (p : LogsPage) : LogsPage :=
  { p with store := p.store.removeAll, held := [] }.refreshRows

/-- Changes every entry and refiles them all. -/
def mapEntries (p : LogsPage) (f : LogEntry → LogEntry) : LogsPage :=
  { p with store := p.store.replaceAll (p.store.snapshot.map f) }.refreshRows

/-- Flags every entry of a source as coming from a source that has ended. -/
def markSourceEnded (p : LogsPage) (src : SourceName) : LogsPage :=
  p.mapEntries fun e =>
    if e.source = src then { e with ended := true }.restyle p.timestamps p.sources else e

/-- Renders every entry in the current formats. -/
def restyleAll (p : LogsPage) : LogsPage :=
  p.mapEntries fun e => e.restyle p.timestamps p.sources

/-- Moves to the next timestamp format. -/
def cycleTimestamps (p : LogsPage) : LogsPage :=
  { p with timestamps := p.timestamps.next }.restyleAll

/-- Moves to the next source format. -/
def cycleSources (p : LogsPage) : LogsPage :=
  { p with sources := p.sources.next }.restyleAll

/-- Reverses the reading order. -/
def reverseOrder (p : LogsPage) : LogsPage :=
  let p := followOrder { p with store := p.store.toggleDirection }
  { p with view := p.view.setTopHeader (orderHeader p.store.ascending) }.refreshRows

/-- Turns context mode on or off. -/
def toggleContext (p : LogsPage) : LogsPage := { p with view := p.view.toggleShowContext }

/-- Handles an event of the view. -/
def handle (p : LogsPage) (e : ViewEvent) : LogsPage × List Effect :=
  let (v, effects) := p.view.handle e
  ({ p with view := v }, effects)

/-- Turns wrapping on or off. -/
def toggleWrap (p : LogsPage) : LogsPage × List Effect := p.handle .toggleWrap

/-- Pauses or resumes; resuming merges the held lines. Answers whether the page is now paused. -/
def togglePause (p : LogsPage) : LogsPage × Bool :=
  if p.paused then ({ p with paused := false, held := [] }.append p.held, false)
  else ({ p with paused := true }, true)

/-- Moves the selection one row up. -/
def scrollUpByOne (p : LogsPage) : LogsPage :=
  { p with view := p.view.setSelectionIndex (p.view.selectionIndex - 1) }

/-- Moves the selection one row down. -/
def scrollDownByOne (p : LogsPage) : LogsPage :=
  { p with view := p.view.setSelectionIndex (p.view.selectionIndex + 1) }

/-- Resizes the view. -/
def setDimensions (p : LogsPage) (w h : Nat) : LogsPage :=
  { p with view := p.view.mapSurface (·.setDimensions w h) }

/-- Puts a query in force, plain or as a pattern. -/
def applyFilter (p : LogsPage) (text : String) (regex : Bool) : LogsPage :=
  { p with view := p.view.applyFilter text (if regex then .regex else .plain) }

/-- The selected entry. -/
def selected (p : LogsPage) : Option LogEntry := p.view.selection

/-- Whether keys go to the query. -/
def isCapturingInput (p : LogsPage) : Bool := p.view.isCapturingInput

end LogsPage

end LogBrowser
