import LogBrowser.Logs.Entry
import LogBrowser.JsonText.Pretty
import LogBrowser.View.Filtered

/-!
# The single log page

One entry opened on its own: a first row with its full timestamp and full source, then its body
as `bodyLines` shows it (a JSON object pretty-printed). The rows are filtered like the logs page,
with context always on, wrapping on and no selection. Showing the entry already open changes
nothing, so the scroll position survives.
-/

namespace LogBrowser

open LogBrowser.Time

/-- The single log page. -/
structure SingleLogPage where
  view : FilteredView String
  log : Option LogEntry := none

namespace SingleLogPage

/-- The top header of the page. -/
def topHeader : String := "Single Log, esc for Logs"

/-- An empty page of the given size. -/
def new (width height : Nat) : SingleLogPage :=
  let config : FilteredViewConfig String :=
    { topHeader := topHeader, startWithContext := true, canToggleContext := false,
      startSelectionEnabled := false, startWrap := true, width := width, height := height,
      rows := #[], whenEmpty := "" }
  { view := (FilteredView.new config).setFocus true false }

/-- The first row: the full timestamp and the full source. -/
def headerRow (e : LogEntry) : String :=
  TimestampFormat.full.render e.timestamp ++ " | " ++ e.source.full

/-- The rows of an entry. -/
def rowsOf (e : LogEntry) : List String := headerRow e :: JsonText.bodyLines e.text

/-- Shows an entry; the entry already shown is left as it is. -/
def showLog (p : SingleLogPage) (e : LogEntry) : SingleLogPage :=
  match p.log with
  | some cur => if cur == e then p else { view := p.view.setAllRows (rowsOf e).toArray, log := some e }
  | none => { view := p.view.setAllRows (rowsOf e).toArray, log := some e }

/-- Handles an event of the view. -/
def handle (p : SingleLogPage) (ev : ViewEvent) : SingleLogPage × List Effect :=
  let (v, effects) := p.view.handle ev
  ({ p with view := v }, effects)

/-- Whether a query is in force; it takes `esc` before leaving the page does. -/
def hasAppliedFilter (p : SingleLogPage) : Bool := p.view.filter.hasText

/-- Whether keys go to the query. -/
def isCapturingInput (p : SingleLogPage) : Bool := p.view.isCapturingInput

/-- Resizes the view. -/
def setDimensions (p : SingleLogPage) (w h : Nat) : SingleLogPage :=
  { p with view := p.view.mapSurface (·.setDimensions w h) }

end SingleLogPage

end LogBrowser
