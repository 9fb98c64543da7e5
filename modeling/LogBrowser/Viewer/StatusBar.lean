import LogBrowser.Logs.Page
import LogBrowser.Keymap
import LogBrowser.Display.Paragraph
import LogBrowser.Viewer.Theme

/-!
# The status bar

The bottom row: the input mode, `PAUSED` while the stream is held back, the counts of the log
stream (whichever page is open), the last notice, and the key hints. The mode is drawn in its own
colour and bold in either theme.
-/

namespace LogBrowser

open LogBrowser.Display

/-- What keys do at the moment. -/
inductive InputMode where
  /-- Moving through the logs. -/
  | normal
  /-- Reading one log. -/
  | log
  /-- Typing a query. -/
  | filter
  deriving DecidableEq, Repr

namespace InputMode

/-- The mode of a screen, given whether the query is being typed. -/
def of (screen : Screen) (capturing : Bool) : InputMode :=
  if capturing then .filter
  else match screen with
    | .logs => .normal
    | .singleLog => .log

/-- The name shown for a mode. -/
def label : InputMode → String
  | .normal => "NORMAL"
  | .log => "LOG"
  | .filter => "FILTER"

/-- The colour of a mode. -/
def color : InputMode → Color
  | .normal => Palette.modeNormal
  | .log => Palette.modeLog
  | .filter => Palette.modeFilter

end InputMode

/-- The last thing worth telling the user, such as a source ending. -/
structure Notice where
  text : String
  error : Bool
  deriving DecidableEq, Repr

/-- Shown over total lines, and the count held back while paused. -/
def LogsPage.counts (p : LogsPage) : String :=
  toString p.view.visibleRows.size ++ "/" ++ toString p.store.size ++
    (if p.paused then " +" ++ toString p.held.length ++ " held" else "")

/-- The status line. -/
def statusLine (p : LogsPage) (screen : Screen) (capturing : Bool) (notice : Option Notice)
    (t : Theme) : Line :=
  let mode := InputMode.of screen capturing
  let modeSpan : Span :=
    { text := " " ++ mode.label ++ " ", style := { fg := some mode.color, add := { bold := true } } }
  let paused : List Span :=
    if p.paused then [{ text := "PAUSED ", style := { fg := some Palette.modePaused, add := { bold := true } } }]
    else []
  let noticeSpans : List Span := match notice with
    | some n => [{ text := "  " }, { text := n.text, style := if n.error then t.error else t.status }]
    | none => []
  { spans := modeSpan :: paused ++ { text := p.counts, style := t.status } :: noticeSpans ++
      [{ text := hints screen capturing, style := t.status }] }

end LogBrowser
