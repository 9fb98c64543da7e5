import LogBrowser.Logs.Single
import LogBrowser.Viewer.LogView
import LogBrowser.Viewer.StatusBar

/-!
# The viewer

The logs page, the single log page opened from it, which of them has the keyboard, the theme,
the last notice and whether to quit. The viewer reacts to three kinds of input:

* terminal events (`App.handleEvent`): a key is mapped to a command for the open screen, and a
  resize asks for a redraw;
* messages of the log sources (`App.handleTail`): their lines are merged into the page in one
  batch, except that lines before a source's end are merged before the end is marked;
* drawing (`App.draw`), which fits both pages to the area above the status bar, draws the open
  page and the status bar, and places the cursor while a query is typed.

On the single log page `esc` first clears a query in force, and leaves the page once there is
none. Moving to the next or previous log moves the selection on the logs page and shows the
newly selected log.
-/

namespace LogBrowser

open LogBrowser.Display

/-- What a log source reports. -/
inductive TailMessage where
  /-- New lines. -/
  | lines (batch : List LogLine)
  /-- The source has no more lines. -/
  | ended (source : SourceName)
  /-- Reading the source failed. -/
  | failed (source : SourceName) (error : String)
  deriving Inhabited

/-- An event of the terminal. -/
inductive TerminalEvent where
  | key (k : Key)
  /-- The terminal changed size. -/
  | resize
  | focusGained
  | focusLost

/-- The viewer's state. -/
structure App where
  page : LogsPage
  single : SingleLogPage := SingleLogPage.new 80 24
  screen : Screen := .logs
  theme : Theme
  notice : Option Notice := none
  shouldQuit : Bool := false

/-- A drawn screen: its rows of cells, and where the cursor is shown, if it is. -/
structure Frame where
  rows : List (List Cell)
  cursor : Option (Nat × Nat)

namespace App

/-- A viewer on the logs page. -/
def new (page : LogsPage) (theme : Theme) : App := { page := page, theme := theme }

/-- Whether keys go to the query of the open page. -/
def isCapturingInput (a : App) : Bool :=
  match a.screen with
  | .logs => a.page.isCapturingInput
  | .singleLog => a.single.isCapturingInput

/-- Passes an event to the open page's view; on the single log page a bare `esc` leaves it. -/
def handleViewEvent (a : App) (e : ViewEvent) : App :=
  match a.screen with
  | .logs => { a with page := (a.page.handle e).1 }
  | .singleLog =>
    if e = .clear && !a.single.isCapturingInput && !a.single.hasAppliedFilter then
      { a with screen := .logs }
    else { a with single := (a.single.handle e).1 }

/-- Shows the selected log on the single log page, if there is one. -/
def showSelectedLog (a : App) : App :=
  match a.page.selected with
  | some log => { a with single := a.single.showLog log }
  | none => a

/-- Carries out a command. -/
def handleCommand (a : App) : Command → App
  | .view e => a.handleViewEvent e
  | .toggleContext => { a with page := a.page.toggleContext }
  | .reverseOrder => { a with page := a.page.reverseOrder }
  | .cycleTimestamps => { a with page := a.page.cycleTimestamps }
  | .cycleSources => { a with page := a.page.cycleSources }
  | .togglePause => { a with page := a.page.togglePause.1 }
  | .clearLogs => { a with page := a.page.clear }
  | .nudgeUp => { a with page := a.page.scrollUpByOne }
  | .nudgeDown => { a with page := a.page.scrollDownByOne }
  | .openLog =>
    match a.page.selected with
    | some log => { a with single := a.single.showLog log, screen := .singleLog }
    | none => a
  | .nextLog => { a with page := a.page.scrollDownByOne }.showSelectedLog
  | .prevLog => { a with page := a.page.scrollUpByOne }.showSelectedLog
  | .quit => { a with shouldQuit := true }

/-- Reacts to a terminal event; answers whether the screen needs drawing again. -/
def handleEvent (a : App) : TerminalEvent → App × Bool
  | .key k =>
    match mapKey k a.screen a.isCapturingInput with
    | some c => (a.handleCommand c, true)
    | none => (a, false)
  | .resize => (a, true)
  | _ => (a, false)

/-- Merges source messages, given the lines not yet merged. -/
def handleTailFrom (a : App) (pending : List LogLine) : List TailMessage → App
  | [] => { a with page := a.page.append pending }
  | .lines batch :: rest => a.handleTailFrom (pending ++ batch) rest
  | .ended src :: rest =>
    handleTailFrom
      { a with page := (a.page.append pending).markSourceEnded src,
               notice := some { text := src.short ++ " ended", error := false } } [] rest
  | .failed src err :: rest =>
    handleTailFrom
      { a with page := (a.page.append pending).markSourceEnded src,
               notice := some { text := err, error := true } } [] rest

/-- Merges a run of source messages. -/
def handleTail (a : App) (msgs : List TailMessage) : App := a.handleTailFrom [] msgs

/-- The heights of the page area and of the status bar in a screen `height` rows high: the
status bar takes the last row when there are two rows or more. -/
def split (height : Nat) : Nat × Nat :=
  if 2 ≤ height then (height - 1, 1) else (height, 0)

/-- Draws the viewer on a screen `width` columns wide and `height` rows high. Both pages are
first fitted to the area above the status bar. -/
def draw (a : App) (width height : Nat) : App × Frame :=
  let (pageHeight, barHeight) := split height
  let a := { a with page := a.page.setDimensions width pageHeight,
                    single := a.single.setDimensions width pageHeight }
  let (rows, column) := match a.screen with
    | .logs => a.page.view.draw a.theme width pageHeight
    | .singleLog => a.single.view.draw a.theme width pageHeight
  let bar := statusLine a.page a.screen a.isCapturingInput a.notice a.theme
  let barRows := if width = 0 then List.replicate barHeight (blankRow width)
    else paragraph width barHeight [bar]
  (a, { rows := rows ++ barRows, cursor := column.map fun x => (x, 0) })

theorem split_sum (height : Nat) : (split height).1 + (split height).2 = height := by
  unfold split
  by_cases h : 2 ≤ height
  · rw [if_pos h]
    show height - 1 + 1 = height
    omega
  · rw [if_neg h]
    show height + 0 = height
    omega

/-- A drawn screen has exactly as many rows as the screen. -/
theorem length_draw_rows (a : App) (width height : Nat) :
    (a.draw width height).2.rows.length = height := by
  have hs := split_sum height
  unfold draw
  simp only
  split <;>
    simp only [List.length_append, FilteredView.length_draw] <;>
    split <;> simp [length_paragraph] <;> omega

end App

end LogBrowser
