import LogBrowser.CommandLine
import LogBrowser.Viewer.App

/-!
# Starting the viewer

How the command line and the settings start the viewer: the logs page as the view settings
describe it, with the starting query of the command line in force, and the theme of the colour
setting. A source read to its end reports its lines and then its end; a source that cannot be
read reports its failure.
-/

namespace LogBrowser

open LogBrowser.Time

/-- The page options the view settings describe, at the default size. -/
def ViewSettings.pageOptions (v : ViewSettings) : PageOptions :=
  { descending := v.descending, context := v.context, wrap := v.wrap,
    timestamps := v.timestamps, sources := v.sources }

/-- The viewer as the settings and the command line start it. -/
def App.start (s : Settings) (c : CommandLine) : App :=
  let page := LogsPage.new s.view.pageOptions
  let page := match c.initialFilter with
    | some (text, regex) => page.applyFilter text regex
    | none => page
  App.new page (Theme.ofColor s.view.color)

/-- What a source read to its end reports: its lines and its end, or the failure to read it.
Lines without a timestamp get `now`. -/
def TailMessage.ofRead (source : SourceName) (read : Except String String) (now : Instant) :
    List TailMessage :=
  match read with
  | .ok text => [.lines (LogLine.ofText source text now), .ended source]
  | .error message => [.failed source message]

/-- Whether the sources name standard input more than once; it can be read only once. -/
def CommandLine.readsStdinTwice (c : CommandLine) : Bool :=
  (c.sources.filter Option.isNone).length > 1

end LogBrowser
