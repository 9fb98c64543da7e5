import LogBrowser.Logs.Line
import LogBrowser.View.Record

/-!
# Log entries

A line as the logs page keeps it: numbered by arrival, flagged when its source has ended, and
rendered with the timestamp and source formats in force. The rendered parts are stored in the
entry and refreshed (`restyle`) whenever a format or the ended flag changes.

Two entries are the same line when their arrival number, instant and text agree; the rendered
parts and the source do not count. A view uses this to keep its selection on a line.
-/

namespace LogBrowser

open LogBrowser.Time

/-- How timestamps are shown. -/
inductive TimestampFormat where
  | none
  | short
  | full
  deriving DecidableEq, Repr, Inhabited

/-- How sources are shown. -/
inductive SourceFormat where
  | short
  | none
  | full
  deriving DecidableEq, Repr, Inhabited

namespace TimestampFormat

/-- The next format in the cycle none, short, full. -/
def next : TimestampFormat → TimestampFormat
  | .none => .short
  | .short => .full
  | .full => .none

/-- A timestamp in this format: nothing, `HH:MM:SS`, or the RFC 3339 text with milliseconds. -/
def render (f : TimestampFormat) (t : Instant) : String :=
  match f with
  | .none => ""
  | .short => t.clockText
  | .full => t.toMillisText

end TimestampFormat

namespace SourceFormat

/-- The next format in the cycle short, none, full. -/
def next : SourceFormat → SourceFormat
  | .short => .none
  | .none => .full
  | .full => .short

/-- A source in this format; a shown name of an ended source is marked ` [ended]`. -/
def render (f : SourceFormat) (name : SourceName) (ended : Bool) : String :=
  let label := match f with
    | .short => name.short
    | .none => ""
    | .full => name.full
  if ended && !label.isEmpty then label ++ " [ended]" else label

end SourceFormat

/-- A line as the logs page keeps it. -/
structure LogEntry where
  seq : Nat
  timestamp : Instant
  text : String
  source : SourceName
  ended : Bool := false
  shownTimestamp : String := ""
  shownSource : String := ""
  deriving Inhabited

namespace LogEntry

/-- Renders the timestamp and the source anew in the given formats. -/
def restyle (e : LogEntry) (ts : TimestampFormat) (src : SourceFormat) : LogEntry :=
  { e with shownTimestamp := ts.render e.timestamp, shownSource := src.render e.source e.ended }

/-- The row of an entry: timestamp, source and text, each separated by a space when present. -/
def row (e : LogEntry) : String :=
  let pre := if e.shownSource.isEmpty then e.shownTimestamp
    else if e.shownTimestamp.isEmpty then e.shownSource
    else e.shownTimestamp ++ " " ++ e.shownSource
  if pre.isEmpty then e.text
  else if e.text.isEmpty then pre
  else pre ++ " " ++ e.text

/-- The key that orders entries: instant, then arrival. -/
def key (e : LogEntry) : Instant × Nat := (e.timestamp, e.seq)

end LogEntry

instance : Record LogEntry where
  render e := e.row

/-- Entries are the same line when arrival number, instant and text agree. -/
instance : BEq LogEntry where
  beq a b := a.seq == b.seq && a.timestamp == b.timestamp && a.text == b.text

/-- Keys in order: by instant, then by arrival. -/
instance : Ord (Instant × Nat) :=
  ⟨fun a b => (compare a.1 b.1).then (compare a.2 b.2)⟩

end LogBrowser
