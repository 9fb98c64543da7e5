import LogBrowser.Logs.Source
import LogBrowser.Time.Instant
import LogBrowser.Unicode.Blank

/-!
# Log lines

A line as a source hands it over: its source, its instant and its text. A raw line may begin
with an RFC 3339 timestamp, followed by blank space and the text; a line that does not gets the
instant it arrived at.
-/

namespace LogBrowser

open LogBrowser.Time LogBrowser.Unicode

/-- A line of a log with its source and instant. -/
structure LogLine where
  source : SourceName
  timestamp : Instant
  text : String
  deriving Inhabited

/-- Drops the line feeds and carriage returns at the end. -/
def dropLineEnd (cs : List Char) : List Char :=
  (cs.reverse.dropWhile fun c => c = '\n' || c = '\r').reverse

/-- Splits a raw line into its leading timestamp, if it has one, and its text. The line end is
dropped first. When the line holds blank space, the part before the first blank is the candidate
timestamp and the text is what follows, without leading blanks; otherwise the whole line is the
candidate and the text is empty. A line without a timestamp keeps all its text and gets `now`. -/
def parseLine (raw : String) (now : Instant) : Instant × String :=
  let cs := dropLineEnd raw.toList
  match cs.span (fun c => !isBlank c) with
  | (head, _ :: rest) =>
    match parseRfc3339 (String.ofList head) with
    | .ok t => (t, String.ofList (trimBlankStart rest))
    | .error _ => (now, String.ofList cs)
  | (_, []) =>
    match parseRfc3339 (String.ofList cs) with
    | .ok t => (t, "")
    | .error _ => (now, String.ofList cs)

/-- The raw lines of a whole text, as a reader hands them over to the end: each piece before a
line feed, then the rest after the last line feed when it is not empty. -/
def rawLines (text : String) : List String :=
  let pieces := text.splitOn "\n"
  if pieces.getLast? = some "" then pieces.dropLast else pieces

/-- The lines of a whole text from one source; lines without a timestamp get `now`. -/
def LogLine.ofText (source : SourceName) (text : String) (now : Instant) : List LogLine :=
  (rawLines text).map fun raw =>
    let (t, body) := parseLine raw now
    { source := source, timestamp := t, text := body }

end LogBrowser
