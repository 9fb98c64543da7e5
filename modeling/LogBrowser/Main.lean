import LogBrowser.Viewer.Start

/-!
# The command line

`logpane [OPTIONS] [FILES]...` reads each file (standard input for `-` or when no file is given)
to its end and prints the viewer's first screen, 80 columns by 24 rows, as text. Help and the
version go to standard output; a command line error goes to standard error with status 2; a
settings file that cannot be read or decoded, or standard input named twice, stops the program
with status 1. Lines without a timestamp are stamped with the start of the epoch.
-/

namespace LogBrowser

/-- Reads standard input to its end. -/
partial def readStream (s : IO.FS.Stream) (acc : String) : IO String := do
  let line ← s.getLine
  if line.isEmpty then pure acc else readStream s (acc ++ line)

/-- Reads a source to its end: its name and its text, or why it could not be read. -/
def readSource : Option String → IO (SourceName × Except String String)
  | none => do
    let text ← readStream (← IO.getStdin) ""
    pure (SourceName.stdin, .ok text)
  | some path => do
    let name := SourceName.ofPath path
    try
      let text ← IO.FS.readFile path
      pure (name, .ok text)
    catch e =>
      pure (name, .error ("cannot open " ++ path ++ ": " ++ toString e))

/-- The settings the command line names, or the defaults. -/
def loadSettings (c : CommandLine) : IO (Except String Settings) := do
  match c.config with
  | none => pure (.ok {})
  | some path =>
    try
      let text ← IO.FS.readFile path
      pure (Settings.ofToml text)
    catch e =>
      pure (.error (toString e))

/-- Runs the program on its arguments. -/
def run (args : List String) : IO UInt32 := do
  match CommandLine.parse args with
  | .error e =>
    match e.kind with
    | .displayHelp | .displayVersion =>
      IO.println e.message
      pure 0
    | _ =>
      IO.eprintln e.message
      pure 2
  | .ok c =>
    match ← loadSettings c with
    | .error m =>
      IO.eprintln ("Error: " ++ m)
      pure 1
    | .ok s =>
      if c.readsStdinTwice then
        IO.eprintln "Error: stdin can only be read once"
        return 1
      let s := c.apply s
      let reads ← c.sources.mapM readSource
      let epoch : Time.Instant := { day := 0, second := 0, nano := 0 }
      let msgs := reads.flatMap fun (name, read) => TailMessage.ofRead name read epoch
      let (_, frame) := ((App.start s c).handleTail msgs).draw 80 24
      for row in frame.rows do
        IO.println (Display.rowText row).trimAsciiEnd.toString
      pure 0

end LogBrowser

/-- The program. -/
def main (args : List String) : IO UInt32 := LogBrowser.run args
