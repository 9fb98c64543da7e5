import LogBrowser.Settings

/-!
# The command line

`logpane [OPTIONS] [FILES]...`: the files to follow (standard input when there are none, or for
`-`), a starting query (`--filter` or `--regex`, not both), flags that override the settings,
and a settings file.

Arguments are read from left to right. An option takes the next argument as its value unless
that argument looks like an option itself, or takes a value after `=`; `--` makes every later
argument a file. Values wait until the next option, flag, `--` or the end before they are taken
in, which decides which of several errors is met first: an option with no value is reported
then, before a flag such as `--version` acts. Each option and flag may be given once. After
reading, conflicting options are reported.
-/

namespace LogBrowser

/-- What the command line asks for. -/
structure CommandLine where
  files : List String := []
  filter : Option String := none
  regex : Option String := none
  descending : Bool := false
  matchesOnly : Bool := false
  noFollow : Bool := false
  wrap : Bool := false
  noColor : Bool := false
  config : Option String := none
  deriving Repr, Inhabited

/-- The kinds of command line errors. -/
inductive ArgErrorKind where
  | argumentConflict
  | tooManyValues
  | unknownArgument
  | displayHelp
  | displayVersion
  | invalidValue
  deriving DecidableEq, Repr

/-- A command line error: its kind and the first line of its message. -/
structure ArgError where
  kind : ArgErrorKind
  message : String
  deriving Repr

/-- The name of an error kind. -/
def ArgErrorKind.name : ArgErrorKind → String
  | .argumentConflict => "ArgumentConflict"
  | .tooManyValues => "TooManyValues"
  | .unknownArgument => "UnknownArgument"
  | .displayHelp => "DisplayHelp"
  | .displayVersion => "DisplayVersion"
  | .invalidValue => "InvalidValue"

/-- The arguments the program knows. -/
inductive Arg where
  | files
  | filter
  | regex
  | config
  | descending
  | matchesOnly
  | noFollow
  | wrap
  | noColor
  | help
  | version
  deriving DecidableEq, Repr

namespace Arg

/-- How messages name an argument. -/
def shown : Arg → String
  | .files => "[FILES]..."
  | .filter => "--filter <FILTER>"
  | .regex => "--regex <REGEX>"
  | .config => "--config <CONFIG>"
  | .descending => "--descending"
  | .matchesOnly => "--matches-only"
  | .noFollow => "--no-follow"
  | .wrap => "--wrap"
  | .noColor => "--no-color"
  | .help => "--help"
  | .version => "--version"

/-- The argument of a long name. -/
def ofLong? : String → Option Arg
  | "filter" => some .filter
  | "regex" => some .regex
  | "config" => some .config
  | "descending" => some .descending
  | "matches-only" => some .matchesOnly
  | "no-follow" => some .noFollow
  | "wrap" => some .wrap
  | "no-color" => some .noColor
  | "help" => some .help
  | "version" => some .version
  | _ => none

/-- The argument of a short name. -/
def ofShort? : Char → Option Arg
  | 'h' => some .help
  | 'V' => some .version
  | _ => none

/-- Whether the argument takes a value. -/
def takesValue : Arg → Bool
  | .filter | .regex | .config | .files => true
  | _ => false

/-- Whether an empty value is refused (paths may not be empty). -/
def needsNonEmpty : Arg → Bool
  | .config | .files => true
  | _ => false

end Arg

/-- The first line of the help text. -/
def aboutText : String := "Follow, order and filter logs in the terminal"

/-- The version line. -/
def versionText : String := "logpane 0.1.0"

/-- An error with the usual prefix. -/
def argError (kind : ArgErrorKind) (text : String) : ArgError := ⟨kind, "error: " ++ text⟩

/-- The error for an argument given twice. -/
def usedTwice (a : Arg) : ArgError :=
  argError .argumentConflict ("the argument '" ++ a.shown ++ "' cannot be used multiple times")

/-- The error for a missing or empty value. -/
def valueRequired (a : Arg) : ArgError :=
  argError .invalidValue ("a value is required for '" ++ a.shown ++ "' but none was supplied")

/-- The state of reading: what was taken in, in the order arguments were first taken in, the
values waiting for their argument, and whether only files follow. -/
structure ArgReader where
  line : CommandLine := {}
  present : List Arg := []
  pending : Option (Arg × List String) := none
  trailing : Bool := false
  awaiting : Option Arg := none

namespace ArgReader

/-- Takes in an argument with its values. -/
def take (r : ArgReader) (a : Arg) (vals : List String) : Except ArgError ArgReader := do
  if a.takesValue && vals.isEmpty then throw (valueRequired a)
  if a != .files && r.present.contains a then throw (usedTwice a)
  if a.needsNonEmpty && vals.any (·.isEmpty) then throw (valueRequired a)
  let r := if r.present.contains a then r else { r with present := r.present ++ [a] }
  let l := r.line
  let l := match a, vals.getLast? with
    | .files, _ => { l with files := l.files ++ vals }
    | .filter, some v => { l with filter := some v }
    | .regex, some v => { l with regex := some v }
    | .config, some v => { l with config := some v }
    | .descending, _ => { l with descending := true }
    | .matchesOnly, _ => { l with matchesOnly := true }
    | .noFollow, _ => { l with noFollow := true }
    | .wrap, _ => { l with wrap := true }
    | .noColor, _ => { l with noColor := true }
    | _, _ => l
  pure { r with line := l }

/-- Takes in the values waiting for their argument. -/
def settle (r : ArgReader) : Except ArgError ArgReader :=
  match r.pending with
  | none => .ok r
  | some (a, vals) => { r with pending := none }.take a vals

/-- Reacts to a flag: takes in what waits, then the flag. -/
def flag (r : ArgReader) (a : Arg) : Except ArgError ArgReader := do
  let r ← r.settle
  match a with
  | .help => throw ⟨.displayHelp, aboutText⟩
  | .version => throw ⟨.displayVersion, versionText⟩
  | _ => ({ r with awaiting := none } : ArgReader).take a []

/-- Reacts to an option with a value after `=`, or waits for its value. -/
def option (r : ArgReader) (a : Arg) (attached : Option String) : Except ArgError ArgReader := do
  let r ← r.settle
  match attached with
  | some v => ({ r with awaiting := none } : ArgReader).take a [v]
  | none => pure { r with pending := some (a, []), awaiting := some a }

/-- An unknown argument: what waits is settled quietly, then the error. -/
def unknown (_ : ArgReader) (text : String) : Except ArgError ArgReader :=
  throw (argError .unknownArgument ("unexpected argument '" ++ text ++ "' found"))

/-- A file argument. -/
def file (r : ArgReader) (v : String) : Except ArgError ArgReader := do
  let r ← match r.pending with
    | some (.files, _) => pure r
    | _ => r.settle
  let vals := match r.pending with
    | some (.files, vs) => vs
    | _ => []
  pure { r with pending := some (.files, vals ++ [v]), awaiting := none }

/-- A value for the option waiting for one. -/
def value (r : ArgReader) (a : Arg) (v : String) : ArgReader :=
  let vals := match r.pending with
    | some (_, vs) => vs
    | none => []
  { r with pending := some (a, vals ++ [v]), awaiting := none }

/-- Reads a long argument `--name` or `--name=value`. -/
def long (r : ArgReader) (body : List Char) : Except ArgError ArgReader :=
  let (name, rest) := body.span (· != '=')
  let attached := match rest with
    | _ :: v => some (String.ofList v)
    | [] => none
  match Arg.ofLong? (String.ofList name) with
  | none => r.unknown ("--" ++ String.ofList name)
  | some a =>
    if a.takesValue then r.option a attached
    else match attached with
      | some v => throw (argError .tooManyValues
          ("unexpected value '" ++ v ++ "' for '" ++ a.shown ++ "' found; no more were expected"))
      | none => r.flag a

/-- Reads a cluster of short flags `-abc`. -/
def short (r : ArgReader) : List Char → Except ArgError ArgReader
  | [] => .ok r
  | c :: cs =>
    match Arg.ofShort? c with
    | some a => do
      let r ← r.flag a
      short r cs
    | none => r.unknown ("-" ++ String.ofList [c])

/-- Reads one argument. -/
def step (r : ArgReader) (arg : String) : Except ArgError ArgReader :=
  if r.trailing then r.file arg
  else match arg.toList with
    | ['-', '-'] => do
      let r ← r.settle
      pure { r with trailing := true, awaiting := none }
    | '-' :: '-' :: body => r.long body
    | '-' :: c :: cs => r.short (c :: cs)
    | _ =>
      match r.awaiting with
      | some a => .ok (r.value a arg)
      | none => r.file arg

/-- Checks what was read: a value missing at the end, then conflicting options. -/
def finish (r : ArgReader) : Except ArgError CommandLine := do
  let r ← r.settle
  let conflict := r.present.find? fun a => a = .filter || a = .regex
  if let some first := conflict then
    let other := if first = .filter then Arg.regex else Arg.filter
    if r.present.contains other then
      throw (argError .argumentConflict
        ("the argument '" ++ first.shown ++ "' cannot be used with '" ++ other.shown ++ "'"))
  pure r.line

end ArgReader

/-- Reads the arguments after the program name. -/
def CommandLine.parse (args : List String) : Except ArgError CommandLine := do
  let r ← args.foldlM ArgReader.step {}
  r.finish

namespace CommandLine

/-- The settings with the flags applied. -/
def apply (c : CommandLine) (s : Settings) : Settings :=
  let s := if c.descending then { s with view := { s.view with descending := true } } else s
  let s := if c.matchesOnly then { s with view := { s.view with context := false } } else s
  let s := if c.noFollow then { s with tail := { s.tail with follow := false } } else s
  let s := if c.wrap then { s with view := { s.view with wrap := true } } else s
  if c.noColor then { s with view := { s.view with color := false } } else s

/-- The sources to follow: a file path, or `none` for standard input. -/
def sources (c : CommandLine) : List (Option String) :=
  if c.files.isEmpty then [none]
  else c.files.map fun f => if f = "-" then none else some f

/-- The starting query and whether it is a pattern; a pattern wins over plain text. -/
def initialFilter (c : CommandLine) : Option (String × Bool) :=
  match c.regex, c.filter with
  | some re, _ => some (re, true)
  | none, some t => some (t, false)
  | none, none => none

end CommandLine

end LogBrowser
