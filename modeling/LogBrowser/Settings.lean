import LogBrowser.Toml.Document
import LogBrowser.Logs.Entry
import LogBrowser.Text.Quote

/-!
# Settings

The settings file: how sources are followed (`tail`), how the logs page starts (`view`) and
where the program's own log goes (`logging`). Every field is optional and falls back to its
default; keys the settings do not know are ignored.

Reading checks each known field in the order the document gives them and stops at the first
field of the wrong kind, with a message that names the kind found and the kind expected. A
section may also be given as an array, whose items fill its fields in order. Writing gives
every field, section by section.
-/

namespace LogBrowser

open LogBrowser.Toml LogBrowser.Number

/-- How sources are followed. -/
structure TailSettings where
  follow : Bool := true
  fromStart : Bool := true
  pollIntervalMs : Nat := 250
  deriving Repr, Inhabited

/-- How the logs page starts. -/
structure ViewSettings where
  descending : Bool := false
  wrap : Bool := false
  context : Bool := true
  timestamps : TimestampFormat := .none
  sources : SourceFormat := .short
  color : Bool := true
  deriving Repr, Inhabited

/-- Where the program's own log goes. -/
structure LoggingSettings where
  filter : String := "debug"
  file : Option String := none
  deriving Repr, Inhabited

/-- All settings. -/
structure Settings where
  tail : TailSettings := {}
  view : ViewSettings := {}
  logging : LoggingSettings := {}
  deriving Repr, Inhabited

/-! ## Reading -/

/-- A float as plain decimal digits, never in exponent form. -/
def Number.Binary64.plainText (x : Binary64) : String :=
  let sign := if x.negative then "-" else ""
  if x.mantissa = 0 then sign ++ "0"
  else
    let (d, k) := x.shortest
    let ds := (toString d).toList
    let body :=
      if 0 ≤ k then ds ++ List.replicate k.toNat '0'
      else if (-k).toNat < ds.length then
        ds.take (ds.length - (-k).toNat) ++ '.' :: ds.drop (ds.length - (-k).toNat)
      else ['0', '.'] ++ List.replicate ((-k).toNat - ds.length) '0' ++ ds
    sign ++ String.ofList body

/-- A float as messages show it: with a decimal point when finite. -/
def Toml.FloatValue.shown : FloatValue → String
  | .finite x =>
    let t := x.plainText
    if t.toList.contains '.' then t else t ++ ".0"
  | .infinite negative => if negative then "-inf" else "inf"
  | .nan => "NaN"

/-- What a field found, as messages name it. -/
def Toml.Item.found : Item → String
  | .value (.string s) => "string " ++ Text.quoted s
  | .value (.integer n) => "integer `" ++ toString n ++ "`"
  | .value (.float x) => "floating point `" ++ x.shown ++ "`"
  | .value (.boolean b) => "boolean `" ++ (if b then "true" else "false") ++ "`"
  | .value (.array _) => "sequence"
  | .tables _ => "sequence"
  | _ => "map"

/-- The message for a field of the wrong kind. -/
def wrongKind (it : Item) (expected : String) : String :=
  "invalid type: " ++ it.found ++ ", expected " ++ expected

/-- The message for a name that is none of the choices. -/
def unknownChoice (name : String) (choices : List String) : String :=
  "unknown variant `" ++ name ++ "`, expected " ++
    (if choices.isEmpty then "there are no variants"
     else "one of " ++ ", ".intercalate (choices.map fun c => "`" ++ c ++ "`"))

/-- Reads a boolean. -/
def readBool : Item → Except String Bool
  | .value (.boolean b) => .ok b
  | it => .error (wrongKind it "a boolean")

/-- Reads a natural number of 64 bits. -/
def readU64 : Item → Except String Nat
  | .value (.integer n) =>
    if n < 0 then .error ("invalid value: integer `" ++ toString n ++ "`, expected u64")
    else .ok n.toNat
  | it => .error (wrongKind it "u64")

/-- Reads a string. -/
def readText : Item → Except String String
  | .value (.string s) => .ok s
  | it => .error (wrongKind it "a string")

/-- Reads a path. -/
def readPath : Item → Except String String
  | .value (.string s) => .ok s
  | it => .error (wrongKind it "path string")

/-- The value a choice written as a one-entry table carries must be empty. -/
def emptyChoiceValue : Item → Except String Unit
  | .value (.array []) | .tables [] | .table _ _ [] | .value (.inline _ []) => .ok ()
  | .value (.array _) | .tables _ => .error "expected empty array"
  | .table _ _ _ | .value (.inline _ _) => .error "expected empty table"
  | it => .error ("expected table, found " ++ it.typeName)

/-- Reads one of named choices: its name as a string, or a table with the name as its one key. -/
def readChoice (choices : List (String × α)) : Item → Except String α
  | .value (.string s) =>
    match lookup s choices with
    | some a => .ok a
    | none => .error (unknownChoice s (choices.map Prod.fst))
  | it =>
    let entries : Option (List (String × Item)) := match it with
      | .table _ _ es => some es
      | .value (.inline _ es) => some (es.map fun (k, v) => (k, .value v))
      | _ => none
    match entries with
    | none => .error "wanted string or table"
    | some [] => .error "wanted exactly 1 element, found 0 elements"
    | some [(k, v)] =>
      match lookup k choices with
      | none => .error (unknownChoice k (choices.map Prod.fst))
      | some a => (emptyChoiceValue v).map fun () => a
    | some _ => .error "wanted exactly 1 element, more than 1 element"

/-- The fields of a section given as a table, or the items of one given as an array. -/
inductive SectionShape where
  | fields (entries : List (String × Item))
  | items (list : List Item)

/-- How a section is laid out, or the message when it is neither a table nor an array. -/
def sectionShape (name : String) : Item → Except String SectionShape
  | .table _ _ es => .ok (.fields es)
  | .value (.inline _ es) => .ok (.fields (es.map fun (k, v) => (k, .value v)))
  | .value (.datetime _) => .ok (.fields [])
  | .value (.array vs) => .ok (.items (vs.map .value))
  | .tables ts => .ok (.items (ts.map fun t => .table false false t))
  | it => .error (wrongKind it ("struct " ++ name))

/-- Applies the known fields of a section to a value, in the order they stand. `setters` names
the fields in their declared order; an array fills them in that order. -/
def applySection (name : String) (setters : List (String × (σ → Item → Except String σ)))
    (init : σ) (it : Item) : Except String σ := do
  match ← sectionShape name it with
  | .fields es =>
    es.foldlM (fun s (k, v) =>
      match lookup k setters with
      | some set => set s v
      | none => pure s) init
  | .items vs =>
    (setters.zip vs).foldlM (fun s ((_, set), v) => set s v) init

/-- The choices of timestamp formats, by name. -/
def timestampChoices : List (String × TimestampFormat) :=
  [("none", .none), ("short", .short), ("full", .full)]

/-- The choices of source formats, by name. -/
def sourceChoices : List (String × SourceFormat) :=
  [("short", .short), ("none", .none), ("full", .full)]

/-- Reads the `tail` section. -/
def readTail : Item → Except String TailSettings :=
  applySection "TailConfig"
    [("follow", fun s v => return { s with follow := ← readBool v }),
     ("from_start", fun s v => return { s with fromStart := ← readBool v }),
     ("poll_interval_ms", fun s v => return { s with pollIntervalMs := ← readU64 v })] {}

/-- Reads the `view` section. -/
def readView : Item → Except String ViewSettings :=
  applySection "ViewConfig"
    [("descending", fun s v => return { s with descending := ← readBool v }),
     ("wrap", fun s v => return { s with wrap := ← readBool v }),
     ("context", fun s v => return { s with context := ← readBool v }),
     ("timestamps", fun s v => return { s with timestamps := ← readChoice timestampChoices v }),
     ("sources", fun s v => return { s with sources := ← readChoice sourceChoices v }),
     ("color", fun s v => return { s with color := ← readBool v })] {}

/-- Reads the `logging` section. -/
def readLogging : Item → Except String LoggingSettings :=
  applySection "LoggingConfig"
    [("filter", fun s v => return { s with filter := ← readText v }),
     ("file", fun s v => return { s with file := some (← readPath v) })] {}

/-- Reads settings from TOML text, or gives the message of the first error. -/
def Settings.ofToml (text : String) : Except String Settings := do
  let root ← readDocument text
  applySection "Config"
    [("tail", fun s v => return { s with tail := ← readTail v }),
     ("view", fun s v => return { s with view := ← readView v }),
     ("logging", fun s v => return { s with logging := ← readLogging v })] {}
    (.table false false root)

/-! ## Writing -/

/-- The longest run of consecutive characters that pass a test. -/
def longestRun (p : Char → Bool) (cs : List Char) : Nat :=
  (cs.foldl (fun (best, run) c => if p c then (max best (run + 1), run + 1) else (best, 0))
    (0, 0)).1

/-- What a string holds, as far as the choice of its written form goes. -/
structure StringMetrics where
  /-- A backslash. -/
  backslash : Bool
  /-- A control character other than tab and line feed. -/
  control : Bool
  /-- A line feed. -/
  newline : Bool
  /-- The longest run of apostrophes. -/
  apostrophes : Nat
  /-- The longest run of double quotes. -/
  quotes : Nat

/-- The metrics of a string. -/
def StringMetrics.of (s : String) : StringMetrics :=
  let cs := s.toList
  { backslash := cs.contains '\\'
    control := cs.any fun c => (c.toNat ≤ 0x1F && c != '\t' && c != '\n') || c.toNat = 0x7F
    newline := cs.contains '\n'
    apostrophes := longestRun (· = '\'') cs
    quotes := longestRun (· = '"') cs }

/-- The four forms a string is written in: between quotes or apostrophes, on one line or
between triple delimiters. -/
inductive StringForm where
  | basic
  | literal
  | manyLineBasic
  | manyLineLiteral
  deriving DecidableEq

/-- The form a string is written in: the first that needs no escapes among a plain quoted
string, a literal one, a multi-line quoted one and a multi-line literal one; otherwise a quoted
string with escapes, on many lines when it holds a line feed. -/
def chooseForm (m : StringMetrics) : StringForm × Bool :=
  if !m.control && !m.backslash && m.quotes = 0 && !m.newline then (.basic, false)
  else if !m.control && m.apostrophes = 0 && !m.newline then (.literal, false)
  else if !m.control && !m.backslash && m.quotes ≤ 2 then (.manyLineBasic, false)
  else if !m.control && m.apostrophes ≤ 2 then (.manyLineLiteral, false)
  else if m.newline then (.manyLineBasic, true)
  else (.basic, true)

/-- Four upper-case hexadecimal digits. -/
def hex4Upper (n : Nat) : List Char :=
  let d (k : Nat) : Char := if k < 10 then Char.ofNat (48 + k) else Char.ofNat (55 + k)
  [d (n / 4096 % 16), d (n / 256 % 16), d (n / 16 % 16), d (n % 16)]

/-- A character inside a quoted string: escaped, except a line feed in a multi-line string and,
when `raw`, the double quote. -/
def escapeTomlChar (manyLines raw : Bool) (c : Char) : List Char :=
  if c.toNat = 8 then ['\\', 'b']
  else if c = '\t' then ['\\', 't']
  else if c = '\n' then (if manyLines then ['\n'] else ['\\', 'n'])
  else if c.toNat = 12 then ['\\', 'f']
  else if c = '\r' then ['\\', 'r']
  else if c = '"' then (if raw then ['"'] else ['\\', '"'])
  else if c = '\\' then ['\\', '\\']
  else if c.toNat ≤ 0x1F || c.toNat = 0x7F then ['\\', 'u'] ++ hex4Upper c.toNat
  else [c]

/-- A string as TOML writes it. A multi-line form starts with a line feed when the string holds
one. -/
def tomlString (s : String) : String :=
  let m := StringMetrics.of s
  let lead := if m.newline then "\n" else ""
  let quoted (manyLines raw : Bool) : String :=
    String.ofList (s.toList.flatMap (escapeTomlChar manyLines raw))
  match chooseForm m with
  | (.basic, _) => "\"" ++ quoted false false ++ "\""
  | (.literal, _) => "'" ++ s ++ "'"
  | (.manyLineBasic, escaped) => "\"\"\"" ++ lead ++ quoted true (!escaped) ++ "\"\"\""
  | (.manyLineLiteral, _) => "'''" ++ lead ++ s ++ "'''"

/-- The name of a timestamp format in the settings. -/
def TimestampFormat.name : TimestampFormat → String
  | .none => "none"
  | .short => "short"
  | .full => "full"

/-- The name of a source format in the settings. -/
def SourceFormat.name : SourceFormat → String
  | .short => "short"
  | .none => "none"
  | .full => "full"

/-- A boolean as TOML writes it. -/
def tomlBool (b : Bool) : String := if b then "true" else "false"

/-- The settings as a TOML document, every field given. -/
def Settings.toToml (s : Settings) : String :=
  let line (k v : String) := k ++ " = " ++ v ++ "\n"
  "[tail]\n" ++
    line "follow" (tomlBool s.tail.follow) ++
    line "from_start" (tomlBool s.tail.fromStart) ++
    line "poll_interval_ms" (toString s.tail.pollIntervalMs) ++
  "\n[view]\n" ++
    line "descending" (tomlBool s.view.descending) ++
    line "wrap" (tomlBool s.view.wrap) ++
    line "context" (tomlBool s.view.context) ++
    line "timestamps" (tomlString s.view.timestamps.name) ++
    line "sources" (tomlString s.view.sources.name) ++
    line "color" (tomlBool s.view.color) ++
  "\n[logging]\n" ++
    line "filter" (tomlString s.logging.filter) ++
    (match s.logging.file with
     | some f => line "file" (tomlString f)
     | none => "")

end LogBrowser
