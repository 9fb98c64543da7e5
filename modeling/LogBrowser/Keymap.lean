import LogBrowser.View.Event

/-!
# Keys and commands

Key presses as a terminal reports them, and what they ask of the viewer. While the query is
being typed almost every key is text: only escape, enter and control-c keep their meaning, and
editing keys follow the usual line-editing chords (`editRequestOfKey`). Otherwise keys browse:
the logs page and the page of a single log share most bindings and differ on the arrows.

A released key does nothing; a repeated key acts like a press.
-/

namespace LogBrowser

/-- The key of a key event. -/
inductive KeyCode where
  | char (c : Char)
  | function (n : Nat)
  | backspace
  | enter
  | left
  | right
  | up
  | down
  | home
  | endKey
  | pageUp
  | pageDown
  | tab
  | backTab
  | delete
  | insert
  | esc
  | null
  deriving DecidableEq, Repr

/-- The modifier keys held during a key event. -/
structure Modifiers where
  shift : Bool := false
  control : Bool := false
  alt : Bool := false
  superKey : Bool := false
  hyper : Bool := false
  metaKey : Bool := false
  deriving DecidableEq, Repr

/-- Whether a key goes down, repeats while held, or goes up. -/
inductive KeyKind where
  | press
  | release
  | repeat
  deriving DecidableEq, Repr

/-- A key event. -/
structure Key where
  code : KeyCode
  modifiers : Modifiers := {}
  kind : KeyKind := .press
  deriving DecidableEq, Repr

/-- The page that has the keyboard. -/
inductive Screen where
  | logs
  | singleLog
  deriving DecidableEq, Repr

/-- What a key asks of the viewer. -/
inductive Command where
  /-- An event for the active page's filtered view. -/
  | view (e : ViewEvent)
  | toggleContext
  | reverseOrder
  | cycleTimestamps
  | cycleSources
  | togglePause
  | clearLogs
  | nudgeUp
  | nudgeDown
  /-- Open the selected log on a page of its own. -/
  | openLog
  /-- Show the log after the open one. -/
  | nextLog
  /-- Show the log before the open one. -/
  | prevLog
  | quit
  deriving DecidableEq, Repr

namespace Modifiers

/-- No modifier. -/
def none : Modifiers := {}

/-- Only shift. -/
def onlyShift : Modifiers := { shift := true }

/-- Only control. -/
def onlyControl : Modifiers := { control := true }

/-- Only alt. -/
def onlyAlt : Modifiers := { alt := true }

/-- Only meta. -/
def onlyMeta : Modifiers := { metaKey := true }

/-- Control and alt together, as AltGr is reported. -/
def altGr : Modifiers := { control := true, alt := true }

end Modifiers

/-- The line-editing request of a key chord while typing, if it has one. -/
def editRequestOfKey (k : Key) : Option EditRequest :=
  if k.kind = .release then none
  else
    let m := k.modifiers
    match k.code with
    | .backspace =>
      if m = .none then some .deletePrevChar
      else if m = .onlyMeta || m = .onlyAlt then some .deletePrevWord else none
    | .delete =>
      if m = .none then some .deleteNextChar
      else if m = .onlyControl then some .deleteNextWord else none
    | .left =>
      if m = .none then some .goToPrevChar
      else if m = .onlyControl then some .goToPrevWord else none
    | .right =>
      if m = .none then some .goToNextChar
      else if m = .onlyControl then some .goToNextWord else none
    | .home => if m = .none then some .goToStart else none
    | .endKey => if m = .none then some .goToEnd else none
    | .char c =>
      if m = .onlyControl then
        match c with
        | 'h' => some .deletePrevChar
        | 'b' => some .goToPrevChar
        | 'f' => some .goToNextChar
        | 'u' => some .deleteLine
        | 'w' => some .deletePrevWord
        | 'k' => some .deleteTillEnd
        | 'y' => some .yank
        | 'a' => some .goToStart
        | 'e' => some .goToEnd
        | _ => none
      else if m = .onlyMeta then
        match c with
        | 'b' => some .goToPrevWord
        | 'f' => some .goToNextWord
        | 'd' => some .deletePrevWord
        | _ => none
      else if m = .none || m = .onlyShift || m = .altGr then some (.insertChar c)
      else none
    | _ => none

/-- A navigation command. -/
def Command.nav (n : Navigation) : Command := .view (.navigate n)

/-- Keys that browse the same way on both pages. -/
def sharedKey : KeyCode → Option Command
  | .char '/' => some (.view .startFilter)
  | .char 'r' => some (.view .startRegexFilter)
  | .char 'n' => some (.view .nextMatch)
  | .char 'N' => some (.view .prevMatch)
  | .char 'w' => some (.view .toggleWrap)
  | .char 'q' => some .quit
  | .left | .char 'h' => some (.nav .left)
  | .right | .char 'l' => some (.nav .right)
  | .pageUp => some (.nav .pageUp)
  | .pageDown | .char ' ' => some (.nav .pageDown)
  | .home | .char 'g' => some (.nav .top)
  | .endKey | .char 'G' => some (.nav .bottom)
  | _ => none

/-- Keys of the logs page: arrows move the selection, shifted arrows nudge it. -/
def logsKey (k : Key) : Option Command :=
  if k.modifiers.shift && k.code = .up then some .nudgeUp
  else if k.modifiers.shift && k.code = .down then some .nudgeDown
  else match k.code with
    | .enter => some .openLog
    | .char 'x' => some .toggleContext
    | .char 'o' => some .reverseOrder
    | .char 't' => some .cycleTimestamps
    | .char 's' => some .cycleSources
    | .char 'p' => some .togglePause
    | .char 'c' => some .clearLogs
    | .up | .char 'k' => some (.nav .up)
    | .down | .char 'j' => some (.nav .down)
    | code => sharedKey code

/-- Keys of the single-log page: arrows step through logs, shifted arrows scroll the log. -/
def singleLogKey (k : Key) : Option Command :=
  if k.modifiers.shift && k.code = .up then some (.nav .up)
  else if k.modifiers.shift && k.code = .down then some (.nav .down)
  else match k.code with
    | .char 'K' => some (.nav .up)
    | .char 'J' => some (.nav .down)
    | .up | .char 'k' => some .prevLog
    | .down | .char 'j' => some .nextLog
    | code => sharedKey code

/-- The command of a key on a screen, given whether the query is being typed. -/
def mapKey (k : Key) (screen : Screen) (capturing : Bool) : Option Command :=
  if k.kind = .release then none
  else if k.modifiers.control && k.code = .char 'c' then some .quit
  else if k.code = .esc then some (.view .clear)
  else if k.code = .enter && capturing then some (.view .accept)
  else if capturing then (editRequestOfKey k).map fun r => .view (.filterInput r)
  else if k.modifiers.control then
    match k.code with
    | .char 'u' => some (.nav .halfPageUp)
    | .char 'd' => some (.nav .halfPageDown)
    | .char 'b' => some (.nav .pageUp)
    | .char 'f' => some (.nav .pageDown)
    | _ => none
  else match screen with
    | .logs => logsKey k
    | .singleLog => singleLogKey k

/-- The one-line summary of keys for the status bar. -/
def hints (screen : Screen) (capturing : Bool) : String :=
  if capturing then " type to filter  enter apply  esc discard"
  else match screen with
    | .logs => " ↑↓/jk move  enter open  / filter  r regex  n/N match  x context  w wrap  o order  t time  s source  p pause  c clear  q quit"
    | .singleLog => " ↑↓/jk prev/next log  shift+↑↓/JK scroll  / filter  r regex  n/N match  w wrap  esc back  q quit"

theorem mapKey_release (k : Key) (s : Screen) (c : Bool) (h : k.kind = .release) :
    mapKey k s c = none := by
  simp [mapKey, h]

end LogBrowser
