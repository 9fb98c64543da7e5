import LogBrowser.LineInput
import LogBrowser.Pattern.Match
import LogBrowser.Text.Find

/-!
# The filter

A filter holds the query being typed (a `LineInput`), whether it is read as plain text or as a
pattern, the compiled pattern when it is one, whether matches are shown in their context, and
for that mode the indexes of the matching rows with a cursor over them.

A query that is not a valid pattern keeps no compiled pattern, and matching then falls back to
plain containment. The compiled pattern is refreshed whenever the text or the mode changes; an
edit refreshes it when the input reports that it acted, which an edit of an empty line can do
after the pattern was dropped by `blurAndClear`.

The match cursor stays below the number of matches, or is zero when there are none, and moves
cyclically (`advanceMatch`).
-/

namespace LogBrowser

open LogBrowser.Pattern LogBrowser.Text

/-- How the query is read. -/
inductive FilterMode where
  | plain
  | regex
  deriving DecidableEq, Repr

/-- A direction through the matches. -/
inductive MatchStep where
  | next
  | prev
  deriving DecidableEq, Repr

/-- The key names that the label mentions. -/
structure FilterHints where
  filter : String := "/"
  regex : String := "r"
  nextMatch : String := "n"
  prevMatch : String := "N"
  deriving DecidableEq, Repr

/-- A query with its mode, its compiled pattern, and the matches shown in context. -/
structure Filter where
  input : LineInput := {}
  mode : FilterMode := .plain
  pattern : Option Regex := none
  context : Bool := false
  contextToggleAllowed : Bool := true
  matchingIndexes : List Nat := []
  matchCursor : Nat := 0
  focused : Bool := false
  hints : FilterHints := {}

namespace Filter

/-- A filter with no query, showing the given key names. -/
def new (hints : FilterHints) : Filter := { hints := hints }

/-- The query text. -/
def value (f : Filter) : String := f.input.text

/-- Whether there is a query. -/
def hasText (f : Filter) : Bool := !f.value.isEmpty

/-- Whether the query is a pattern that compiled. -/
def hasValidRegex (f : Filter) : Bool := f.pattern.isSome

/-- The pattern compiled from the query in pattern mode, if it is valid. -/
def compiled (mode : FilterMode) (text : String) : Option Regex :=
  match mode with
  | .plain => none
  | .regex => match Regex.compile? text with
    | .ok r => some r
    | .error _ => none

/-- Compiles the query again for the current mode. -/
def recompile (f : Filter) : Filter := { f with pattern := compiled f.mode f.value }

/-- Replaces the query, with the cursor at its end. -/
def setText (f : Filter) (t : String) : Filter :=
  { f with input := LineInput.ofText t }.recompile

/-- Changes how the query is read. -/
def setMode (f : Filter) (m : FilterMode) : Filter :=
  { f with mode := m }.recompile

/-- Whether an edit request reports that it acted on the input. -/
def responds (i : LineInput) : EditRequest → Bool
  | .setCursor pos => min pos i.size ≠ i.cursor
  | .insertChar _ | .deleteTillEnd | .yank => true
  | .deleteLine => i.size ≠ 0
  | .goToPrevChar | .goToPrevWord | .deletePrevChar | .deletePrevWord | .goToStart
  | .deleteFromStart => i.cursor ≠ 0
  | .goToNextChar | .goToNextWord | .deleteNextChar | .deleteNextWord | .goToEnd =>
    i.cursor < i.size

/-- Edits the query; ignored unless the filter has focus. -/
def edit (f : Filter) (r : EditRequest) : Filter :=
  if !f.focused then f
  else if responds f.input r then { f with input := f.input.apply r }.recompile
  else { f with input := f.input.apply r }

/-- The column of the text cursor. -/
def cursor (f : Filter) : Nat := f.input.visualCursor

/-- Whether a row's text passes the filter: every row passes an empty query; a valid pattern
must match somewhere in it; otherwise the query must occur in it. -/
def accepts (f : Filter) (candidate : String) : Bool :=
  if f.value.isEmpty then true
  else match f.mode, f.pattern with
    | .regex, some r => r.isMatch candidate
    | _, _ => containsText candidate f.value

/-- Gives the filter focus. -/
def focus (f : Filter) : Filter := { f with focused := true }

/-- Takes focus away, leaving the cursor at the end of the query. -/
def blur (f : Filter) : Filter :=
  { f with input := f.input.apply .goToEnd, focused := false }

/-- Takes focus away and forgets the query, its pattern and its matches. -/
def blurAndClear (f : Filter) : Filter :=
  let f := f.blur
  { f with input := f.input.clear, pattern := none, matchingIndexes := [], matchCursor := 0 }

/-- Turns the display of matches in context on or off. -/
def setContextEnabled (f : Filter) (b : Bool) : Filter := { f with context := b }

/-- Allows or forbids turning the context display on or off. -/
def setContextToggleAllowed (f : Filter) (b : Bool) : Filter := { f with contextToggleAllowed := b }

/-- The number of matches shown in context. -/
def matchCount (f : Filter) : Nat := f.matchingIndexes.length

/-- Whether matches are shown in context and there are some. -/
def hasContextualMatches (f : Filter) : Bool := f.context && !f.matchingIndexes.isEmpty

/-- Replaces the matches; the cursor is kept, pulled back onto the last match if needed. -/
def setMatchingIndexes (f : Filter) (ixs : List Nat) : Filter :=
  { f with
    matchingIndexes := ixs
    matchCursor := if ixs.isEmpty then 0 else min f.matchCursor (ixs.length - 1) }

/-- Puts the match cursor on the first match. -/
def resetMatchCursor (f : Filter) : Filter := { f with matchCursor := 0 }

/-- Moves the match cursor one step, wrapping around at both ends. -/
def advanceMatch (f : Filter) (s : MatchStep) : Filter :=
  let n := f.matchingIndexes.length
  if n = 0 then f
  else match s with
    | .next => { f with matchCursor := if n ≤ f.matchCursor + 1 then 0 else f.matchCursor + 1 }
    | .prev => { f with matchCursor :=
        if f.matchCursor = 0 || n < f.matchCursor then n - 1 else f.matchCursor - 1 }

/-- The row index of the current match, or zero when matches are not shown in context or there
is none. -/
def currentMatchIndex (f : Filter) : Nat :=
  if !f.context then 0 else f.matchingIndexes[f.matchCursor]?.getD 0

@[simp] theorem accepts_of_empty (f : Filter) (c : String) (h : f.value = "") :
    f.accepts c = true := by
  simp [accepts, h]

@[simp] theorem matchCursor_setMatchingIndexes_nil (f : Filter) :
    (f.setMatchingIndexes []).matchCursor = 0 := rfl

end Filter

end LogBrowser
