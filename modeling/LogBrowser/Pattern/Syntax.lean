import LogBrowser.Pattern.CharSet

/-!
# Patterns

The meaning of a parsed pattern, with every flag already applied: a character that ignores case
has become the set of its case variants, a dot the set of what it matches, an anchor knows
whether it looks at lines or at the whole text, and a word boundary knows whether words are
Unicode or ASCII.

Capture groups do not change what a pattern matches, but they take room in the compiled pattern,
so they are kept; groups that do not capture leave no trace. Greediness is dropped: only whether
a match exists is asked.
-/

namespace LogBrowser.Pattern

/-- A zero-width condition on the characters around a position. -/
inductive Assertion where
  /-- The start of the text. -/
  | textStart
  /-- The end of the text. -/
  | textEnd
  /-- The start of a line; `crlf` when a carriage return also ends lines. -/
  | lineStart (crlf : Bool)
  /-- The end of a line; `crlf` when a carriage return also ends lines. -/
  | lineEnd (crlf : Bool)
  /-- Word and non-word characters meet; `unicode` picks the word characters. -/
  | wordBoundary (unicode : Bool)
  /-- Word and non-word characters do not meet. -/
  | notWordBoundary (unicode : Bool)
  /-- A word starts. -/
  | wordStart (unicode : Bool)
  /-- A word ends. -/
  | wordEnd (unicode : Bool)
  /-- No word character before. -/
  | wordStartHalf (unicode : Bool)
  /-- No word character after. -/
  | wordEndHalf (unicode : Bool)
  deriving DecidableEq, Repr

/-- A pattern with its flags applied. -/
inductive Node where
  /-- Matches the empty text. -/
  | empty
  /-- One character. A character that ignores case is a `set` of its case variants. -/
  | literal (c : Char)
  /-- One character of a set. -/
  | set (s : CharSet)
  /-- A zero-width condition. -/
  | look (a : Assertion)
  /-- A capture group around a pattern. -/
  | capture (n : Node)
  /-- Patterns one after another. -/
  | concat (ns : List Node)
  /-- One of several patterns. -/
  | alt (ns : List Node)
  /-- A pattern repeated at least `min` times and at most `max` times when given. -/
  | repeat (n : Node) (min : Nat) (max : Option Nat)
  deriving Repr, Inhabited

end LogBrowser.Pattern
