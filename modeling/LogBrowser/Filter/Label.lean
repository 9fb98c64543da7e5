import LogBrowser.Filter.Basic

/-!
# The filter label

The one-line description of a filter shown in a header. Without a query it invites typing:
`type to filter` while focused, or names the keys that start filtering. With a query it reads
`prefix text suffix`: the prefix says how the query is read (and whether a pattern is invalid),
and the suffix says whether only matches are shown, or where the match cursor stands among the
matches in context and how to move it.
-/

namespace LogBrowser

/-- How the label is drawn. -/
inductive LabelState where
  /-- No query and no focus. -/
  | idle
  /-- The query is being typed. -/
  | editing
  /-- A query is in force and not being typed. -/
  | applied
  deriving DecidableEq, Repr

/-- The parts of a filter label, kept apart so that each can be styled. -/
structure FilterLabel where
  state : LabelState
  labelPrefix : String
  text : String
  suffix : String
  deriving DecidableEq, Repr

/-- The label as one line: prefix and text, then the suffix after a space when there is one. -/
def FilterLabel.display (l : FilterLabel) : String :=
  l.labelPrefix ++ l.text ++ (if l.suffix.isEmpty then "" else " " ++ l.suffix)

namespace Filter

/-- The label of a filter. -/
def label (f : Filter) : FilterLabel :=
  if f.value.isEmpty then
    if f.focused then
      { state := .editing, labelPrefix := "", suffix := "",
        text := match f.mode with
          | .regex => "type to regex filter"
          | .plain => "type to filter" }
    else
      { state := .idle, labelPrefix := "", suffix := "",
        text := "'" ++ f.hints.filter ++ "' or '" ++ f.hints.regex ++ "' to filter" }
  else
    let pre := match f.mode, f.pattern.isSome with
      | .regex, true => "regex filter: "
      | .regex, false => "invalid regex: "
      | .plain, _ => "filter: "
    let count := f.matchingIndexes.length
    let position := "(" ++ toString (f.matchCursor + 1) ++ "/" ++ toString count ++ ", "
    let suffix :=
      if !f.context then "(matches only)"
      else if count = 0 then "(no matches)"
      else if f.focused then position ++ "enter to apply)"
      else position ++ f.hints.nextMatch ++ "/" ++ f.hints.prevMatch ++ " to cycle)"
    { state := if f.focused then .editing else .applied
      labelPrefix := pre, text := f.value, suffix := suffix }

end Filter

end LogBrowser
