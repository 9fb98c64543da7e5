import LogBrowser.LineInput

/-!
# Events of a filtered view

What a filtered list view is asked to do (`ViewEvent`) and what it reports back (`Effect`).
Moving through the list is a `Navigation`; editing the query is an `EditRequest` of the line
input.
-/

namespace LogBrowser

/-- A move through a list view. -/
inductive Navigation where
  | up
  | down
  | pageUp
  | pageDown
  | halfPageUp
  | halfPageDown
  | top
  | bottom
  | left
  | right
  deriving DecidableEq, Repr

/-- A request to a filtered view. -/
inductive ViewEvent where
  /-- Forget the query. -/
  | clear
  /-- Stop typing and keep the query. -/
  | accept
  /-- Start typing a plain query. -/
  | startFilter
  /-- Start typing a pattern. -/
  | startRegexFilter
  /-- Go to the next match shown in context. -/
  | nextMatch
  /-- Go to the previous match shown in context. -/
  | prevMatch
  /-- Turn line wrapping on or off. -/
  | toggleWrap
  /-- Move through the list. -/
  | navigate (n : Navigation)
  /-- Edit the query. -/
  | filterInput (r : EditRequest)
  deriving DecidableEq, Repr

/-- What a filtered view reports after an event. -/
inductive Effect where
  | filterFocused
  | filterApplied
  | filterCleared
  | filterChanged (value : String)
  | matchFocused (index : Nat)
  | wrapToggled (wrap : Bool)
  deriving DecidableEq, Repr

end LogBrowser
