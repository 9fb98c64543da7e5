/-!
# Records

What a list view needs of the items it shows: the text of one item. Items are compared with
`BEq` when a view keeps the selection on the same item across new content.
-/

namespace LogBrowser

/-- Items that a list view can show: each has a text. -/
class Record (α : Type) where
  render : α → String

instance : Record String where
  render s := s

end LogBrowser
