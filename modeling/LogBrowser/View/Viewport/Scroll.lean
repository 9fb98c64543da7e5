import LogBrowser.View.Viewport.Basic

/-!
# Scrolling the viewport

Moving the scroll position and the selection. Every move ends in `safelySetTop`, which never
lets the position pass `maxTop`, and a horizontal move in `safelySetXOffset`, which never pans
past the widest row in view.

Scrolling by `n` rows walks the items' row counts: up from the current position towards the
first row, or down towards the last item. Scrolling to an item brings all its rows into view: an
item below the window is raised from the bottom edge, one above it is put at the top. With
selection on, a scroll that would leave the selection out of view is undone.
-/

namespace LogBrowser

namespace Viewport

variable {α : Type} [Record α]

/-- Sets the scroll position, held at or above the lowest one. -/
def safelySetTop (v : Viewport α) (item offset : Nat) : Viewport α :=
  let (mi, mo) := v.maxTop
  let top := min item mi
  { v with topItem := top, topOffset := if top = mi then min offset mo else offset }

/-- Sets the horizontal offset, held so that the widest row still reaches the right edge. -/
def safelySetXOffset (v : Viewport α) (n : Nat) : Viewport α :=
  { v with xOffset := min n (v.maxLineWidth - v.width) }

/-- Moves up `up` rows from just below the item `item`. -/
def walkUp (v : Viewport α) : Nat → Nat → Nat × Nat
  | 0, _ => (0, 0)
  | item + 1, up =>
    let lines := v.numLinesFor item
    if up ≤ lines then (item, lines - up) else v.walkUp item (up - lines)

/-- Moves down `down` rows into the items after `item`; past the last item the position stays
on it with the offset `offset`. -/
def walkDown (v : Viewport α) (offset : Nat) : Nat → Nat → Nat → Nat × Nat
  | 0, item, _ => (item, offset)
  | fuel + 1, item, down =>
    if v.items.size ≤ item + 1 then (v.items.size - 1, offset)
    else
      let lines := v.numLinesFor (item + 1)
      if down ≤ lines then (item + 1, down - 1) else v.walkDown offset fuel (item + 1) (down - lines)

/-- The position `n` rows below or above the current one, before the limits apply. -/
def shifted (v : Viewport α) (n : Int) : Nat × Nat :=
  let item := v.topItem
  let offset := v.topOffset
  if !v.wrap then ((item + n).toNat, offset)
  else if n < 0 then
    let up := n.natAbs
    if up ≤ offset then (item, offset - up) else v.walkUp item (up - offset)
  else
    let down := n.toNat
    let lines := v.numLinesFor item
    if offset + down < lines then (item, offset + down)
    else v.walkDown offset v.items.size item (down - (lines - (offset + 1)))

/-- Scrolls by `n` rows, down when positive; nothing moves past the first row or the lowest
position. -/
def scrollBy (v : Viewport α) (n : Int) : Viewport α :=
  if n = 0 || v.width = 0 || v.items.isEmpty then v
  else if 0 < n && v.isScrolledToBottom then v
  else if n < 0 && v.topItem = 0 && v.topOffset = 0 then v
  else
    let (item, offset) := v.shifted n
    let w := v.safelySetTop item offset
    w.safelySetXOffset w.xOffset

/-- Scrolls up `n` rows. -/
def scrollUp (v : Viewport α) (n : Nat) : Viewport α := v.scrollBy (-(n : Int))

/-- Scrolls down `n` rows. -/
def scrollDown (v : Viewport α) (n : Nat) : Viewport α := v.scrollBy (n : Int)

/-- The rows of the selected item in view, and how many rows are above its first one. -/
def selectionInView (v : Viewport α) : Nat × Nat :=
  let rows := v.visibleContent.1
  ((rows.filter (·.item = v.selected)).length, (rows.findIdx? (·.item = v.selected)).getD 0)

/-- Scrolls so that all rows of the item at `index` are in view; with selection on, a scroll
that hides the selection is undone. -/
def scrollToIndex (v : Viewport α) (index : Nat) : Viewport α :=
  if v.items.isEmpty then v.safelySetTop 0 0
  else
    let index := min index (v.items.size - 1)
    let linesInItem := if v.wrap then v.numLinesFor index else 1
    let inView := (v.visibleContent.1.filter (·.item = index)).length
    let w :=
      if linesInItem ≠ inView then
        let w := { v with topItem := index, topOffset := 0 }
        if v.topItem < index then w.scrollUp (w.numContentLines - linesInItem) else w
      else v
    if w.selectionEnabled && w.selectionInView.1 = 0 then
      { w with topItem := v.topItem, topOffset := v.topOffset }
    else w

/-- Selects the item at `index`, held to the last item, and scrolls it into view; nothing
happens without selection or without room for content. -/
def setSelectedIndex (v : Viewport α) (index : Nat) : Viewport α :=
  if !v.selectionEnabled || v.numContentLines = 0 then v
  else if v.items.isEmpty then { v with selected := 0 }
  else
    let w := { v with selected := min index (v.items.size - 1) }
    w.scrollToIndex w.selected

/-- Moves the selection up `n` items. -/
def selectUp (v : Viewport α) (n : Nat) : Viewport α := v.setSelectedIndex (v.selected - n)

/-- Moves the selection down `n` items. -/
def selectDown (v : Viewport α) (n : Nat) : Viewport α := v.setSelectedIndex (v.selected + n)

end Viewport

end LogBrowser
