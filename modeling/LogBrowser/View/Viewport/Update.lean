import LogBrowser.View.Viewport.Scroll
import LogBrowser.View.Event

/-!
# Changing the viewport

New content, wrapping, size and navigation.

New content keeps the selection where the reader left it. A selection at the sticky end stays
at that end: the first item when the top is sticky, the last one when the bottom is. Otherwise,
when the view maintains its selection, the selection follows the same item (the first equal one)
into the new content, or falls back to the first item. The selected item is then scrolled into
view and, if it is in view, put back on the screen row it had.

Turning wrapping on or off keeps the selected row on its screen row in the same way. A page move
scrolls by the content rows and moves the selection by the items that were in view.
-/

namespace LogBrowser

namespace Viewport

variable {α : Type} [Record α]

/-- Scrolls the selected item into view. -/
def scrollSelectionIntoView (v : Viewport α) : Viewport α := v.scrollToIndex v.selected

/-- The screen row of the selection's first row, when the selection is in view. -/
def selectionRow (v : Viewport α) : Nat :=
  if v.selectionEnabled then
    let (count, above) := v.selectionInView
    if 0 < count then above else 0
  else 0

/-- Scrolls so that the selection's first row is back on screen row `row`, when it is in view. -/
def restoreSelectionRow (v : Viewport α) (row : Nat) : Viewport α :=
  let (count, above) := v.selectionInView
  if 0 < count then v.scrollBy ((above : Int) - (row : Int)) else v

/-- Replaces the items, keeping the selection as described above. -/
def setContent [BEq α] (v : Viewport α) (items : Array α) : Viewport α :=
  let row := v.selectionRow
  let len := v.items.size
  let stayTop := v.selectionEnabled && v.topSticky && 0 < len && v.selected = 0
  let stayBottom := v.selectionEnabled && !stayTop && v.bottomSticky &&
    (len = 0 || v.selected = len - 1)
  let previous := if v.selectionEnabled && !stayTop && !stayBottom && v.maintainSelection then
      v.items[v.selected]? else none
  let w := { v with items := items }
  let w := w.safelySetTop w.topItem w.topOffset
  let w := w.safelySetXOffset w.xOffset
  if !w.selectionEnabled then w
  else if stayBottom then
    ({ w with selected := w.items.size - 1 }).scrollSelectionIntoView
  else
    let w := if stayTop then { w with selected := 0 }
      else if w.maintainSelection then
        { w with selected := (previous.bind fun p => w.items.findIdx? (· == p)).getD 0 }
      else w
    let w := { w with selected := min w.selected (w.items.size - 1) }
    w.scrollSelectionIntoView.restoreSelectionRow row

/-- Sets the header rows. -/
def setHeader (v : Viewport α) (h : List String) : Viewport α := { v with header := h }

/-- Sets the text to highlight. -/
def setHighlight (v : Viewport α) (t : String) : Viewport α := { v with highlight := t }

/-- Turns wrapping on or off, keeping the selected row on its screen row. -/
def setWrap (v : Viewport α) (wrap : Bool) : Viewport α :=
  let row := v.selectionRow
  let w := { v with wrap := wrap, topOffset := 0, xOffset := 0 }
  let w := if w.selectionEnabled then
      let w := w.scrollSelectionIntoView
      let (count, above) := w.selectionInView
      if 0 < count then (w.scrollBy ((above : Int) - (row : Int))).scrollSelectionIntoView else w
    else w
  w.safelySetTop w.topItem w.topOffset

/-- Turns selection on or off. -/
def setSelectionEnabled (v : Viewport α) (b : Bool) : Viewport α := { v with selectionEnabled := b }

/-- Sets whether a selection on the first item stays there as content changes. -/
def setTopSticky (v : Viewport α) (b : Bool) : Viewport α := { v with topSticky := b }

/-- Sets whether a selection on the last item stays there as content changes. -/
def setBottomSticky (v : Viewport α) (b : Bool) : Viewport α := { v with bottomSticky := b }

/-- Sets whether the selection follows its item as content changes. -/
def setMaintainSelection (v : Viewport α) (b : Bool) : Viewport α := { v with maintainSelection := b }

/-- Sets how the selection is drawn. -/
def setSelectionStyle (v : Viewport α) (s : SelectionStyle) : Viewport α := { v with selectionStyle := s }

/-- Sets whether the view has focus. -/
def setFocused (v : Viewport α) (b : Bool) : Viewport α := { v with focused := b }

/-- Resizes the window and scrolls the selection back into view. -/
def setDimensions (v : Viewport α) (width height : Nat) : Viewport α :=
  let w := { v with width := width, height := height }
  if width = 0 || height = 0 then w
  else
    let w := if w.selectionEnabled then w.scrollSelectionIntoView else w
    w.safelySetTop w.topItem w.topOffset

/-- Moves through the list: the selection when it is on, otherwise the scroll position. -/
def navigate (v : Viewport α) : Navigation → Viewport α
  | .up => if v.selectionEnabled then v.selectUp 1 else v.scrollUp 1
  | .down => if v.selectionEnabled then v.selectDown 1 else v.scrollDown 1
  | .left => if v.wrap then v else v.safelySetXOffset (v.xOffset - v.width / 4)
  | .right => if v.wrap then v else v.safelySetXOffset (v.xOffset + v.width / 4)
  | .halfPageUp =>
    let step := max (v.numVisibleItems / 2) 1
    let w := v.scrollUp (v.numContentLines / 2)
    if w.selectionEnabled then w.selectUp step else w
  | .halfPageDown =>
    let step := max (v.numVisibleItems / 2) 1
    let w := v.scrollDown (v.numContentLines / 2)
    if w.selectionEnabled then w.selectDown step else w
  | .pageUp =>
    let step := v.numVisibleItems
    let w := v.scrollUp v.numContentLines
    if w.selectionEnabled then w.selectUp step else w
  | .pageDown =>
    let step := v.numVisibleItems
    let w := v.scrollDown v.numContentLines
    if w.selectionEnabled then w.selectDown step else w
  | .top => if v.selectionEnabled then v.setSelectedIndex 0 else { v with topItem := 0, topOffset := 0 }
  | .bottom =>
    if v.selectionEnabled then v.selectDown v.items.size
    else v.safelySetTop v.maxTop.1 v.maxTop.2

end Viewport

end LogBrowser
