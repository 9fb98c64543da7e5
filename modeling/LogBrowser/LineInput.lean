import LogBrowser.Text.Grapheme
import LogBrowser.Text.Word
import LogBrowser.Text.Width
import LogBrowser.Unicode.Blank

/-!
# A one-line text input

The text being typed into a prompt, with a cursor. The cursor counts characters, so it may stand
inside a cluster (after `setCursor`), but moving and deleting go by whole clusters: one step back
crosses the last cluster of the text before the cursor, one step on the first cluster of the text
after it. The cursor is drawn at the width of the text before it.

Words are the word segments of `LogBrowser.Text.Word` that hold something other than white space
and ASCII punctuation; moving a word back goes to the start of the last word starting before the
cursor, moving a word on to the start of the first word starting after it.

Cutting keeps the cut text for `yank`. Cutting a word or the whole line right after such a cut
joins the two cuts in reading order; cutting the rest of the line or its start replaces the kept
text, even when nothing is cut at the end of the line.

`LineInput.apply` is total: a request that cannot act (moving left at the start, deleting at the
end) leaves the text and the cursor as they are.
-/

namespace LogBrowser

open LogBrowser.Text LogBrowser.Unicode

/-- An edit of a one-line text input. -/
inductive EditRequest where
  | setCursor (pos : Nat)
  | insertChar (c : Char)
  | goToPrevChar
  | goToNextChar
  | goToPrevWord
  | goToNextWord
  | goToStart
  | goToEnd
  | deletePrevChar
  | deleteNextChar
  | deletePrevWord
  | deleteNextWord
  | deleteLine
  | deleteTillEnd
  | deleteFromStart
  | yank
  deriving DecidableEq, Repr

/-- A one-line text input: its text, a cursor counted in characters, the text kept by the last
cuts, and whether the last request cut a word or the line. -/
structure LineInput where
  text : String := ""
  cursor : Nat := 0
  cutText : String := ""
  cutting : Bool := false
  deriving DecidableEq, Repr

/-- ASCII punctuation: the printable ASCII characters that are neither letters, digits nor space. -/
def isAsciiPunctuation (c : Char) : Bool :=
  let n := c.toNat
  (0x21 ≤ n && n ≤ 0x2F) || (0x3A ≤ n && n ≤ 0x40) || (0x5B ≤ n && n ≤ 0x60) ||
    (0x7B ≤ n && n ≤ 0x7E)

/-- Whether a word segment counts as a word: it holds a character that is neither white space nor
ASCII punctuation. -/
def isWordPiece (cs : List Char) : Bool :=
  cs.any fun c => !(isBlank c || isAsciiPunctuation c)

namespace LineInput

/-- An input holding `t`, with the cursor after its last character. -/
def ofText (t : String) : LineInput :=
  { text := t, cursor := t.length }

/-- The characters of the text. -/
def chars (i : LineInput) : List Char :=
  i.text.toList

/-- The number of characters of the text. -/
def size (i : LineInput) : Nat :=
  i.chars.length

/-- The column at which the cursor is drawn: the width of the text before it. -/
def visualCursor (i : LineInput) : Nat :=
  widthOfList (i.chars.take i.cursor)

/-- The length of the last cluster of the text before the cursor; zero at the start. -/
def backStep (i : LineInput) : Nat :=
  ((clusters (i.chars.take i.cursor)).getLast?.map List.length).getD 0

/-- The length of the first cluster of the text after the cursor; zero at the end. -/
def forwardStep (i : LineInput) : Nat :=
  ((clusters (i.chars.drop i.cursor)).head?.map List.length).getD 0

/-- The character offsets at which the words of the text start. -/
def wordStarts (i : LineInput) : List Nat :=
  ((segments i.chars).filter fun (a, b) => isWordPiece ((i.chars.drop a).take (b - a))).map (·.1)

/-- Where moving one word back from the cursor lands: the last word start before it. -/
def prevWordStart (i : LineInput) : Nat :=
  (i.wordStarts.filter (· < i.cursor)).getLast?.getD 0

/-- Where moving one word on from the cursor lands: the first word start after it. -/
def nextWordStart (i : LineInput) : Nat :=
  (i.wordStarts.find? (i.cursor < ·)).getD i.size

/-- The characters `[a, b)` of the text. -/
def slice (i : LineInput) (a b : Nat) : List Char :=
  (i.chars.drop a).take (b - a)

/-- Replaces the characters `[a, b)` by `ins` and puts the cursor after the inserted text. -/
def splice (i : LineInput) (a b : Nat) (ins : List Char) : LineInput :=
  { i with
    text := String.ofList (i.chars.take a ++ ins ++ i.chars.drop b)
    cursor := a + ins.length }

/-- Cuts the characters `[a, b)`, leaving the cursor at `a`. The cut joins the kept text when the
last request cut a word or the line: in front of it when the cut goes backwards. -/
def cutWord (i : LineInput) (a b : Nat) (backwards : Bool) : LineInput :=
  let piece := String.ofList (i.slice a b)
  let kept := if !i.cutting then piece
    else if backwards then piece ++ i.cutText else i.cutText ++ piece
  { i.splice a b [] with cutText := kept, cutting := true }

/-- Applies a request to the input. -/
def apply (i : LineInput) : EditRequest → LineInput
  | .setCursor pos => { i with cursor := min pos i.size, cutting := false }
  | .insertChar c => { i.splice i.cursor i.cursor [c] with cutting := false }
  | .goToPrevChar => { i with cursor := i.cursor - i.backStep, cutting := false }
  | .goToNextChar => { i with cursor := i.cursor + i.forwardStep, cutting := false }
  | .goToPrevWord => { i with cursor := i.prevWordStart, cutting := false }
  | .goToNextWord => { i with cursor := i.nextWordStart, cutting := false }
  | .goToStart => { i with cursor := 0, cutting := false }
  | .goToEnd => { i with cursor := i.size, cutting := false }
  | .deletePrevChar => { i.splice (i.cursor - i.backStep) i.cursor [] with cutting := false }
  | .deleteNextChar =>
    { i.splice i.cursor (i.cursor + i.forwardStep) [] with cursor := i.cursor, cutting := false }
  | .deletePrevWord =>
    if i.cursor = 0 then { i with cutting := false }
    else i.cutWord i.prevWordStart i.cursor true
  | .deleteNextWord =>
    if i.size ≤ i.cursor then { i with cutting := false }
    else { i.cutWord i.cursor i.nextWordStart false with cursor := i.cursor }
  | .deleteLine =>
    if i.size = 0 then { i with cutting := false }
    else
      let before := String.ofList (i.chars.take i.cursor)
      let after := String.ofList (i.chars.drop i.cursor)
      let kept := if i.cutting then before ++ i.cutText ++ after else before ++ after
      { text := "", cursor := 0, cutText := kept, cutting := true }
  | .deleteTillEnd =>
    { i with text := String.ofList (i.chars.take i.cursor),
             cutText := String.ofList (i.chars.drop i.cursor), cutting := false }
  | .deleteFromStart =>
    if i.cursor = 0 then { i with cutting := false }
    else { text := String.ofList (i.chars.drop i.cursor), cursor := 0,
           cutText := String.ofList (i.chars.take i.cursor), cutting := false }
  | .yank => { i.splice i.cursor i.cursor i.cutText.toList with cutting := false }

/-- Empties the text and puts the cursor at the start; the cut text is kept. -/
def clear (i : LineInput) : LineInput :=
  { i with text := "", cursor := 0, cutting := false }

theorem apply_goToStart_cursor (i : LineInput) : (i.apply .goToStart).cursor = 0 := rfl

/-- Inserting a character moves the cursor one character on. -/
theorem apply_insertChar_cursor (i : LineInput) (c : Char) :
    (i.apply (.insertChar c)).cursor = i.cursor + 1 := rfl

end LineInput

end LogBrowser
