import LogBrowser.Text.Width
import LogBrowser.Unicode.Blank

/-!
# Wrapping by columns

Greedy line breaking by display columns. Trailing blanks are dropped; then characters are put on
the current row as long as they fit, and a character that would overflow a non-empty row starts
the next one. A character wider than the whole row still gets a row of its own, so every row but
such a one fits, and no character is lost: the rows concatenate to the trimmed text.

Each character is measured on its own here (`charWidth`), so a control character takes no column.
-/

namespace LogBrowser.Text

open LogBrowser.Unicode

/-- Fills rows of at most `w` columns greedily, given the current row (reversed) and its used
columns. -/
def fillRows (w : Nat) (cur : List Char) (used : Nat) : List Char → List (List Char)
  | [] => if cur.isEmpty then [] else [cur.reverse]
  | c :: cs =>
    if w < used + charWidth c && !cur.isEmpty then cur.reverse :: fillRows w [c] (charWidth c) cs
    else fillRows w (c :: cur) (used + charWidth c) cs

/-- The rows of a text wrapped at `w` columns. A width of zero gives no rows; an empty or blank
text gives one empty row. -/
def wrapChars (cs : List Char) (w : Nat) : List (List Char) :=
  if w = 0 then []
  else match fillRows w [] 0 (trimBlankEnd cs) with
    | [] => [[]]
    | rows => rows

/-- The rows of a string wrapped at `w` columns. -/
def wrap (s : String) (w : Nat) : List String :=
  (wrapChars s.toList w).map String.ofList

theorem flatten_fillRows (w : Nat) (cur : List Char) (used : Nat) (cs : List Char) :
    (fillRows w cur used cs).flatten = cur.reverse ++ cs := by
  induction cs generalizing cur used with
  | nil => cases cur <;> simp [fillRows]
  | cons c cs ih =>
    simp only [fillRows]
    split <;> simp [ih]

@[simp] theorem wrapChars_zero (cs : List Char) : wrapChars cs 0 = [] := rfl

end LogBrowser.Text
