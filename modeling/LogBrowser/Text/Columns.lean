import LogBrowser.Text.Width

/-!
# Cutting text by columns

Taking and skipping display columns, and the horizontal window that a row shows when it is
panned. Characters are taken while they fit and skipped until the count is reached, so a wide
character straddling the edge is dropped by `takeColumns` and skipped whole by `skipColumns`.

A panned window marks each edge where text was cut with `...`: the window keeps room for the
marker on the right when text continues past it, and replaces its first three columns by the
marker when text was skipped on the left.
-/

namespace LogBrowser.Text

/-- The longest prefix whose characters fit in `n` columns together. -/
def takeColumns (n : Nat) : List Char → List Char
  | [] => []
  | c :: cs => if n < charWidth c then [] else c :: takeColumns (n - charWidth c) cs

/-- Drops characters from the front until at least `n` columns are dropped. -/
def skipColumns (n : Nat) : List Char → List Char
  | [] => []
  | c :: cs => if n = 0 then c :: cs else skipColumns (n - charWidth c) cs

/-- The marker of a cut edge. -/
def continuation : List Char := ['.', '.', '.']

/-- The window of `w` columns starting at column `x`, with `...` at each edge where text was cut
off. -/
def panChars (cs : List Char) (x w : Nat) : List Char :=
  if w = 0 then []
  else
    let total := widthOfList cs
    let visible := takeColumns w (skipColumns x cs)
    if 0 < x && 0 < total && visible.isEmpty then takeColumns w continuation
    else
      let marker := widthOfList continuation
      let right := if x + widthOfList visible < total && marker < w then
          takeColumns (w - marker) visible ++ continuation
        else visible
      if 0 < x && marker < w && !right.isEmpty then continuation ++ skipColumns marker right
      else right

/-- The window of `w` columns of a string starting at column `x`. -/
def pan (s : String) (x w : Nat) : String :=
  String.ofList (panChars s.toList x w)

theorem sumCharWidths_takeColumns_le (n : Nat) (cs : List Char) :
    sumCharWidths (takeColumns n cs) ≤ n := by
  induction cs generalizing n with
  | nil => simp [takeColumns, sumCharWidths]
  | cons c cs ih =>
    simp only [takeColumns]
    split
    · simp [sumCharWidths]
    · have := ih (n - charWidth c)
      simp only [sumCharWidths] at this ⊢
      omega

end LogBrowser.Text
