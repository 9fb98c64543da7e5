/-!
# White space

The code points with the White_Space property: the tab to carriage return controls, space,
next line, no-break space, ogham space mark, the typographic spaces U+2000 to U+200A, the line
and paragraph separators, the narrow and medium mathematical spaces and the ideographic space.
Trimming a line and the `\s` class of patterns both use this set.
-/

namespace LogBrowser.Unicode

/-- Whether the character has the White_Space property. -/
def isBlank (c : Char) : Bool :=
  let n := c.toNat
  (0x09 ≤ n && n ≤ 0x0D) || n == 0x20 || n == 0x85 || n == 0xA0 || n == 0x1680 ||
    (0x2000 ≤ n && n ≤ 0x200A) || n == 0x2028 || n == 0x2029 || n == 0x202F ||
    n == 0x205F || n == 0x3000

theorem isBlank_of_isWhitespace (c : Char) (h : c.isWhitespace = true) : isBlank c = true := by
  simp only [Char.isWhitespace, Bool.or_eq_true, decide_eq_true_eq] at h
  simp only [isBlank, Bool.or_eq_true, Bool.and_eq_true, beq_iff_eq, decide_eq_true_eq]
  rcases h with ((h | h) | h) | h <;> subst h <;> decide

/-- Drops the blank characters at the end. -/
def trimBlankEnd (s : List Char) : List Char :=
  (s.reverse.dropWhile isBlank).reverse

/-- Drops the blank characters at the start. -/
def trimBlankStart (s : List Char) : List Char :=
  s.dropWhile isBlank

end LogBrowser.Unicode
