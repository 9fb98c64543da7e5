import LogBrowser.Text.Wrap
import Mathlib.Data.List.Chain

/-!
# Greedy rows

`Text.wrap` breaks a text into rows by display columns, greedily. Its rows are the `GreedyRows` of
the text with its trailing blanks trimmed: they concatenate to it, none is empty, each fits the
width unless it is a single character wider than the width, and each is full, in that the first
character of the next row would not have fitted after it. A blank text gives one empty row, and a
width of zero no rows (`wrap_breaks_greedily`).

Each character is measured on its own (`charWidth`), and a row takes the sum of its characters'
columns (`sumCharWidths`). The row being filled is kept reversed, with its columns beside it;
every property of the rows follows from what the row being filled satisfies.
-/

namespace LogBrowser.Text

open LogBrowser.Unicode

/-! ## Columns of a run of characters -/

@[simp] theorem sumCharWidths_nil : sumCharWidths [] = 0 := rfl

@[simp] theorem sumCharWidths_cons (c : Char) (cs : List Char) :
    sumCharWidths (c :: cs) = charWidth c + sumCharWidths cs := rfl

@[simp] theorem sumCharWidths_append (a b : List Char) :
    sumCharWidths (a ++ b) = sumCharWidths a + sumCharWidths b := by
  induction a with
  | nil => simp
  | cons c a ih => simp [ih, Nat.add_assoc]

@[simp] theorem sumCharWidths_reverse (cs : List Char) :
    sumCharWidths cs.reverse = sumCharWidths cs := by
  induction cs with
  | nil => rfl
  | cons c cs ih => simp [ih, Nat.add_comm]

/-! ## Greedy rows -/

/-- A row fits in `w` columns, or is a single character wider than that. -/
def FitsWidth (w : Nat) (r : List Char) : Prop :=
  sumCharWidths r ≤ w ∨ ∃ c, r = [c] ∧ w < charWidth c

/-- Row `r'` starts with a character that would not fit after row `r`. -/
def BreaksBefore (w : Nat) (r r' : List Char) : Prop :=
  ∀ c ∈ r'.head?, w < sumCharWidths r + charWidth c

/-- Rows that break the text `t` greedily at `w` columns. -/
structure GreedyRows (w : Nat) (t : List Char) (rows : List (List Char)) : Prop where
  flatten_eq : rows.flatten = t
  ne_nil : ∀ r ∈ rows, r ≠ []
  fits : ∀ r ∈ rows, FitsWidth w r
  full : rows.IsChain (BreaksBefore w)

theorem fitsWidth_singleton (w : Nat) (c : Char) : FitsWidth w [c] := by
  rcases Nat.lt_or_ge w (charWidth c) with h | h
  · exact Or.inr ⟨c, rfl, h⟩
  · exact Or.inl (by simpa using h)

/-! ## Filling rows -/

section Fill

variable (w : Nat)

/-- A row is cut only when the next character overflows it, so no row is empty. -/
theorem ne_nil_of_mem_fillRows {cur : List Char} {used : Nat} {cs : List Char} {r : List Char}
    (h : r ∈ fillRows w cur used cs) : r ≠ [] := by
  induction cs generalizing cur used with
  | nil =>
      simp only [fillRows] at h
      split at h
      · simp at h
      · rename_i hcur
        rw [List.mem_singleton.1 h]
        simpa using hcur
  | cons c cs ih =>
      simp only [fillRows] at h
      split at h
      · rename_i hcut
        simp only [Bool.and_eq_true, decide_eq_true_eq, Bool.not_eq_true',
          List.isEmpty_eq_false_iff] at hcut
        rcases List.mem_cons.1 h with rfl | h
        · simpa using hcut.2
        · exact ih h
      · exact ih h

/-- Every row fits, given that the row being filled fits and its columns are counted. -/
theorem fitsWidth_of_mem_fillRows {cur : List Char} {used : Nat} {cs : List Char}
    {r : List Char} (hused : used = sumCharWidths cur) (hfit : cur ≠ [] → FitsWidth w cur.reverse)
    (h : r ∈ fillRows w cur used cs) : FitsWidth w r := by
  induction cs generalizing cur used with
  | nil =>
      simp only [fillRows] at h
      split at h
      · simp at h
      · rename_i hcur
        rw [List.mem_singleton.1 h]
        exact hfit (by simpa using hcur)
  | cons c cs ih =>
      simp only [fillRows] at h
      split at h
      · rename_i hcut
        simp only [Bool.and_eq_true, decide_eq_true_eq, Bool.not_eq_true',
          List.isEmpty_eq_false_iff] at hcut
        rcases List.mem_cons.1 h with rfl | h
        · exact hfit hcut.2
        · exact @ih [c] (charWidth c) (by simp) (fun _ => fitsWidth_singleton w c) h
      · rename_i hcut
        simp only [Bool.and_eq_true, decide_eq_true_eq, Bool.not_eq_true',
          List.isEmpty_eq_false_iff, not_and, Decidable.not_not] at hcut
        refine ih (by simp [hused, Nat.add_comm]) (fun _ => ?_) h
        -- the character joins the row: the row was empty, or it still fits
        by_cases hcur : cur = []
        · subst hcur
          exact fitsWidth_singleton w c
        · have hle : used + charWidth c ≤ w := by
            by_contra hgt
            exact hcur (hcut (by omega))
          exact Or.inl (by
            simp only [List.reverse_cons, sumCharWidths_append, sumCharWidths_reverse,
              sumCharWidths_cons, sumCharWidths_nil]
            omega)

/-- The first row begins with the row being filled. -/
theorem fillRows_eq_cons {cur : List Char} {used : Nat} {cs : List Char} (hcur : cur ≠ []) :
    ∃ r rows, fillRows w cur used cs = (cur.reverse ++ r) :: rows := by
  induction cs generalizing cur used with
  | nil =>
      refine ⟨[], [], ?_⟩
      simp [fillRows, hcur]
  | cons c cs ih =>
      simp only [fillRows]
      split
      · exact ⟨[], _, by rw [List.append_nil]⟩
      · obtain ⟨r, rows, h⟩ := @ih (c :: cur) (used + charWidth c) (by simp)
        exact ⟨c :: r, rows, by simpa using h⟩

/-- Each row is cut where the next character would overflow it. -/
theorem isChain_fillRows {cur : List Char} {used : Nat} {cs : List Char}
    (hused : used = sumCharWidths cur) : (fillRows w cur used cs).IsChain (BreaksBefore w) := by
  induction cs generalizing cur used with
  | nil =>
      simp only [fillRows]
      split
      · exact List.isChain_nil
      · exact List.isChain_singleton _
  | cons c cs ih =>
      simp only [fillRows]
      split
      · rename_i hcut
        simp only [Bool.and_eq_true, decide_eq_true_eq] at hcut
        refine List.isChain_cons.2 ⟨?_, ih (by simp)⟩
        -- the next row starts with the character that overflowed
        obtain ⟨r, rows, h⟩ := @fillRows_eq_cons w [c] (charWidth c) cs
          (List.cons_ne_nil c [])
        rw [h]
        intro y hy c' hc'
        rw [Option.mem_def, List.head?_cons, Option.some.injEq] at hy
        subst hy
        rw [List.reverse_singleton, List.singleton_append, Option.mem_def, List.head?_cons,
          Option.some.injEq] at hc'
        subst hc'
        simpa [← hused] using hcut.1
      · exact ih (by simp [hused, Nat.add_comm])

/-- The rows filled from an empty row break the text greedily. -/
theorem greedyRows_fillRows (cs : List Char) : GreedyRows w cs (fillRows w [] 0 cs) where
  flatten_eq := by simpa using flatten_fillRows w [] 0 cs
  ne_nil _ h := ne_nil_of_mem_fillRows w h
  fits _ h := fitsWidth_of_mem_fillRows w rfl (fun h => absurd rfl h) h
  full := isChain_fillRows w rfl

end Fill

/-- Wrapping a text at a positive width breaks it, trailing blanks trimmed, into greedy rows:
one empty row for a blank text, otherwise non-empty rows that concatenate to the trimmed text,
each within the width unless it is one character wider than the width, and each cut where the
next character would overflow it. A width of zero gives no rows. -/
theorem wrap_breaks_greedily (s : String) (w : Nat) :
    (w = 0 → wrap s w = []) ∧
      (0 < w → wrap s w ≠ [] ∧
        ((trimBlankEnd s.toList = [] ∧ wrap s w = [""]) ∨
          (trimBlankEnd s.toList ≠ [] ∧
            GreedyRows w (trimBlankEnd s.toList) ((wrap s w).map String.toList)))) := by
  refine ⟨fun hw => by simp [wrap, hw], fun hw => ?_⟩
  have hg := greedyRows_fillRows w (trimBlankEnd s.toList)
  unfold wrap wrapChars
  rw [if_neg (Nat.ne_of_gt hw)]
  by_cases ht : trimBlankEnd s.toList = []
  · -- a blank text leaves no row filled, and one empty row is given
    have hnil : fillRows w [] 0 [] = [] := rfl
    simp [ht, hnil]
  · have hne : fillRows w [] 0 (trimBlankEnd s.toList) ≠ [] := fun h =>
      ht (by simpa [h] using hg.flatten_eq.symm)
    split
    · contradiction
    · simp only [List.map_map, Function.comp_def, String.toList_ofList, List.map_id']
      exact ⟨by simpa using hne, Or.inr ⟨ht, hg⟩⟩

/-- Trailing blanks are dropped before the rows are cut: `abc` and three spaces at two columns. -/
theorem wrap_breaks_greedily_trailing_blanks :
    0 < 2 ∧ wrap "abc   " 2 ≠ [] ∧
      ((trimBlankEnd "abc   ".toList = [] ∧ wrap "abc   " 2 = [""]) ∨
        (trimBlankEnd "abc   ".toList ≠ [] ∧
          GreedyRows 2 (trimBlankEnd "abc   ".toList) ((wrap "abc   " 2).map String.toList))) :=
  ⟨by decide, (wrap_breaks_greedily "abc   " 2).2 (by decide)⟩

example : wrap "abc   " 2 = ["ab", "c"] ∧ wrap "" 5 = [""] := by decide

end LogBrowser.Text
