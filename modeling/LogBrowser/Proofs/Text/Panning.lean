import LogBrowser.Proofs.Text.Wrapping
import LogBrowser.View.Viewport.Basic

/-!
# Panned rows

`Text.pan s x w` shows `w` columns of `s` from column `x`, with `...` at each edge where text was
cut off. Columns are counted character by character (`sumCharWidths`). The row is
`skipColumns x`, the text from the first character at or after column `x`, cut to the width by
`takeColumns`. The right marker is drawn when the whole text is wider, as a string
(`widthOfList`), than `x` and the row together.

`pan_fits_and_marks_cut_edges` collects what holds of every text, offset and width:

* the panned row is never wider than the window, so no row of an unwrapped viewport is;
* unpanned text that fits is shown as it is, and panned text of positive width starts with the
  left marker (the text after `x` may be empty: then the marker is all there is);
* when the string measure of every run of the text is the sum of its characters' columns
  (`MeasuredByColumns`), the right marker is drawn exactly when the rest of the text is wider
  than the window or a wide character straddles column `x` (`Straddles`): `skipColumns` drops
  that character whole, so the row starts a column or two past `x`, and those columns are
  counted as cut off at the right;
* between its markers the row shows a run of the text lying within columns `[x, x + w)`, unless a
  character straddles column `x` and the text is not measured by its columns.

The right marker therefore does not always mean that text was cut off at the right edge.
`panChars_marks_uncut_right_edge` shows this for a wide character that is cut at the left and
followed by plain text that fits the window. For `"漢abcd"`, panned into five columns from
column 1, the row is only dots (`pan_wide_lead_row_is_only_markers`).
-/

namespace LogBrowser.Text

open LogBrowser.Unicode

/-! ## Measures -/

theorem charWidth_le_three (c : Char) : charWidth c ≤ 3 := by
  unfold charWidth charWidth?
  split_ifs <;> simp

@[simp] theorem sumCharWidths_continuation : sumCharWidths continuation = 3 := rfl

@[simp] theorem continuation_ne_nil : continuation ≠ [] := by decide

@[simp] theorem widthOfList_continuation : widthOfList continuation = 3 := by decide +kernel

/-- A printable ASCII character. -/
def IsPlainAscii (c : Char) : Prop := 0x20 ≤ c.toNat ∧ c.toNat < 0x7F

instance (c : Char) : Decidable (IsPlainAscii c) := inferInstanceAs (Decidable (_ ∧ _))

theorem charWidth_of_plainAscii {c : Char} (h : IsPlainAscii c) : charWidth c = 1 := by
  have hc : isControl c = false := by
    simp only [isControl, Bool.or_eq_false_iff, decide_eq_false_iff_not, Bool.and_eq_false_iff]
    unfold IsPlainAscii at h
    omega
  simp [charWidth, charWidth?, hc, h.2]

/-- Printable ASCII is measured one column a character, and nothing joins to it. -/
theorem measure_of_plainAscii {cs : List Char} (h : ∀ c ∈ cs, IsPlainAscii c) :
    measure cs = ((cs.length : Int), .plain) := by
  induction cs with
  | nil => rfl
  | cons c cs ih =>
      have hc : IsPlainAscii c := h c List.mem_cons_self
      have hnl : c ≠ '\n' := fun hn => by simp [hn, IsPlainAscii] at hc
      have hcr : c ≠ '\r' := fun hn => by simp [hn, IsPlainAscii] at hc
      have hle : c.toNat ≤ 0xA0 := by unfold IsPlainAscii at hc; omega
      have hstep : widthBefore c .plain = (1, .plain) := by
        simp [widthBefore, widthAfterSelectors, hle, hnl, hcr]
      rw [measure, ih fun d hd => h d (List.mem_cons_of_mem c hd)]
      simp only [hstep, List.length_cons, Prod.mk.injEq, and_true]
      omega

/-- Every run of `cs` is as wide, measured as a string, as its characters' columns together. -/
def MeasuredByColumns (cs : List Char) : Prop :=
  ∀ m, m <:+: cs → widthOfList m = sumCharWidths m

theorem sumCharWidths_of_plainAscii {cs : List Char} (h : ∀ c ∈ cs, IsPlainAscii c) :
    sumCharWidths cs = cs.length := by
  induction cs with
  | nil => rfl
  | cons c cs ih =>
      rw [sumCharWidths_cons, charWidth_of_plainAscii (h c List.mem_cons_self),
        ih fun d hd => h d (List.mem_cons_of_mem c hd), List.length_cons, Nat.add_comm]

theorem measuredByColumns_of_plainAscii {cs : List Char} (h : ∀ c ∈ cs, IsPlainAscii c) :
    MeasuredByColumns cs := by
  intro m hm
  have hm' : ∀ c ∈ m, IsPlainAscii c := fun c hc => h c (hm.subset hc)
  rw [widthOfList, measure_of_plainAscii hm', sumCharWidths_of_plainAscii hm']
  simp

/-! ## Skipping columns -/

/-- The columns that `skipColumns n` drops from the front of `cs`. -/
def skippedColumns (n : Nat) : List Char → Nat
  | [] => 0
  | c :: cs => if n = 0 then 0 else charWidth c + skippedColumns (n - charWidth c) cs

/-- Some character of `cs` begins before column `x` and ends after it. -/
def Straddles (x : Nat) (cs : List Char) : Prop :=
  ∃ p c q, cs = p ++ c :: q ∧ sumCharWidths p < x ∧ x < sumCharWidths p + charWidth c

@[simp] theorem skipColumns_zero (cs : List Char) : skipColumns 0 cs = cs := by
  cases cs <;> rfl

@[simp] theorem skippedColumns_zero (cs : List Char) : skippedColumns 0 cs = 0 := by
  cases cs <;> rfl

/-- The skipped characters and the rest make up the text. -/
theorem exists_eq_append_skipColumns (n : Nat) (cs : List Char) :
    ∃ p, cs = p ++ skipColumns n cs ∧ sumCharWidths p = skippedColumns n cs := by
  induction cs generalizing n with
  | nil => exact ⟨[], rfl, rfl⟩
  | cons c cs ih =>
      by_cases hn : n = 0
      · subst hn
        exact ⟨[], by simp, by simp⟩
      · obtain ⟨p, hp, hsum⟩ := ih (n - charWidth c)
        refine ⟨c :: p, ?_, ?_⟩
        · simpa [skipColumns, hn] using hp
        · simp [skippedColumns, hn, hsum]

theorem skipColumns_suffix (n : Nat) (cs : List Char) : skipColumns n cs <:+ cs := by
  obtain ⟨p, hp, -⟩ := exists_eq_append_skipColumns n cs
  exact ⟨p, hp.symm⟩

/-- Skipping stops only once `n` columns are dropped, unless the text runs out. -/
theorem le_skippedColumns {n : Nat} {cs : List Char} (h : skipColumns n cs ≠ []) :
    n ≤ skippedColumns n cs := by
  induction cs generalizing n with
  | nil => simp [skipColumns] at h
  | cons c cs ih =>
      by_cases hn : n = 0
      · omega
      · simp only [skipColumns, hn, if_false] at h
        have := ih h
        simp only [skippedColumns, hn, if_false]
        omega

/-- Skipping overshoots `n` by less than the widest character. -/
theorem skippedColumns_lt {n : Nat} (hn : 0 < n) (cs : List Char) :
    skippedColumns n cs < n + 3 := by
  induction cs generalizing n with
  | nil => simp [skippedColumns]
  | cons c cs ih =>
      have hc := charWidth_le_three c
      simp only [skippedColumns, Nat.pos_iff_ne_zero.1 hn, if_false]
      by_cases hcn : n ≤ charWidth c
      · rw [Nat.sub_eq_zero_of_le hcn, skippedColumns_zero]
        omega
      · have := ih (n := n - charWidth c) (by omega)
        omega

theorem exists_prefix_of_skipColumns_ne_nil {n : Nat} {cs : List Char}
    (h : skipColumns n cs ≠ []) : ∃ p, cs = p ++ skipColumns n cs ∧ n ≤ sumCharWidths p := by
  obtain ⟨p, hp, hsum⟩ := exists_eq_append_skipColumns n cs
  exact ⟨p, hp, hsum ▸ le_skippedColumns h⟩

theorem straddles_cons {n : Nat} {c : Char} {cs : List Char} :
    Straddles n (c :: cs) ↔
      (0 < n ∧ n < charWidth c) ∨ (charWidth c < n ∧ Straddles (n - charWidth c) cs) := by
  constructor
  · rintro ⟨p, d, q, hcs, hlo, hhi⟩
    cases p with
    | nil =>
        -- the straddling character is the first one
        simp only [List.nil_append, List.cons.injEq] at hcs
        obtain ⟨rfl, -⟩ := hcs
        simp only [sumCharWidths_nil, Nat.zero_add] at hlo hhi
        exact Or.inl ⟨hlo, hhi⟩
    | cons e p =>
        simp only [List.cons_append, List.cons.injEq] at hcs
        obtain ⟨rfl, rfl⟩ := hcs
        simp only [sumCharWidths_cons] at hlo hhi
        exact Or.inr ⟨by omega, p, d, q, rfl, by omega, by omega⟩
  · rintro (⟨hlo, hhi⟩ | ⟨hlt, p, d, q, rfl, hlo, hhi⟩)
    · exact ⟨[], c, cs, rfl, hlo, by simpa using hhi⟩
    · exact ⟨c :: p, d, q, rfl, by simp; omega, by simp; omega⟩

/-- A character straddles column `n` exactly when skipping to it drops more than `n`
columns. -/
theorem straddles_iff_lt_skippedColumns (n : Nat) (cs : List Char) :
    Straddles n cs ↔ n < skippedColumns n cs := by
  induction cs generalizing n with
  | nil =>
      simp only [skippedColumns, Nat.not_lt_zero, iff_false]
      rintro ⟨p, c, q, h, -⟩
      simp at h
  | cons c cs ih =>
      rw [straddles_cons, ih]
      by_cases hn : n = 0
      · subst hn
        simp
      · simp only [skippedColumns, hn, if_false]
        rcases Nat.lt_trichotomy (charWidth c) n with hlt | heq | hgt
        · omega
        · rw [heq, Nat.sub_self, skippedColumns_zero]
          omega
        · rw [Nat.sub_eq_zero_of_le hgt.le, skippedColumns_zero]
          omega

instance (x : Nat) (cs : List Char) : Decidable (Straddles x cs) :=
  decidable_of_iff _ (straddles_iff_lt_skippedColumns x cs).symm

theorem skipColumns_append (n : Nat) (a b : List Char) :
    skipColumns n (a ++ b) = skipColumns n a ++ skipColumns (n - sumCharWidths a) b := by
  induction a generalizing n with
  | nil => simp [skipColumns]
  | cons c a ih =>
      by_cases hn : n = 0
      · subst hn
        simp [skipColumns]
      · simp only [List.cons_append, skipColumns, hn, if_false, ih, sumCharWidths_cons,
          Nat.sub_sub]

/-! ## Taking columns -/

theorem takeColumns_prefix_self (n : Nat) (cs : List Char) : takeColumns n cs <+: cs := by
  induction cs generalizing n with
  | nil => simp [takeColumns]
  | cons c cs ih =>
      simp only [takeColumns]
      split
      next => exact List.nil_prefix
      next => exact (List.prefix_cons_inj c).2 (ih _)

theorem takeColumns_of_sumCharWidths_le {n : Nat} {cs : List Char} (h : sumCharWidths cs ≤ n) :
    takeColumns n cs = cs := by
  induction cs generalizing n with
  | nil => rfl
  | cons c cs ih =>
      simp only [sumCharWidths_cons] at h
      simp only [takeColumns, if_neg (show ¬n < charWidth c by omega),
        ih (n := n - charWidth c) (by omega)]

/-- The marker fits any window of at least three columns. -/
theorem takeColumns_continuation {n : Nat} (hn : 3 ≤ n) :
    takeColumns n continuation = continuation :=
  takeColumns_of_sumCharWidths_le (by simpa using hn)

theorem takeColumns_ne_nil {n : Nat} {cs : List Char} (h : cs ≠ []) (hn : 3 ≤ n) :
    takeColumns n cs ≠ [] := by
  obtain ⟨c, cs, rfl⟩ := List.exists_cons_of_ne_nil h
  have := charWidth_le_three c
  simp only [takeColumns, if_neg (show ¬n < charWidth c by omega)]
  exact List.cons_ne_nil _ _

/-- A row loses columns to the cut exactly when it is wider than the cut. -/
theorem sumCharWidths_takeColumns_lt_iff (n : Nat) (cs : List Char) :
    sumCharWidths (takeColumns n cs) < sumCharWidths cs ↔ n < sumCharWidths cs := by
  constructor
  · intro h
    by_contra hle
    rw [takeColumns_of_sumCharWidths_le (Nat.le_of_not_lt hle)] at h
    exact Nat.lt_irrefl _ h
  · intro h
    exact Nat.lt_of_le_of_lt (sumCharWidths_takeColumns_le n cs) h

theorem sumCharWidths_le_of_prefix {a b : List Char} (h : a <+: b) :
    sumCharWidths a ≤ sumCharWidths b := by
  obtain ⟨t, rfl⟩ := h
  simp

/-! ## Marking the edges -/

/-- The row `vis` drawn in `w` columns: with the right edge cut, its columns past `w - 3` give
way to `...`; with the left edge cut, its first three columns do. -/
def markEdges (w : Nat) (left right : Bool) (vis : List Char) : List Char :=
  let body := if right then takeColumns (w - 3) vis ++ continuation else vis
  if left then continuation ++ skipColumns 3 body else body

/-- `m` is a run of `cs` lying within columns `[x, x + w)`. -/
def RunWithin (x w : Nat) (cs m : List Char) : Prop :=
  ∃ a b, cs = a ++ m ++ b ∧ x ≤ sumCharWidths a ∧ sumCharWidths a + sumCharWidths m ≤ x + w

/-- The row `out` shows a run of `cs` within columns `[x, x + w)`, or nothing of it, after a
leading `...` or nothing and before a trailing `...`, of which the leading one may cover a
part. -/
def ShowsRunWithin (x w : Nat) (cs out : List Char) : Prop :=
  ∃ l m t, out = l ++ m ++ t ∧ (l = [] ∨ l = continuation) ∧ t <:+ continuation ∧
    (m = [] ∨ RunWithin x w cs m)

theorem runWithin_of_offset {x w : Nat} {cs p r q m : List Char} (hcs : cs = p ++ r)
    (hqm : q ++ m <+: r) (hlo : x ≤ sumCharWidths p + sumCharWidths q)
    (hhi : sumCharWidths p + sumCharWidths q + sumCharWidths m ≤ x + w) : RunWithin x w cs m := by
  obtain ⟨b, rfl⟩ := hqm
  exact ⟨p ++ q, b, by simp [hcs], by simpa using hlo, by simpa using hhi⟩

/-- What follows the left marker is the rest of the row past its first three columns. -/
theorem showsRunWithin_leftMark {x w : Nat} {cs p r q v : List Char} (hcs : cs = p ++ r)
    (hv : q ++ v <+: r) (hlo : x ≤ sumCharWidths p + sumCharWidths q)
    (hhi : sumCharWidths p + sumCharWidths q + sumCharWidths v ≤ x + w) {t : List Char}
    (ht : t <:+ continuation) :
    ShowsRunWithin x w cs (continuation ++ (skipColumns 3 v ++ t)) := by
  refine ⟨continuation, skipColumns 3 v, t, by rw [List.append_assoc], Or.inr rfl, ht, ?_⟩
  by_cases hm : skipColumns 3 v = []
  · exact Or.inl hm
  · -- the columns under the marker move from the run to the part before it
    obtain ⟨v₀, hv₀, h3⟩ := exists_prefix_of_skipColumns_ne_nil hm
    refine Or.inr (runWithin_of_offset hcs (q := q ++ v₀) ?_ ?_ ?_)
    · rw [List.append_assoc, ← hv₀]
      exact hv
    · simp only [sumCharWidths_append]
      omega
    · have hsum := congrArg sumCharWidths hv₀
      simp only [sumCharWidths_append] at hsum ⊢
      omega

variable {x w : Nat} {cs p r : List Char}

/-- A marked row shows a run of the text within the window, given that the skipped columns
`p` reach `x` by less than three columns, and reach exactly so far as to leave room for the
row when no right marker is drawn. -/
theorem showsRunWithin_markEdges (hw : 3 < w) (hcs : cs = p ++ r) (hlo : x ≤ sumCharWidths p)
    (hhi : sumCharWidths p ≤ x + 3) {right : Bool}
    (hfit : right = false → sumCharWidths p + sumCharWidths (takeColumns w r) ≤ x + w)
    (left : Bool) : ShowsRunWithin x w cs (markEdges w left right (takeColumns w r)) := by
  have hv := takeColumns_prefix_self w r
  have hcut := sumCharWidths_takeColumns_le (w - 3) (takeColumns w r)
  have htv := takeColumns_prefix_self (w - 3) (takeColumns w r)
  cases right with
  | false =>
      have hfit := hfit rfl
      cases left with
      | false =>
          refine ⟨[], takeColumns w r, [], by simp [markEdges], Or.inl rfl, List.nil_suffix,
            Or.inr (runWithin_of_offset hcs (q := []) (by simpa using hv) (by simpa using hlo)
              (by simpa using hfit))⟩
      | true =>
          simpa [markEdges] using showsRunWithin_leftMark hcs (q := []) (by simpa using hv)
            (by simpa using hlo) (by simpa using hfit) List.nil_suffix
  | true =>
      cases left with
      | false =>
          refine ⟨[], takeColumns (w - 3) (takeColumns w r), continuation, by simp [markEdges],
            Or.inl rfl, List.suffix_refl _, Or.inr (runWithin_of_offset hcs (q := [])
              (by simpa using htv.trans hv) (by simpa using hlo) (by simp; omega))⟩
      | true =>
          -- the left marker covers the cut row first, then as much of the right marker
          -- as the row leaves of its three columns
          simp only [markEdges, if_true, skipColumns_append]
          exact showsRunWithin_leftMark hcs (q := []) (by simpa using htv.trans hv)
            (by simpa using hlo) (by simp; omega) (skipColumns_suffix _ _)

/-! ## The panned row -/

theorem sumCharWidths_leftMark_le (hw : 3 < w) {body : List Char} (h : sumCharWidths body ≤ w) :
    sumCharWidths (continuation ++ skipColumns 3 body) ≤ w := by
  by_cases hm : skipColumns 3 body = []
  · simp only [hm, List.append_nil, sumCharWidths_continuation]
    omega
  · -- the marker takes the place of at least three columns
    obtain ⟨q, hq, h3⟩ := exists_prefix_of_skipColumns_ne_nil hm
    have hsum := congrArg sumCharWidths hq
    simp only [sumCharWidths_append, sumCharWidths_continuation] at hsum ⊢
    omega

/-- The panned row is never wider than the window. -/
theorem sumCharWidths_panChars_le (cs : List Char) (x w : Nat) :
    sumCharWidths (panChars cs x w) ≤ w := by
  have hv := sumCharWidths_takeColumns_le w (skipColumns x cs)
  have hcut := sumCharWidths_takeColumns_le (w - 3) (takeColumns w (skipColumns x cs))
  unfold panChars
  simp only [widthOfList_continuation]
  split
  · simp
  · split
    · exact sumCharWidths_takeColumns_le w continuation
    · -- the right marker keeps the row within the width, and the left one only takes the
      -- place of columns
      split_ifs with hright hleft hleft
      · simp only [Bool.and_eq_true, decide_eq_true_eq] at hright
        exact sumCharWidths_leftMark_le hright.2 (by simp; omega)
      · simp only [Bool.and_eq_true, decide_eq_true_eq] at hright
        simp only [sumCharWidths_append, sumCharWidths_continuation]
        omega
      · simp only [Bool.and_eq_true, decide_eq_true_eq] at hleft
        exact sumCharWidths_leftMark_le hleft.1.2 hv
      · exact hv

/-- Unpanned text that fits the window is shown as it is. -/
theorem panChars_of_fits (hw : 0 < w) (h : sumCharWidths cs ≤ w) : panChars cs 0 w = cs := by
  simp [panChars, Nat.pos_iff_ne_zero.1 hw, takeColumns_of_sumCharWidths_le h]

/-- With nothing left after column `x`, only the left marker can be drawn. -/
theorem panChars_of_skipColumns_eq_nil (hw : 0 < w) (hx : 0 < x) (hR : skipColumns x cs = []) :
    panChars cs x w = if 0 < widthOfList cs then takeColumns w continuation else [] := by
  simp only [panChars, hR, Nat.pos_iff_ne_zero.1 hw, if_false]
  by_cases hpos : 0 < widthOfList cs
  · simp [hx, hpos, takeColumns]
  · have h0 : widthOfList cs = 0 := by omega
    simp [h0, takeColumns]

/-- With text left after column `x`, the row is that text cut to the window, with its edges
marked: the left one when `x` is positive, the right one when the text is wider, as a string,
than `x` and the row together. -/
theorem panChars_of_skipColumns_ne_nil (hw : 3 < w) (hR : skipColumns x cs ≠ []) :
    panChars cs x w = markEdges w (decide (0 < x))
      (decide (x + widthOfList (takeColumns w (skipColumns x cs)) < widthOfList cs))
      (takeColumns w (skipColumns x cs)) := by
  have hv : takeColumns w (skipColumns x cs) ≠ [] := takeColumns_ne_nil hR hw.le
  have hv' : (takeColumns w (skipColumns x cs)).isEmpty = false := by simpa using hv
  simp only [panChars, markEdges, widthOfList_continuation, Nat.ne_of_gt (Nat.lt_of_le_of_lt
    (Nat.zero_le 3) hw), if_false, hv', Bool.and_false, hw, decide_true, Bool.and_true]
  by_cases hcut : x + widthOfList (takeColumns w (skipColumns x cs)) < widthOfList cs
  · simp [hcut]
  · simp [hcut, hv]

/-- Panned text of positive width starts with the left marker. -/
theorem continuation_prefix_panChars (hw : 3 < w) (hx : 0 < x) (hpos : 0 < widthOfList cs) :
    continuation <+: panChars cs x w := by
  by_cases hR : skipColumns x cs = []
  · have h := panChars_of_skipColumns_eq_nil (w := w) (by omega) hx hR
    rw [if_pos hpos, takeColumns_continuation hw.le] at h
    exact h ▸ List.prefix_refl _
  · rw [panChars_of_skipColumns_ne_nil hw hR]
    simp [markEdges, hx]

/-- Measured by its columns, the text is cut at the right exactly when the rest of it is wider
than the window or a character straddles column `x`. -/
theorem rightCut_iff (hm : MeasuredByColumns cs) (hR : skipColumns x cs ≠ []) :
    x + widthOfList (takeColumns w (skipColumns x cs)) < widthOfList cs ↔
      w < sumCharWidths (skipColumns x cs) ∨ Straddles x cs := by
  have hpre := takeColumns_prefix_self w (skipColumns x cs)
  have hV : takeColumns w (skipColumns x cs) <:+: cs :=
    hpre.isInfix.trans (skipColumns_suffix x cs).isInfix
  obtain ⟨p, hp, hsum⟩ := exists_eq_append_skipColumns x cs
  have htotal := congrArg sumCharWidths hp
  have hlo := le_skippedColumns hR
  have hle := sumCharWidths_le_of_prefix hpre
  rw [sumCharWidths_append, hsum] at htotal
  rw [hm _ hV, hm _ (List.infix_refl cs), straddles_iff_lt_skippedColumns,
    ← sumCharWidths_takeColumns_lt_iff w]
  omega

/-- Between its markers the row shows a run of the text within columns `[x, x + w)`, unless a
character straddles column `x` and the text is not measured by its columns. -/
theorem showsRunWithin_panChars (hw : 3 < w) (h : MeasuredByColumns cs ∨ ¬Straddles x cs) :
    ShowsRunWithin x w cs (panChars cs x w) := by
  by_cases hR : skipColumns x cs = []
  · -- nothing after `x`: at most the left marker
    have hout : panChars cs x w = [] ∨ panChars cs x w = continuation := by
      rcases Nat.eq_zero_or_pos x with rfl | hx
      · rw [skipColumns_zero] at hR
        subst hR
        exact Or.inl (by simp [panChars, takeColumns])
      · rw [panChars_of_skipColumns_eq_nil (by omega) hx hR,
          takeColumns_continuation hw.le]
        split
        · exact Or.inr rfl
        · exact Or.inl rfl
    rcases hout with hout | hout <;> rw [hout]
    · exact ⟨[], [], [], rfl, Or.inl rfl, List.nil_suffix, Or.inl rfl⟩
    · exact ⟨continuation, [], [], by simp, Or.inr rfl, List.nil_suffix, Or.inl rfl⟩
  · rw [panChars_of_skipColumns_ne_nil hw hR]
    obtain ⟨p, hp, hsum⟩ := exists_eq_append_skipColumns x cs
    have hlo : x ≤ sumCharWidths p := hsum ▸ le_skippedColumns hR
    have hhi : sumCharWidths p ≤ x + 3 := by
      rcases Nat.eq_zero_or_pos x with rfl | hx
      · simp [hsum]
      · exact hsum ▸ (skippedColumns_lt hx cs).le
    refine showsRunWithin_markEdges hw hp hlo hhi ?_ _
    -- without a right marker no character straddles `x`, so exactly `x` columns were skipped
    intro hcut
    have hns : ¬Straddles x cs := by
      rcases h with hm | hns
      · intro hs
        simp [(rightCut_iff hm hR).2 (Or.inr hs)] at hcut
      · exact hns
    have hle : sumCharWidths p ≤ x :=
      hsum ▸ Nat.le_of_not_lt ((straddles_iff_lt_skippedColumns x cs).not.1 hns)
    have hV := sumCharWidths_takeColumns_le w (skipColumns x cs)
    omega

end LogBrowser.Text

namespace LogBrowser.Viewport

variable {α : Type} [Record α]

/-- No row of an unwrapped viewport is wider than the viewport. -/
theorem sumCharWidths_visibleLines_le (v : Viewport α) (hw : v.wrap = false) :
    ∀ l ∈ v.visibleLines, Text.sumCharWidths l.text.toList ≤ v.width := by
  intro l hl
  simp only [visibleLines, hw, Bool.false_eq_true, if_false, List.mem_map] at hl
  obtain ⟨l', -, rfl⟩ := hl
  simpa [Text.pan] using Text.sumCharWidths_panChars_le _ _ _

end LogBrowser.Viewport

namespace LogBrowser.Text

/-- Panning a text to `w` columns from column `x`: the row fits the window, so every row of an
unwrapped viewport does; unpanned text that fits is shown whole; panned text of positive width
starts with `...`, and is just that when nothing is left after `x`; measured by its columns, the
text gets a trailing `...` exactly when the rest of it is wider than the window or a character
straddles column `x`; and between the markers the row shows a run of the text within columns
`[x, x + w)`, unless a character straddles `x` in a text not measured by its columns. -/
theorem pan_fits_and_marks_cut_edges (s : String) (x w : Nat) :
    sumCharWidths (pan s x w).toList ≤ w ∧
      (∀ (α : Type) [Record α] (v : Viewport α), v.wrap = false →
        ∀ l ∈ v.visibleLines, sumCharWidths l.text.toList ≤ v.width) ∧
      (x = 0 → 0 < w → sumCharWidths s.toList ≤ w → pan s x w = s) ∧
      (3 < w → 0 < x → 0 < widthOfList s.toList → continuation <+: (pan s x w).toList) ∧
      (3 < w → 0 < x → skipColumns x s.toList = [] →
        (pan s x w).toList = if 0 < widthOfList s.toList then continuation else []) ∧
      (3 < w → MeasuredByColumns s.toList → skipColumns x s.toList ≠ [] →
        (pan s x w).toList = markEdges w (decide (0 < x))
          (decide (w < sumCharWidths (skipColumns x s.toList) ∨ Straddles x s.toList))
          (takeColumns w (skipColumns x s.toList))) ∧
      (3 < w → (MeasuredByColumns s.toList ∨ ¬Straddles x s.toList) →
        ShowsRunWithin x w s.toList (pan s x w).toList) := by
  have hpan : (pan s x w).toList = panChars s.toList x w := String.toList_ofList
  refine ⟨hpan ▸ sumCharWidths_panChars_le _ _ _,
    fun _ _ v hw => Viewport.sumCharWidths_visibleLines_le v hw, ?_, ?_, ?_, ?_, ?_⟩
  · rintro rfl hw hfit
    rw [pan, panChars_of_fits hw hfit, String.ofList_toList]
  · intro hw hx hpos
    exact hpan ▸ continuation_prefix_panChars hw hx hpos
  · intro hw hx hR
    rw [hpan, panChars_of_skipColumns_eq_nil (by omega) hx hR,
      takeColumns_continuation hw.le]
  · intro hw hm hR
    rw [hpan, panChars_of_skipColumns_ne_nil hw hR, decide_eq_decide.2 (rightCut_iff hm hR)]
  · intro hw h
    exact hpan ▸ showsRunWithin_panChars hw h

/-- A plain row panned by two columns into eight keeps both edges marked. -/
theorem pan_marks_both_edges_of_long_row :
    3 < 8 ∧ MeasuredByColumns "abcdefghijkl".toList ∧ skipColumns 2 "abcdefghijkl".toList ≠ [] ∧
      (pan "abcdefghijkl" 2 8).toList = markEdges 8 (decide (0 < 2))
        (decide (8 < sumCharWidths (skipColumns 2 "abcdefghijkl".toList) ∨
          Straddles 2 "abcdefghijkl".toList))
        (takeColumns 8 (skipColumns 2 "abcdefghijkl".toList)) := by
  have hm : MeasuredByColumns "abcdefghijkl".toList :=
    measuredByColumns_of_plainAscii (by simp [IsPlainAscii])
  exact ⟨by decide, hm, by decide,
    (pan_fits_and_marks_cut_edges "abcdefghijkl" 2 8).2.2.2.2.2.1 (by decide) hm (by decide)⟩

example : pan "abcdefghijkl" 2 8 = "...fg..." ∧ pan "abcdefgh" 2 8 = "...fgh" := by decide +kernel

/-- A character two columns wide in front of plain text, panned from column 1: `skipColumns`
drops the character whole and the rest fits the window, so nothing is cut at the right; yet the
text is wider, as a string, than column 1 and the rest together, and the right marker is drawn. -/
theorem panChars_marks_uncut_right_edge {c : Char} {r : List Char} {w : Nat}
    (hc : charWidth c = 2) (hm : widthOfList [c] = 2) (hr : ∀ d ∈ r, IsPlainAscii d)
    (hne : r ≠ []) (hw : 3 < w) (hfit : r.length ≤ w) :
    skipColumns 1 (c :: r) = r ∧ sumCharWidths r ≤ w ∧
      panChars (c :: r) 1 w = markEdges w true true r := by
  have hskip : skipColumns 1 (c :: r) = r := by simp [skipColumns, hc]
  have hsum : sumCharWidths r = r.length := sumCharWidths_of_plainAscii hr
  have hrest : measure r = ((r.length : Int), .plain) := measure_of_plainAscii hr
  -- the string measure counts the wide character's two columns on top of the rest
  have hfirst : (widthBefore c .plain).1 = 2 := by
    simp only [widthOfList, measure, Int.add_zero] at hm
    omega
  have htotal : widthOfList (c :: r) = r.length + 2 := by
    simp only [widthOfList, measure, hrest, hfirst]
    omega
  have hvis : widthOfList r = r.length := by simp [widthOfList, hrest]
  refine ⟨hskip, hsum ▸ hfit, ?_⟩
  rw [panChars_of_skipColumns_ne_nil hw (by rw [hskip]; exact hne), hskip,
    takeColumns_of_sumCharWidths_le (hsum ▸ hfit), hvis, htotal,
    decide_eq_true (by omega : 1 + r.length < r.length + 2)]
  rfl

/-- The row of `"漢abcd"` panned into five columns from column 1: the four columns after the
wide character fit the window, and still the row is markers only, the right marker's dots showing
through the left one. -/
theorem pan_wide_lead_row_is_only_markers :
    sumCharWidths (skipColumns 1 "漢abcd".toList) ≤ 5 ∧ pan "漢abcd" 1 5 = "....." := by
  have hc : charWidth '漢' = 2 := by decide +kernel
  have hm : widthOfList ['漢'] = 2 := by decide +kernel
  have hs : "漢abcd".toList = '漢' :: "abcd".toList := by decide
  obtain ⟨hskip, hfit, hrow⟩ := panChars_marks_uncut_right_edge (r := "abcd".toList) (w := 5) hc hm
    (by simp [IsPlainAscii]) (by simp) (by decide) (by simp)
  refine ⟨by rw [hs, hskip]; exact hfit, ?_⟩
  rw [pan, hs, hrow]
  decide +kernel

end LogBrowser.Text
