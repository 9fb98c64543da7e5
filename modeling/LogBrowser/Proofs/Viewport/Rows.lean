import LogBrowser.Proofs.Viewport.Visible

/-!
# Where an item's rows sit in the window

The window is the run of rows of the whole content that starts at the scroll position's row
index and is as long as the room allows; the rows of item `j` are the run from `linesBefore j`
to `linesBefore (j + 1)`. Everything the viewport asks of its window about an item is read off
the overlap of the two runs: how many rows the window has (`length_rowsFrom`), how many rows of
the item are in it (`count_rowsFrom`), and on which row of the window the first of them stands
(`findIdx?_rowsFrom`).

From the length, a window never fills the room (`length_visibleContent_lt`), and at the first
position it lacks a footer only when all the content fits with two rows to spare. So the lowest
row index, and with it the lowest position, depends on the items, the width, the wrapping and the
room below the header alone, not on where the view stands (`lowestLine_eq`,
`SameLayout.maxTop_eq`, `Moves.maxTop_eq`).
-/

namespace LogBrowser

namespace Viewport

variable {α : Type} [Record α]

/-! The rows one item contributes: all of them belong to that item. -/

theorem findIdx?_item_map (rows : List String) (i j : Nat) :
    (rows.map fun t => ({ item := i, text := t } : VisibleLine)).findIdx? (·.item = j) =
      if 0 < rows.length ∧ i = j then some 0 else none := by
  cases rows with
  | nil => simp
  | cons t rows =>
      by_cases hij : i = j
      · subst hij
        simp [List.findIdx?_cons]
      · simp only [List.map_cons, List.findIdx?_cons, hij, decide_false, Bool.false_eq_true,
          if_false, and_false]
        rw [List.findIdx?_eq_none_iff.2 (by simp [hij])]
        rfl

theorem count_item_map (rows : List String) (i j : Nat) :
    ((rows.map fun t => ({ item := i, text := t } : VisibleLine)).filter (·.item = j)).length =
      if i = j then rows.length else 0 := by
  by_cases hij : i = j
  · subst hij
    simp [List.filter_map, Function.comp_def]
  · simp [hij, List.filter_map]

/-! The window from item `i`, less `o` of its rows, with `room` rows. -/

section Window

variable (v : Viewport α) (j : Nat)

/-- The window holds as many rows as the room allows and the content has from its start. -/
theorem length_rowsFrom (fuel i o room : Nat) (hfuel : v.items.size ≤ fuel + i)
    (ho : o ≤ v.numLinesFor i) :
    (v.rowsFrom fuel i o room).length = min room (v.totalLines - (v.linesBefore i + o)) := by
  induction fuel generalizing i o room with
  | zero =>
      -- out of fuel only past the last item, where no row is left
      have hL : v.linesBefore i = v.totalLines := linesBefore_of_size_le (by omega)
      have hz : v.numLinesFor i = 0 := numLinesFor_eq_zero (by omega)
      simp only [rowsFrom, List.length_nil]
      omega
  | succ fuel ih =>
      by_cases hroom : room = 0
      · simp [hroom]
      cases hi : v.items[i]? with
      | none =>
          have hsize : v.items.size ≤ i := by simpa using hi
          have hL : v.linesBefore i = v.totalLines := linesBefore_of_size_le hsize
          have hz : v.numLinesFor i = 0 := numLinesFor_eq_zero hsize
          simp only [rowsFrom, hroom, hi, if_false, List.length_nil]
          omega
      | some it =>
          simp only [rowsFrom, hroom, hi, if_false, List.length_append, List.length_map]
          have hlen : (((v.itemLines it).drop o).take room).length =
              min (v.numLinesFor i - o) room := by
            rw [List.length_take, List.length_drop, length_itemLines v hi, Nat.min_comm]
          rw [hlen, ih (i + 1) 0 _ (by omega) (Nat.zero_le _)]
          -- the item gives its rows left after the drop, the items after it the rest
          have hi1 := linesBefore_succ v i
          have hle : v.linesBefore (i + 1) ≤ v.totalLines := linesBefore_le_totalLines _
          omega

/-- The rows of item `j` in the window are the overlap of its rows and the window. -/
theorem count_rowsFrom (fuel i o room : Nat) (hfuel : v.items.size ≤ fuel + i)
    (ho : o ≤ v.numLinesFor i) :
    ((v.rowsFrom fuel i o room).filter (·.item = j)).length =
      min (v.linesBefore (j + 1)) (v.linesBefore i + o + room) -
        max (v.linesBefore j) (v.linesBefore i + o) := by
  have hj := linesBefore_succ v j
  induction fuel generalizing i o room with
  | zero =>
      simp only [rowsFrom, List.filter_nil, List.length_nil]
      have := not_window_of_size_le v (by omega) ho j room
      omega
  | succ fuel ih =>
      by_cases hroom : room = 0
      · subst hroom
        simp only [rowsFrom_zero_room, List.filter_nil, List.length_nil]
        omega
      cases hi : v.items[i]? with
      | none =>
          simp only [rowsFrom, hroom, hi, if_false, List.filter_nil, List.length_nil]
          have := not_window_of_size_le v (by simpa using hi) ho j room
          omega
      | some it =>
          simp only [rowsFrom, hroom, hi, if_false, List.filter_append, List.length_append]
          have hlen : (((v.itemLines it).drop o).take room).length =
              min (v.numLinesFor i - o) room := by
            rw [List.length_take, List.length_drop, length_itemLines v hi, Nat.min_comm]
          rw [count_item_map, hlen, ih (i + 1) 0 _ (by omega) (Nat.zero_le _)]
          have hi1 := linesBefore_succ v i
          rcases Nat.lt_trichotomy j i with hji | rfl | hij
          · -- an earlier item ends before the window starts
            have hle : v.linesBefore (j + 1) ≤ v.linesBefore i := linesBefore_mono hji
            rw [if_neg (by omega)]
            omega
          · -- the window starts in item `j`, and the later items hold none of its rows
            have hle : v.linesBefore (j + 1) ≤ v.linesBefore (j + 1 + 1) := linesBefore_mono (by omega)
            rw [if_pos rfl]
            omega
          · -- a later item starts after item `i`, in the room item `i` leaves
            have hle : v.linesBefore (i + 1) ≤ v.linesBefore j := linesBefore_mono hij
            rw [if_neg (by omega)]
            omega

/-- The first row of item `j` in the window: where its rows and the window first overlap. -/
theorem findIdx?_rowsFrom (fuel i o room : Nat) (hfuel : v.items.size ≤ fuel + i)
    (ho : o ≤ v.numLinesFor i) :
    (v.rowsFrom fuel i o room).findIdx? (·.item = j) =
      if max (v.linesBefore j) (v.linesBefore i + o) <
          min (v.linesBefore (j + 1)) (v.linesBefore i + o + room) then
        some (max (v.linesBefore j) (v.linesBefore i + o) - (v.linesBefore i + o))
      else none := by
  have hj := linesBefore_succ v j
  induction fuel generalizing i o room with
  | zero =>
      simp only [rowsFrom, List.findIdx?_nil]
      rw [if_neg (not_window_of_size_le v (by omega) ho j room)]
  | succ fuel ih =>
      by_cases hroom : room = 0
      · subst hroom
        simp only [rowsFrom_zero_room, List.findIdx?_nil]
        rw [if_neg (by omega)]
      cases hi : v.items[i]? with
      | none =>
          simp only [rowsFrom, hroom, hi, if_false, List.findIdx?_nil]
          rw [if_neg (not_window_of_size_le v (by simpa using hi) ho j room)]
      | some it =>
          simp only [rowsFrom, hroom, hi, if_false]
          have hlen : (((v.itemLines it).drop o).take room).length =
              min (v.numLinesFor i - o) room := by
            rw [List.length_take, List.length_drop, length_itemLines v hi, Nat.min_comm]
          rw [List.findIdx?_append, findIdx?_item_map, List.length_map, hlen,
            ih (i + 1) 0 _ (by omega) (Nat.zero_le _)]
          have hi1 := linesBefore_succ v i
          rcases Nat.lt_trichotomy j i with hji | rfl | hij
          · -- an earlier item ends before the window starts
            have hle : v.linesBefore (j + 1) ≤ v.linesBefore i := linesBefore_mono hji
            rw [if_neg (by omega), if_neg (by omega), if_neg (by omega)]
            rfl
          · -- the window starts in item `j`: its first row there, if one is left after the drop
            have hle : v.linesBefore (j + 1) ≤ v.linesBefore (j + 1 + 1) := linesBefore_mono (by omega)
            by_cases hleft : o < v.numLinesFor j
            · rw [if_pos (by omega), if_neg (by omega), if_pos (by omega),
                Nat.max_eq_right (by omega), Nat.sub_self]
              rfl
            · rw [if_neg (by omega), if_neg (by omega), if_neg (by omega)]
              rfl
          · -- a later item: found after the rows of item `i`, counted on from them
            have hle : v.linesBefore (i + 1) ≤ v.linesBefore j := linesBefore_mono hij
            simp only [Nat.add_zero]
            rw [if_neg (by omega), Nat.max_eq_left (by omega), Nat.max_eq_left (by omega)]
            by_cases hin : v.linesBefore j < min (v.linesBefore (j + 1))
                (v.linesBefore (i + 1) + (room - min (v.numLinesFor i - o) room))
            · rw [if_pos hin, if_pos (by omega)]
              simp only [Option.none_or, Option.map_some, Option.some.injEq]
              omega
            · rw [if_neg hin, if_neg (by omega)]
              rfl

end Window

/-! The same, read on the window of a viewport whose position is well placed. -/

section Visible

variable {v : Viewport α} (hw : 0 < v.width) (hp : v.WellPlaced v.position)
include hw hp

theorem length_visibleContent :
    v.visibleContent.1.length = min v.numContentLines (v.totalLines - v.lineIndex v.position) := by
  rw [visibleContent_fst v hw hp.fst_lt]
  exact length_rowsFrom v _ _ _ _ (by omega) (Nat.le_of_lt hp)

theorem count_visibleContent (j : Nat) :
    (v.visibleContent.1.filter (·.item = j)).length =
      min (v.linesBefore (j + 1)) (v.lineIndex v.position + v.numContentLines) -
        max (v.linesBefore j) (v.lineIndex v.position) := by
  rw [visibleContent_fst v hw hp.fst_lt]
  exact count_rowsFrom v j _ _ _ _ (by omega) (Nat.le_of_lt hp)

theorem findIdx?_visibleContent (j : Nat) :
    v.visibleContent.1.findIdx? (·.item = j) =
      if max (v.linesBefore j) (v.lineIndex v.position) <
          min (v.linesBefore (j + 1)) (v.lineIndex v.position + v.numContentLines) then
        some (max (v.linesBefore j) (v.lineIndex v.position) - v.lineIndex v.position)
      else none := by
  rw [visibleContent_fst v hw hp.fst_lt]
  exact findIdx?_rowsFrom v j _ _ _ _ (by omega) (Nat.le_of_lt hp)

end Visible

theorem findIdx?_visibleLines (v : Viewport α) (j : Nat) :
    v.visibleLines.findIdx? (·.item = j) = v.visibleContent.1.findIdx? (·.item = j) := by
  unfold visibleLines
  split
  · rfl
  · rw [List.findIdx?_map]
    rfl

/-- A window never holds more rows than the room less one: a footer takes the last row, and
without one the content ends two rows short of the room. -/
theorem length_visibleContent_lt (v : Viewport α) (hroom : 0 < v.afterHeader) :
    v.visibleContent.1.length < v.afterHeader := by
  unfold visibleContent
  split
  · simpa using hroom
  dsimp only
  rw [if_neg (by omega)]
  split
  · rw [List.length_take]
    omega
  · rename_i hfoot
    simp only [Bool.or_eq_true, decide_eq_true_eq, not_or] at hfoot
    have hshort := hfoot.2
    dsimp only
    omega

/-- Without a width every item has no rows. -/
theorem totalLines_of_width_zero {v : Viewport α} (hw : v.width = 0) : v.totalLines = 0 := by
  have hz : ∀ t, v.linesBefore t = 0 := by
    intro t
    induction t with
    | zero => rfl
    | succ t ih => rw [linesBefore_succ, ih, numLinesFor, if_pos hw]
  exact hz _

/-- The lowest row index is all rows less the room but the footer's row, wherever the view
stands: without a footer the content ends two rows short of the room, and nothing scrolls. -/
theorem lowestLine_eq (v : Viewport α) : v.lowestLine = v.totalLines - (v.afterHeader - 1) := by
  unfold lowestLine numContentLines
  split
  · rfl
  rename_i hno
  suffices hshort : v.totalLines = 0 ∨ v.afterHeader = 0 ∨ v.totalLines + 1 < v.afterHeader by
    omega
  unfold visibleContent at hno
  split at hno
  · -- no width or no items: no rows
    rename_i hempty
    left
    simp only [Bool.or_eq_true, decide_eq_true_eq, Array.isEmpty_iff_size_eq_zero] at hempty
    rcases hempty with hw | hn
    · exact totalLines_of_width_zero hw
    · unfold totalLines
      rw [hn]
      rfl
  dsimp only at hno
  split at hno
  · exact Or.inr (Or.inl ‹_›)
  split at hno
  · exact absurd rfl hno
  -- at the first position, the window took every row and still left two rows of room
  rename_i hn hroom hfoot
  simp only [Bool.or_eq_true, Bool.not_eq_true', Bool.and_eq_false_iff, decide_eq_false_iff_not,
    decide_eq_true_eq, not_or, Classical.not_not, Nat.not_le] at hfoot
  obtain ⟨⟨h1, h2⟩, hshort⟩ := hfoot
  have hne : 0 < v.items.size := by
    simp only [Bool.or_eq_true, decide_eq_true_eq, Array.isEmpty_iff_size_eq_zero, not_or] at hn
    omega
  have hlen := length_rowsFrom v v.items.size 0 0 v.afterHeader (by omega) (Nat.zero_le _)
  rw [h1, h2, Nat.zero_min] at hshort
  rw [hlen, linesBefore_zero, Nat.add_zero, Nat.sub_zero] at hshort
  right; right
  omega

/-! Two viewports that break their items into rows alike, with the same room below the
header, have one lowest row index and, given room to scroll, one lowest position. -/

section Layout

omit [Record α]

/-- Room to scroll: a width, items, and two rows below the header, one of them for the footer. -/
structure Roomy (v : Viewport α) : Prop where
  width_pos : 0 < v.width
  items_pos : 0 < v.items.size
  two_le_afterHeader : 2 ≤ v.afterHeader

/-- `w` breaks its items into rows as `v` does: the same items, at the same width, wrapped alike. -/
structure SameRows (v w : Viewport α) : Prop where
  items : w.items = v.items
  width : w.width = v.width
  wrap : w.wrap = v.wrap

/-- `w` lays its rows out as `v` does: the same rows, with the same room below the header. -/
structure SameLayout (v w : Viewport α) : Prop extends SameRows v w where
  afterHeader : w.afterHeader = v.afterHeader

variable {v w : Viewport α}

theorem Moves.wrap (h : Moves v w) : w.wrap = v.wrap := by
  obtain ⟨s, t, o, x, rfl⟩ := h
  rfl

theorem Moves.sameLayout (h : Moves v w) : SameLayout v w :=
  ⟨⟨h.items, h.width, h.wrap⟩, h.afterHeader⟩

theorem SameLayout.symm (h : SameLayout v w) : SameLayout w v :=
  ⟨⟨h.items.symm, h.width.symm, h.wrap.symm⟩, h.afterHeader.symm⟩

theorem SameLayout.roomy (h : SameLayout v w) (hv : v.Roomy) : w.Roomy :=
  ⟨h.width ▸ hv.width_pos, h.items ▸ hv.items_pos, h.afterHeader ▸ hv.two_le_afterHeader⟩

end Layout

section Layout

variable {v w : Viewport α}

theorem SameRows.numLinesFor (h : SameRows v w) (i : Nat) : w.numLinesFor i = v.numLinesFor i := by
  unfold Viewport.numLinesFor
  rw [h.width, h.items, h.wrap]

theorem SameRows.linesBefore (h : SameRows v w) (t : Nat) : w.linesBefore t = v.linesBefore t := by
  induction t with
  | zero => rfl
  | succ t ih => rw [linesBefore_succ, linesBefore_succ, ih, h.numLinesFor]

theorem SameRows.lineIndex (h : SameRows v w) (p : Nat × Nat) : w.lineIndex p = v.lineIndex p := by
  rw [Viewport.lineIndex, Viewport.lineIndex, h.linesBefore]

theorem SameRows.totalLines (h : SameRows v w) : w.totalLines = v.totalLines := by
  unfold Viewport.totalLines
  rw [h.linesBefore, h.items]

theorem SameLayout.lowestLine (h : SameLayout v w) : w.lowestLine = v.lowestLine := by
  rw [lowestLine_eq, lowestLine_eq, h.afterHeader, h.totalLines]

/-- Two roomy viewports with one layout have one lowest position: the well-placed position at
their one lowest row. -/
theorem SameLayout.maxTop_eq (h : SameLayout v w) (hv : v.Roomy) : w.maxTop = v.maxTop := by
  have hw := h.roomy hv
  have hRv := afterHeader_le_numContentLines_succ v
  have hRw := afterHeader_le_numContentLines_succ w
  have hroom := hv.two_le_afterHeader
  have hroom' := hw.two_le_afterHeader
  have hmw : v.WellPlaced w.maxTop := by
    have hm := wellPlaced_maxTop hw.width_pos hw.items_pos (by omega)
    unfold WellPlaced at hm ⊢
    rwa [h.numLinesFor] at hm
  refine hmw.eq_of_lineIndex_eq (wellPlaced_maxTop hv.width_pos hv.items_pos (by omega)) ?_
  rw [← h.lineIndex, lineIndex_maxTop hw.width_pos, lineIndex_maxTop hv.width_pos, h.lowestLine]

/-- Two viewports that differ only in their selection and position have one lowest row index. -/
theorem Moves.lowestLine (h : Moves v w) : w.lowestLine = v.lowestLine :=
  h.sameLayout.lowestLine

/-- Two viewports that differ only in their selection and position have one lowest position. -/
theorem Moves.maxTop_eq (h : Moves v w) (hw : 0 < v.width) (hn : 0 < v.items.size)
    (hroom : 2 ≤ v.afterHeader) : w.maxTop = v.maxTop :=
  h.sameLayout.maxTop_eq ⟨hw, hn, hroom⟩

end Layout

end Viewport

end LogBrowser
