import LogBrowser.Proofs.Viewport.Rows
import LogBrowser.Proofs.Viewport.Range

/-!
# New content keeps the selection on its screen row

`setContent` remembers the screen row of the selected item's first row, replaces the items,
holds the old scroll position to the new limits, scrolls the newly selected item into view, and
then scrolls by the difference between the row the item is on and the row it was on. In row
indexes that last scroll aims at `linesBefore s - r` for the selected item `s` and the old row
`r`; held between the first row and the lowest one it lands there, so the item's first row is on
row `r` again, above it when the view reached the first position, and below it when the view
reached the lowest one (`restoreSelectionRow_lands`).

Three things must hold for that: the scroll into view must leave a well-placed position no lower
than the lowest one with the item's first row in the window (`scrollToIndex_showsFirstRow`),
the position held to the new limits must be well placed, and the last scroll must not stop short
of the lowest position. Without wrapping the last two always hold, because no row of an item is
ever scrolled away (`OffsetFree`, `OffsetFree.showsFirstRow_placedFor`), so new content keeps
the selection's row (`setContent_keeps_selection_row`, stated with `KeepsRow`). With wrapping
both can fail: the held position can keep an offset past the rows of the new top item, and the
last scroll can stop short as any scroll down can (`setContent_moves_selection_row`).
-/

namespace LogBrowser

namespace Viewport

variable {α : Type} [Record α]

/-! ## Without wrapping no row of an item is scrolled away -/

/-- Without wrapping the top item shows from its first row: every item is one row. -/
def OffsetFree (v : Viewport α) : Prop := v.wrap = false → v.topOffset = 0

section OffsetFree

variable {v : Viewport α}

theorem offsetFree_safelySetTop (v : Viewport α) {item offset : Nat}
    (h : v.wrap = false → offset = 0) : OffsetFree (v.safelySetTop item offset) := by
  intro hwrap
  simp only [safelySetTop]
  split <;> simp [h hwrap]

theorem OffsetFree.safelySetXOffset (h : OffsetFree v) (n : Nat) :
    OffsetFree (v.safelySetXOffset n) := h

theorem OffsetFree.scrollBy (h : OffsetFree v) (k : Int) : OffsetFree (v.scrollBy k) := by
  rcases hsh : v.shifted k with ⟨item, offset⟩
  -- without wrapping the shifted position keeps the offset the view had
  have ho : v.wrap = false → offset = 0 := by
    intro hwrap
    rw [shifted_of_not_wrap hwrap, Prod.mk.injEq] at hsh
    rw [← hsh.2]
    exact h hwrap
  unfold Viewport.scrollBy
  split
  · exact h
  split
  · exact h
  split
  · exact h
  rw [hsh]
  exact (offsetFree_safelySetTop v ho).safelySetXOffset _

theorem OffsetFree.scrollToIndex (h : OffsetFree v) (index : Nat) :
    OffsetFree (v.scrollToIndex index) := by
  unfold Viewport.scrollToIndex
  split
  · exact offsetFree_safelySetTop v fun _ => rfl
  extract_lets index' linesInItem inView atItem w
  have hat : OffsetFree atItem := fun _ => rfl
  have hw : OffsetFree w ∧ Moves v w := by
    simp only [w]
    split
    · split
      · exact ⟨hat.scrollBy _, (moves_top v _ 0).trans (moves_scrollBy _ _)⟩
      · exact ⟨hat, moves_top v _ 0⟩
    · exact ⟨h, Moves.refl v⟩
  split
  · -- the scroll is undone: back to the old position, under the same wrapping
    intro hwrap
    exact h (hw.2.wrap ▸ hwrap)
  · exact hw.1

theorem OffsetFree.setSelectedIndex (h : OffsetFree v) (index : Nat) :
    OffsetFree (v.setSelectedIndex index) := by
  unfold Viewport.setSelectedIndex
  split
  · exact h
  split
  · exact h
  · exact (show OffsetFree { v with selected := min index (v.items.size - 1) } from h).scrollToIndex _

theorem OffsetFree.navigate (h : OffsetFree v) (n : Navigation) : OffsetFree (v.navigate n) :=
  navigate_of v n h h.scrollBy (fun _ hw i => hw.setSelectedIndex i) (fun _ => rfl)
    -- without wrapping the lowest position has no offset
    (offsetFree_safelySetTop v fun hwrap => by simp [maxTop, hwrap]; split <;> rfl)
    h.safelySetXOffset

theorem OffsetFree.setContent [BEq α] (h : OffsetFree v) (items : Array α) :
    OffsetFree (v.setContent items) := by
  unfold Viewport.setContent
  extract_lets row len stayTop stayBottom previous w₀ w₁ w₂ w₃ w₄
  have h₂ : OffsetFree w₂ :=
    (offsetFree_safelySetTop w₀ fun hwrap => h hwrap).safelySetXOffset _
  split
  · exact h₂
  split
  · exact (show OffsetFree { w₂ with selected := w₂.items.size - 1 } from h₂).scrollToIndex _
  have h₃ : OffsetFree w₃ := by
    simp only [w₃]
    split
    · exact h₂
    split
    · exact h₂
    · exact h₂
  have h₅ : OffsetFree w₄.scrollSelectionIntoView :=
    (show OffsetFree w₄ from h₃).scrollToIndex _
  unfold restoreSelectionRow
  split
  split
  · exact h₅.scrollBy _
  · exact h₅

theorem OffsetFree.setWrap (v : Viewport α) (b : Bool) : OffsetFree (v.setWrap b) := by
  unfold Viewport.setWrap
  extract_lets row w₀ w₁ w₂
  -- the position starts from the first row of the top item, and only scrolls follow
  have h₀ : OffsetFree w₀ := fun _ => rfl
  have h₂ : OffsetFree w₂ := by
    simp only [w₂]
    split
    · split
      · exact ((h₀.scrollToIndex _).scrollBy _).scrollToIndex _
      · exact h₀.scrollToIndex _
    · exact h₀
  exact offsetFree_safelySetTop w₂ fun hwrap => h₂ hwrap

theorem OffsetFree.setDimensions (h : OffsetFree v) (width height : Nat) :
    OffsetFree (v.setDimensions width height) := by
  unfold Viewport.setDimensions
  extract_lets w₀ w₁
  have h₀ : OffsetFree w₀ := h
  split
  · exact h₀
  have h₁ : OffsetFree w₁ := by
    simp only [w₁]
    split
    · exact h₀.scrollToIndex _
    · exact h₀
  exact offsetFree_safelySetTop w₁ fun hwrap => h₁ hwrap

theorem OffsetFree.perform [BEq α] (h : OffsetFree v) (r : Request α) : OffsetFree (v.perform r) := by
  cases r with
  | setContent items => exact h.setContent items
  | setWrap wrap => exact OffsetFree.setWrap v wrap
  | setSelectedIndex index => exact h.setSelectedIndex index
  | scrollToIndex index => exact h.scrollToIndex index
  | setDimensions width height => exact h.setDimensions width height
  | navigate nav => exact h.navigate nav
  | _ => exact h

theorem offsetFree_foldl_perform [BEq α] (width height : Nat) (rs : List (Request α)) :
    OffsetFree (rs.foldl perform (new width height : Viewport α)) := by
  -- the run from any viewport whose top item shows from its first row
  suffices h : ∀ v : Viewport α, OffsetFree v → OffsetFree (rs.foldl perform v) from
    h _ fun _ => rfl
  induction rs with
  | nil => exact fun _ h => h
  | cons r rs ih => exact fun v h => ih _ (h.perform r)

end OffsetFree

/-! ## The scrolls that place the selected item -/

/-- The row of the selection that new content restores is the first row of the selected item. -/
theorem selectionRow_of_findIdx? {v : Viewport α} (he : v.selectionEnabled = true) {r : Nat}
    (h : v.visibleLines.findIdx? (·.item = v.selected) = some r) : v.selectionRow = r := by
  rw [findIdx?_visibleLines] at h
  obtain ⟨hr, hsel, -⟩ := List.findIdx?_eq_some_iff_getElem.1 h
  have hpos : 0 < (v.visibleContent.1.filter (·.item = v.selected)).length :=
    List.length_pos_of_mem (List.mem_filter.2 ⟨List.getElem_mem hr, hsel⟩)
  simp [selectionRow, selectionInView, he, h, hpos]

/-- Every row of the window belongs to an item. -/
theorem item_lt_of_mem_rowsFrom (v : Viewport α) {l : VisibleLine} :
    ∀ {fuel i o room : Nat}, l ∈ v.rowsFrom fuel i o room → l.item < v.items.size
  | 0, _, _, _, h => by simp [rowsFrom] at h
  | fuel + 1, i, o, room, h => by
      unfold rowsFrom at h
      split at h
      · simp at h
      split at h
      · simp at h
      rename_i it hit
      rcases List.mem_append.1 h with hl | hl
      · obtain ⟨t, -, rfl⟩ := List.mem_map.1 hl
        exact (Array.getElem?_eq_some_iff.1 hit).1
      · exact item_lt_of_mem_rowsFrom v hl

theorem item_lt_of_mem_visibleContent {v : Viewport α} {l : VisibleLine}
    (h : l ∈ v.visibleContent.1) : l.item < v.items.size := by
  unfold visibleContent at h
  split at h
  · simp at h
  dsimp only at h
  split at h
  · simp at h
  split at h
  · exact item_lt_of_mem_rowsFrom v (List.mem_of_mem_take h)
  · exact item_lt_of_mem_rowsFrom v h

/-- An item with a row in the window is an item, and the row is above the room's last row. -/
theorem lt_of_findIdx?_visibleLines {v : Viewport α} {j r : Nat}
    (h : v.visibleLines.findIdx? (·.item = j) = some r) :
    j < v.items.size ∧ r + 1 < v.afterHeader := by
  rw [findIdx?_visibleLines] at h
  obtain ⟨hr, hj, -⟩ := List.findIdx?_eq_some_iff_getElem.1 h
  have hj : v.visibleContent.1[r].item = j := by simpa using hj
  have hroom : 0 < v.afterHeader := by
    rcases Nat.eq_zero_or_pos v.afterHeader with h0 | h0
    · have hnil : v.visibleContent.1 = [] := by
        unfold visibleContent
        split
        · rfl
        · dsimp only
          rw [if_pos h0]
      simp [hnil] at hr
    · exact h0
  have hlen := length_visibleContent_lt v hroom
  exact ⟨hj ▸ item_lt_of_mem_visibleContent (List.getElem_mem hr), by omega⟩

/-- The view stands at a well-placed position no lower than the lowest one, and the selected
item's first row is in its window. -/
structure ShowsFirstRow (w : Viewport α) : Prop where
  wellPlaced : w.WellPlaced w.position
  le_lowest : w.lineIndex w.position ≤ w.lowestLine
  top_le : w.lineIndex w.position ≤ w.linesBefore w.selected
  lt_bottom : w.linesBefore w.selected < w.lineIndex w.position + w.numContentLines

/-- What `ShowsFirstRow` reads of a viewport is its rows, its room, its position and its
selection, so it carries over from `u` to a viewport that differs from `u` only in position. -/
theorem ShowsFirstRow.of_moves {u x : Viewport α} (hm : Moves u x) (hsel : x.selected = u.selected)
    (hp : u.WellPlaced x.position) (hle : u.lineIndex x.position ≤ u.lowestLine)
    (htop : u.lineIndex x.position ≤ u.linesBefore u.selected)
    (hbot : u.linesBefore u.selected < u.lineIndex x.position + x.numContentLines) :
    x.ShowsFirstRow := by
  refine ⟨(hm.wellPlaced_iff _).2 hp, ?_, ?_, ?_⟩
  · rw [hm.lineIndex, hm.lowestLine]
    exact hle
  · rw [hm.lineIndex, hsel, hm.linesBefore]
    exact htop
  · rw [hm.lineIndex, hsel, hm.linesBefore]
    exact hbot

/-- The selected item shows from the row its first row is on. -/
theorem ShowsFirstRow.findIdx? {w : Viewport α} (h : w.ShowsFirstRow) (hw : 0 < w.width)
    (hnl : 0 < w.numLinesFor w.selected) :
    w.visibleContent.1.findIdx? (·.item = w.selected) =
      some (w.linesBefore w.selected - w.lineIndex w.position) := by
  have hs1 := linesBefore_succ w w.selected
  have htop := h.top_le
  have hbot := h.lt_bottom
  rw [findIdx?_visibleContent hw h.wellPlaced, if_pos (by omega), Nat.max_eq_left htop]

theorem ShowsFirstRow.count_ne_zero {w : Viewport α} (h : w.ShowsFirstRow) (hw : 0 < w.width)
    (hnl : 0 < w.numLinesFor w.selected) :
    (w.visibleContent.1.filter (·.item = w.selected)).length ≠ 0 := by
  have hs1 := linesBefore_succ w w.selected
  have htop := h.top_le
  have hbot := h.lt_bottom
  rw [count_visibleContent hw h.wellPlaced]
  omega

/-- The selected item's first row is on row `r` of the window, or above it with the view at the
first position, or below it with the view at the lowest one. -/
def KeepsRow (w : Viewport α) (r : Nat) : Prop :=
  w.visibleLines.findIdx? (·.item = w.selected) = some r ∨
    (w.position = (0, 0) ∧ ∃ r' < r, w.visibleLines.findIdx? (·.item = w.selected) = some r') ∨
    (w.position = w.maxTop ∧ ∃ r', r < r' ∧ w.visibleLines.findIdx? (·.item = w.selected) = some r')

section Place

variable {u : Viewport α} (hw : 0 < u.width) (hroom : 2 ≤ u.afterHeader)
include hw hroom

/-- Putting the selected item at the top shows its first row, when that row is no lower than
the lowest one. -/
theorem showsFirstRow_atTop {i : Nat} (hi : u.selected = i) (hs : i < u.items.size)
    (hle : u.linesBefore i ≤ u.lowestLine) :
    ({ u with topItem := i, topOffset := 0 } : Viewport α).ShowsFirstRow := by
  subst hi
  have hm : Moves u { u with topItem := u.selected, topOffset := 0 } := moves_top u u.selected 0
  have hli : u.lineIndex ({ u with topItem := u.selected, topOffset := 0 } : Viewport α).position =
      u.linesBefore u.selected := Nat.add_zero _
  have hR := afterHeader_le_numContentLines_succ
    ({ u with topItem := u.selected, topOffset := 0 } : Viewport α)
  rw [hm.afterHeader] at hR
  refine ShowsFirstRow.of_moves hm rfl (numLinesFor_pos hw hs) ?_ ?_ ?_ <;> omega

/-- Raising the selected item from below the window until its last row is at the bottom shows
its first row. -/
theorem showsFirstRow_raised {i : Nat} (hi : u.selected = i) (hs : i < u.items.size)
    (h0 : i ≠ 0) :
    let x : Viewport α := { u with topItem := i, topOffset := 0 }
    (x.scrollBy (-((x.numContentLines - u.numLinesFor i : Nat) : Int))).ShowsFirstRow := by
  subst hi
  intro x
  have hn : 0 < u.items.size := by omega
  have hnl := numLinesFor_pos hw hs
  have hs1 := linesBefore_succ u u.selected
  have hsL : u.linesBefore (u.selected + 1) ≤ u.totalLines := linesBefore_le_totalLines _
  have hlow : u.lowestLine = u.totalLines - (u.afterHeader - 1) := lowestLine_eq u
  have hm : Moves u x := moves_top u u.selected 0
  -- away from the first item the footer shows, so the room is one row short
  have hR : x.numContentLines = u.afterHeader - 1 := by
    rw [← hm.afterHeader]
    exact numContentLines_of_topItem_ne_zero x (hm.width ▸ hw) (hm.items ▸ hn) h0
  -- the scroll up lands where row arithmetic says
  obtain ⟨hps, hl⟩ := scrollUp_from_first_row x hw (hm.afterHeader ▸ hroom) hs rfl
  have hxt : x.topItem = u.selected := rfl
  rw [hm.lineIndex, hm.linesBefore, hm.numLinesFor, scrollUp, hxt] at hl
  rw [hm.numLinesFor, scrollUp, hxt] at hps
  have hmu := moves_scrollBy x (-((x.numContentLines - u.numLinesFor u.selected : Nat) : Int))
  have hRs := afterHeader_le_numContentLines_succ
    (x.scrollBy (-((x.numContentLines - u.numLinesFor u.selected : Nat) : Int)))
  rw [hmu.afterHeader, hm.afterHeader] at hRs
  refine ShowsFirstRow.of_moves (hm.trans hmu) (selected_scrollBy _ _) ((hm.wellPlaced_iff _).1 hps)
    ?_ ?_ ?_ <;> omega

/-- Scrolling the selected item into view from a well-placed position no lower than the lowest
one leaves such a position, with the item's first row in the window. -/
theorem scrollToIndex_showsFirstRow (hp : u.WellPlaced u.position)
    (hle : u.lineIndex u.position ≤ u.lowestLine) (hs : u.selected < u.items.size) :
    (u.scrollToIndex u.selected).ShowsFirstRow := by
  have hn : 0 < u.items.size := by omega
  have hnl := numLinesFor_pos hw hs
  have hs1 := linesBefore_succ u u.selected
  have hsL : u.linesBefore (u.selected + 1) ≤ u.totalLines := linesBefore_le_totalLines _
  have hlow : u.lowestLine = u.totalLines - (u.afterHeader - 1) := lowestLine_eq u
  unfold scrollToIndex
  rw [if_neg (by simp [items_isEmpty hn])]
  extract_lets index linesInItem inView atItem w₁
  have hindex : u.selected = index := (Nat.min_eq_left (by omega)).symm
  have hlines : linesInItem = u.numLinesFor index := by
    simp only [linesInItem]
    split
    · rfl
    · rename_i hwrap
      rw [numLinesFor_of_not_wrap hw (by simpa using hwrap) (hindex ▸ hs)]
  -- the scroll towards the item keeps the selection and leaves its first row in view
  have h₁ : Moves u w₁ ∧ w₁.selected = u.selected ∧ w₁.ShowsFirstRow := by
    simp only [w₁]
    split
    · split
      · -- from above: raised until its last row is at the bottom
        rename_i hbelow
        rw [scrollUp, hlines]
        exact ⟨(moves_top u index 0).trans (moves_scrollBy _ _), selected_scrollBy _ _,
          showsFirstRow_raised hw hroom hindex (hindex ▸ hs) (by omega)⟩
      · -- from below or at it: put at the top
        rename_i habove
        have hmono : u.linesBefore index ≤ u.linesBefore u.topItem := linesBefore_mono (by omega)
        simp only [lineIndex_position] at hle
        exact ⟨moves_top u index 0, rfl,
          showsFirstRow_atTop hw hroom hindex (hindex ▸ hs) (by omega)⟩
    · -- all its rows were in view already, so its first row is
      rename_i hsame
      have hcount := count_visibleContent hw hp u.selected
      have heq : linesInItem = inView := Decidable.not_not.1 hsame
      simp only [inView, hlines, ← hindex] at heq
      rw [hcount] at heq
      refine ⟨Moves.refl u, rfl, hp, hle, ?_, ?_⟩ <;> omega
  obtain ⟨hm₁, hsel₁, hshows⟩ := h₁
  -- the selection is in view, so the scroll is kept
  have hnl₁ : 0 < w₁.numLinesFor w₁.selected := by rw [hm₁.numLinesFor, hsel₁]; exact hnl
  rw [if_neg (by simp [selectionInView, hshows.count_ne_zero (hm₁.width ▸ hw) hnl₁])]
  exact hshows

omit hroom in
/-- From a view that shows the selected item's first row, restoring it to row `r` scrolls by the
row it shows from, less `r`. -/
theorem ShowsFirstRow.restoreSelectionRow_eq (h : u.ShowsFirstRow) (hs : u.selected < u.items.size)
    (r : Nat) : u.restoreSelectionRow r =
      u.scrollBy (((u.linesBefore u.selected - u.lineIndex u.position : Nat) : Int) - r) := by
  have hnl := numLinesFor_pos hw hs
  have habove : u.selectionInView.2 = u.linesBefore u.selected - u.lineIndex u.position := by
    simp only [selectionInView]
    rw [h.findIdx? hw hnl]
    rfl
  have hcount : 0 < u.selectionInView.1 := Nat.pos_of_ne_zero (h.count_ne_zero hw hnl)
  simp only [restoreSelectionRow]
  rw [if_pos hcount, habove]

/-- Scrolling the selected item's first row back to row `r`: from a view that shows that row,
the scroll lands where row arithmetic says unless it stops short, and the row is then `r`, or
less at the first position, or more at the lowest one. -/
theorem restoreSelectionRow_lands (h : u.ShowsFirstRow) (hs : u.selected < u.items.size)
    {r : Nat} (hr : r + 1 < u.afterHeader)
    (hns : ¬u.StopsShort (((u.linesBefore u.selected - u.lineIndex u.position : Nat) : Int) - r)) :
    let w := u.restoreSelectionRow r
    w.selected = u.selected ∧ w.KeepsRow r := by
  intro w
  have hn : 0 < u.items.size := by omega
  have hnl := numLinesFor_pos hw hs
  have hs1 := linesBefore_succ u u.selected
  have hsL : u.linesBefore (u.selected + 1) ≤ u.totalLines := linesBefore_le_totalLines _
  have hRu := afterHeader_le_numContentLines_succ u
  have hlow : u.lowestLine = u.totalLines - (u.afterHeader - 1) := lowestLine_eq u
  have htop := h.top_le
  have hbot := h.lt_bottom
  -- the restore scrolls by the row the item shows from, less `r`
  obtain ⟨k, hk⟩ : ∃ k : Int,
      k = ((u.linesBefore u.selected - u.lineIndex u.position : Nat) : Int) - r := ⟨_, rfl⟩
  have hw' : w = u.scrollBy k := by rw [hk]; exact h.restoreSelectionRow_eq hw hs r
  -- the scroll lands on the row aimed at, held between the first row and the lowest one
  obtain ⟨hmt, hml, hps, hiff⟩ := scrollBy_lineIndex_iff hw hn (by omega) h.wellPlaced h.le_lowest k
  have hl := hiff.2 (hk ▸ hns)
  have hm := moves_scrollBy u k
  rw [← hw'] at hps hl hm
  have hsel : w.selected = u.selected := hw' ▸ selected_scrollBy u k
  have hRw := afterHeader_le_numContentLines_succ w
  rw [hm.afterHeader] at hRw
  -- wherever it lands, the item's first row is still in the window
  have hshows : w.ShowsFirstRow := ShowsFirstRow.of_moves hm hsel hps (by omega) (by omega)
    (by omega)
  have hrow := hshows.findIdx? (hm.width ▸ hw) (by rw [hm.numLinesFor, hsel]; exact hnl)
  rw [hsel, hm.linesBefore, hm.lineIndex] at hrow
  refine ⟨hsel, ?_⟩
  unfold KeepsRow
  rw [findIdx?_visibleLines, hsel, hrow]
  by_cases htop : u.linesBefore u.selected < r
  · -- aimed above the first row: the view is at the first position
    have h0 : u.lineIndex w.position = 0 := by omega
    exact Or.inr (Or.inl ⟨hps.eq_of_lineIndex_eq (numLinesFor_pos hw hn) h0, _, by omega, rfl⟩)
  by_cases hlowest : u.linesBefore u.selected - r ≤ u.lowestLine
  · -- the row aimed at is reached, and the first row of the item is on row `r`
    exact Or.inl (congrArg some (by omega))
  · -- aimed past the lowest position: the view is there, and the row is lower than `r`
    have hat : u.lineIndex w.position = u.lowestLine := by omega
    have hmax : w.position = w.maxTop := by
      rw [hm.maxTop_eq hw hn hroom]
      exact hps.eq_of_lineIndex_eq hmt (by rw [hat, hml])
    exact Or.inr (Or.inr ⟨hmax, _, by omega, rfl⟩)

end Place

/-! ## New content -/

/-- Without wrapping, holding any item at its first row to the limits leaves a well-placed
position no lower than the lowest one. -/
theorem safelySetTop_of_not_wrap {v : Viewport α} (hw : 0 < v.width) (hn : 0 < v.items.size)
    (hR : 0 < v.numContentLines) (hwrap : v.wrap = false) (item : Nat) :
    v.WellPlaced (v.safelySetTop item 0).position ∧
      v.lineIndex (v.safelySetTop item 0).position ≤ v.lowestLine := by
  have hm := wellPlaced_maxTop hw hn hR
  have hmi : v.maxTop.1 = v.lowestLine := by
    rw [← lineIndex_maxTop hw, hm.lineIndex_of_not_wrap hw hwrap]
  by_cases hlt : item < v.maxTop.1
  · rw [position_safelySetTop_of_lt 0 hlt]
    have hi : item < v.items.size := Nat.lt_trans hlt hm.fst_lt
    refine ⟨numLinesFor_pos hw hi, ?_⟩
    rw [lineIndex_mk, linesBefore_of_not_wrap hw hwrap (Nat.le_of_lt hi)]
    omega
  · have hmt : (v.maxTop.1, min 0 v.maxTop.2) = v.maxTop :=
      Prod.ext rfl (by rw [Nat.zero_min, hm.snd_eq_zero_of_not_wrap hw hwrap])
    rw [position_safelySetTop_of_le 0 (Nat.le_of_not_lt hlt), hmt]
    exact ⟨hm, Nat.le_of_eq (lineIndex_maxTop hw)⟩

section Content

variable [BEq α]

/-- The item `setContent` selects when neither sticky end holds the selection: under
`maintainSelection` the first new item equal to the old selected one (the first item when there
is none), otherwise the old index held to the new items. -/
def followedSelection (v : Viewport α) (items : Array α) : Nat :=
  if v.maintainSelection then (v.items[v.selected]?.bind fun x => items.findIdx? (· == x)).getD 0
  else min v.selected (items.size - 1)

/-- The viewport `setContent` scrolls from: the new items under the old position held to their
limits, with the followed item selected. -/
def placedFor (v : Viewport α) (items : Array α) : Viewport α :=
  { (({ v with items := items } : Viewport α).safelySetTop v.topItem v.topOffset).safelySetXOffset
      v.xOffset with selected := v.followedSelection items }

omit [Record α] in
/-- A found index is an index, so holding it to the new items changes nothing. -/
theorem min_getD_bind_findIdx? (items : Array α) (o : Option α) :
    min ((o.bind fun x => items.findIdx? (· == x)).getD 0) (items.size - 1) =
      (o.bind fun x => items.findIdx? (· == x)).getD 0 := by
  cases o with
  | none => exact Nat.zero_min _
  | some x =>
      cases h : items.findIdx? (· == x) with
      | none =>
          simp only [Option.bind_some, h, Option.getD_none]
          exact Nat.zero_min _
      | some i =>
          have hi := (Array.findIdx?_eq_some_iff_getElem.1 h).1
          simp only [Option.bind_some, h, Option.getD_some]
          omega

omit [Record α] in
theorem followedSelection_lt (v : Viewport α) {items : Array α} (hn : 0 < items.size) :
    v.followedSelection items < items.size := by
  unfold followedSelection
  split
  · rw [← min_getD_bind_findIdx?]
    omega
  · omega

/-- Away from both sticky ends, `setContent` selects the followed item at the held position,
scrolls it into view and puts its first row back on the row it was on. -/
theorem setContent_of_not_sticky (v : Viewport α) (items : Array α)
    (he : v.selectionEnabled = true) (hs : v.selected < v.items.size)
    (hnt : ¬(v.topSticky = true ∧ v.selected = 0))
    (hnb : ¬(v.bottomSticky = true ∧ v.selected = v.items.size - 1)) :
    v.setContent items =
      (v.placedFor items).scrollSelectionIntoView.restoreSelectionRow v.selectionRow := by
  unfold setContent
  extract_lets row len stayTop stayBottom previous w₀ w₁ w₂ w₃ w₄
  have hTop : stayTop = false := by
    simp only [stayTop, Bool.and_eq_false_iff, decide_eq_false_iff_not]
    by_cases ht : v.topSticky = true <;> simp_all
  have hBottom : stayBottom = false := by
    have hne : ¬(v.bottomSticky = true ∧ (v.items.size = 0 ∨ v.selected = v.items.size - 1)) := by
      rintro ⟨hb, hlen | hsel⟩
      · omega
      · exact hnb ⟨hb, hsel⟩
    simpa [stayBottom, len, hTop, he] using hne
  have he₂ : w₂.selectionEnabled = true :=
    ((moves_safelySetTop w₀ _ _).trans (moves_safelySetXOffset _ _)).selectionEnabled.trans he
  rw [if_neg (by simp [he₂]), if_neg (by simp [hBottom])]
  -- the selection placed is the followed item, already held to the new items
  have h₄ : w₄ = v.placedFor items := by
    simp only [w₄, w₃, hTop, Bool.false_eq_true, if_false]
    by_cases hm : v.maintainSelection = true
    · have hprev : previous = v.items[v.selected]? := by simp [previous, he, hTop, hBottom, hm]
      simp only [w₂, w₁, w₀, safelySetXOffset, safelySetTop, hm, if_true, hprev,
        min_getD_bind_findIdx?, placedFor, followedSelection]
    · simp only [w₂, w₁, w₀, safelySetXOffset, safelySetTop, hm, Bool.false_eq_true, if_false,
        placedFor, followedSelection]
  rw [h₄]

theorem moves_placedFor (v : Viewport α) (items : Array α) :
    Moves { v with items := items } (v.placedFor items) :=
  ((moves_safelySetTop _ _ _).trans (moves_safelySetXOffset _ _)).trans (moves_select _ _)

/-- Without wrapping, the item selected among the new items, scrolled into view from the held
position, shows its first row. -/
theorem OffsetFree.showsFirstRow_placedFor {v : Viewport α} (items : Array α) (hfree : OffsetFree v)
    (hwrap : v.wrap = false) (hw : 0 < v.width) (hroom : 2 ≤ v.afterHeader) (hn : 0 < items.size) :
    ((v.placedFor items).scrollToIndex (v.placedFor items).selected).ShowsFirstRow := by
  let w₀ : Viewport α := { v with items := items }
  have hm₀ := moves_placedFor v items
  have hroom₀ : 2 ≤ w₀.afterHeader := hroom
  have hR₀ : 0 < w₀.numContentLines := by
    have := afterHeader_le_numContentLines_succ w₀
    omega
  -- the held position is well placed among the new items, and no lower than the lowest one
  obtain ⟨hp₀, hle₀⟩ := safelySetTop_of_not_wrap (show 0 < w₀.width from hw) hn hR₀ hwrap v.topItem
  rw [← hfree hwrap] at hp₀ hle₀
  have hpos : (v.placedFor items).position = (w₀.safelySetTop v.topItem v.topOffset).position := rfl
  have hsel : (v.placedFor items).selected < (v.placedFor items).items.size := by
    rw [hm₀.items]
    exact followedSelection_lt v hn
  exact scrollToIndex_showsFirstRow (hm₀.width ▸ hw) (hm₀.afterHeader ▸ hroom₀)
    ((hm₀.wellPlaced_iff _).2 (hpos ▸ hp₀)) (by rw [hm₀.lineIndex, hm₀.lowestLine, hpos]; exact hle₀)
    hsel

/-- Without wrapping, new content keeps the selected item's first row on the row it was on,
unless the view reaches the first or the lowest position first. -/
theorem setContent_keepsRow_of_offsetFree {v : Viewport α} (items : Array α) (hfree : OffsetFree v)
    (hwrap : v.wrap = false) (he : v.selectionEnabled = true) (hw : 0 < v.width)
    (hroom : 2 ≤ v.afterHeader) {r : Nat} (hr : v.visibleLines.findIdx? (·.item = v.selected) = some r)
    (hn : 0 < items.size) (hnt : ¬(v.topSticky = true ∧ v.selected = 0))
    (hnb : ¬(v.bottomSticky = true ∧ v.selected = v.items.size - 1)) :
    let w := v.setContent items
    w.selected = v.followedSelection items ∧ w.KeepsRow r := by
  intro w
  obtain ⟨hs, hr1⟩ := lt_of_findIdx?_visibleLines hr
  have hw_eq : w = (v.placedFor items).scrollSelectionIntoView.restoreSelectionRow r := by
    rw [← selectionRow_of_findIdx? he hr]
    exact setContent_of_not_sticky v items he hs hnt hnb
  rw [hw_eq]
  -- the scroll into view keeps the items, the room and the selection
  have hm := (moves_placedFor v items).trans (moves_scrollToIndex _ (v.placedFor items).selected)
  have hsel₁ := selected_scrollToIndex (v.placedFor items) (v.placedFor items).selected
  have hwrap₁ : ((v.placedFor items).scrollToIndex (v.placedFor items).selected).wrap = false :=
    hm.wrap.trans hwrap
  obtain ⟨hsel₂, hkeep⟩ := restoreSelectionRow_lands (hm.width ▸ hw) (hm.afterHeader ▸ hroom)
    (hfree.showsFirstRow_placedFor items hwrap hw hroom hn)
    (by rw [hsel₁, hm.items]; exact followedSelection_lt v hn)
    (by rw [hm.afterHeader]; exact hr1) (fun hss => absurd hss.1 (by rw [hwrap₁]; decide))
  exact ⟨hsel₂.trans hsel₁, hkeep⟩

/-- In every run from a new viewport with wrapping off, new content that no sticky end holds
selects the followed item and keeps its first row on the row the old selection's was on, unless
the view reaches the first or the lowest position first. -/
theorem setContent_keeps_selection_row (width height : Nat) (rs : List (Request α))
    (items : Array α) {r : Nat} :
    let v := rs.foldl perform (new width height)
    v.wrap = false → v.selectionEnabled = true → 0 < v.width → 2 ≤ v.afterHeader →
      v.visibleLines.findIdx? (·.item = v.selected) = some r → 0 < items.size →
      ¬(v.topSticky = true ∧ v.selected = 0) →
      ¬(v.bottomSticky = true ∧ v.selected = v.items.size - 1) →
      (v.setContent items).selected = v.followedSelection items ∧ (v.setContent items).KeepsRow r := by
  intro v hwrap he hw hroom hr hn hnt hnb
  exact setContent_keepsRow_of_offsetFree items (offsetFree_foldl_perform width height rs) hwrap
    he hw hroom hr hn hnt hnb

/-- A run meeting the conditions of `setContent_keeps_selection_row`: six items, the fourth
selected and followed into three new items. -/
theorem setContent_keeps_selection_row_followed :
    let v := ([.setSelectionEnabled true, .setMaintainSelection true,
      .setContent #["a", "b", "c", "d", "e", "f"], .setSelectedIndex 3] : List (Request String)).foldl
        perform (new 20 5)
    (v.wrap = false ∧ v.selectionEnabled = true ∧ 0 < v.width ∧ 2 ≤ v.afterHeader ∧
      v.visibleLines.findIdx? (·.item = v.selected) = some 3 ∧ 0 < (#["x", "d", "y"] : Array String).size ∧
      ¬(v.topSticky = true ∧ v.selected = 0) ∧
      ¬(v.bottomSticky = true ∧ v.selected = v.items.size - 1)) ∧
    ((v.setContent #["x", "d", "y"]).selected = v.followedSelection #["x", "d", "y"] ∧
      (v.setContent #["x", "d", "y"]).KeepsRow 3) := by
  intro v
  have h : v.wrap = false ∧ v.selectionEnabled = true ∧ 0 < v.width ∧ 2 ≤ v.afterHeader ∧
      v.visibleLines.findIdx? (·.item = v.selected) = some 3 ∧ 0 < (#["x", "d", "y"] : Array String).size ∧
      ¬(v.topSticky = true ∧ v.selected = 0) ∧
      ¬(v.bottomSticky = true ∧ v.selected = v.items.size - 1) := by decide
  obtain ⟨h₁, h₂, h₃, h₄, h₅, h₆, h₇, h₈⟩ := h
  exact ⟨⟨h₁, h₂, h₃, h₄, h₅, h₆, h₇, h₈⟩,
    setContent_keeps_selection_row 20 5 _ #["x", "d", "y"] h₁ h₂ h₃ h₄ h₅ h₆ h₇ h₈⟩

/-- With wrapping the row is not kept: five items at width four, the first one three rows long,
the second selected on the window's second row; after new one-row items the second is on the
first row, with the view neither at the first nor at the lowest position. -/
theorem setContent_moves_selection_row :
    let v := ([.setSelectionEnabled true, .setWrap true,
      .setContent #["abcdefghijkl", "b", "c", "d", "e"], .setSelectedIndex 2,
      .setSelectedIndex 1] : List (Request String)).foldl perform (new 4 4)
    let w := v.setContent #["a", "b", "c", "d", "e"]
    v.visibleLines.findIdx? (·.item = v.selected) = some 1 ∧ w.selected = 1 ∧
      w.visibleLines.findIdx? (·.item = w.selected) = some 0 ∧ w.position ≠ (0, 0) ∧
      w.position ≠ w.maxTop := by
  decide

end Content

end Viewport

end LogBrowser
