import LogBrowser.Proofs.Viewport.Bottom
import Mathlib.Data.List.Basic

/-!
# What the footer reads

Without selection the footer tells how far down the content the window reaches: `p% (k/n)`
(`footerText`), where `n` counts the items and `k` the items up to the one of the window's last
row. With wrapping an item may be only partly in view; the footer then reads `99%` for the last
item unless the view is at or past its lowest position.

The window is the run of content rows from `windowStart`, the row its position puts at the top
(`visibleContent_eq_window`), and `rowsBelow` counts the content rows under it. No row is left
below exactly when the window's last row is the last item's last row. At or past the lowest
position no row is left below (`rowsBelow_eq_zero_of_isScrolledToBottom`), so the footer never
reads 100% while rows remain below the window. The converse needs a well-placed position: held
to new limits, a position may keep more rows of its top item scrolled away than the item has, and
the window then starts at the next item and reaches the end while the footer reads 99%
(`footer_misreads_end_after_new_content`). Along every run from a new viewport the top item is an
item while wrapping (`TopOnItem`); without it a top item past the last one would read 100% with
rows left below.
-/

namespace LogBrowser

namespace Viewport

variable {α : Type} [Record α]

/-- The text of the footer: `p% (k/n)`. -/
def footerText (p k n : Nat) : String :=
  toString p ++ "% (" ++ toString k ++ "/" ++ toString n ++ ")"

/-- The row index of the window's first row: the top item, held to the last item, less the rows
of it scrolled away, all of them once the offset passes its rows. -/
def windowStart (v : Viewport α) : Nat :=
  let t := min v.topItem (v.items.size - 1)
  v.linesBefore t + min v.topOffset (v.numLinesFor t)

/-- The content rows below the window. -/
def rowsBelow (v : Viewport α) : Nat :=
  v.totalLines - (v.windowStart + v.visibleContent.1.length)

/-- While wrapping, the top item is one of the items. -/
def TopOnItem (v : Viewport α) : Prop :=
  v.wrap = true → 0 < v.items.size → v.topItem < v.items.size

/-! ## The window as a run of content rows -/

section Window

variable {v : Viewport α}

/-- The content rows are the rows from the top item, held to the last item. -/
theorem visibleContent_fst_min (hw : 0 < v.width) (hn : 0 < v.items.size) :
    v.visibleContent.1 =
      v.rowsFrom v.items.size (min v.topItem (v.items.size - 1)) v.topOffset
        v.numContentLines := by
  have hne := items_isEmpty hn
  unfold numContentLines visibleContent
  simp only [hne, Nat.ne_of_gt hw, decide_false, Bool.or_false, Bool.false_eq_true, if_false]
  split
  · rename_i h0
    simp [h0]
  · -- with a footer the rows are cut to one row fewer
    split
    · simp only [if_true]
      rw [take_rowsFrom, Nat.min_eq_left (Nat.sub_le _ _)]
    · simp only [if_false, Bool.false_eq_true]

/-- The window is the run of `numContentLines` content rows from `windowStart`. -/
theorem visibleContent_eq_window (hw : 0 < v.width) (hn : 0 < v.items.size) :
    v.visibleContent.1 = (v.contentRows.drop v.windowStart).take v.numContentLines := by
  rw [visibleContent_fst_min hw hn, rowsFrom_min_offset,
    rowsFrom_eq_slice v _ _ _ _ (by omega) (Nat.min_le_right _ _)]
  rfl

theorem windowStart_le_totalLines : v.windowStart ≤ v.totalLines := by
  have hs := linesBefore_succ v (min v.topItem (v.items.size - 1))
  have hle := linesBefore_le_totalLines (v := v) (min v.topItem (v.items.size - 1) + 1)
  simp only [windowStart]
  omega

theorem length_visibleContent_eq (hw : 0 < v.width) (hn : 0 < v.items.size) :
    v.visibleContent.1.length = min v.numContentLines (v.totalLines - v.windowStart) := by
  rw [visibleContent_eq_window hw hn, List.length_take, List.length_drop, length_contentRows]

/-- The rows below the window are those the content has past a full window. -/
theorem rowsBelow_eq (hw : 0 < v.width) (hn : 0 < v.items.size) :
    v.rowsBelow = v.totalLines - (v.windowStart + v.numContentLines) := by
  have hlen := length_visibleContent_eq hw hn
  have hle := windowStart_le_totalLines (v := v)
  unfold rowsBelow
  omega

end Window

/-! ## The items of the window's rows -/

section Items

variable (v : Viewport α)

theorem map_item_itemRows (i : Nat) :
    (v.itemRows i).map (·.item) = List.replicate (v.numLinesFor i) i := by
  refine List.eq_replicate_iff.2 ⟨by rw [List.length_map, length_itemRows], ?_⟩
  intro j hj
  obtain ⟨l, hl, rfl⟩ := List.mem_map.1 hj
  exact item_of_mem_itemRows v hl

/-- Without wrapping the content rows are the items, one row each. -/
theorem map_item_contentRows_of_not_wrap (hw : 0 < v.width) (hwrap : v.wrap = false) :
    v.contentRows.map (·.item) = List.range v.items.size := by
  unfold contentRows
  rw [List.map_flatMap]
  calc (List.range v.items.size).flatMap (fun i => (v.itemRows i).map (·.item))
      = (List.range v.items.size).flatMap (fun i => [i]) := by
        refine List.flatMap_congr fun i hi => ?_
        rw [map_item_itemRows, numLinesFor_of_not_wrap hw hwrap (List.mem_range.1 hi)]
        rfl
    _ = List.range v.items.size := List.flatMap_singleton' _

/-- The last content row is the last item's last row. -/
theorem getLast?_contentRows (hw : 0 < v.width) (hn : 0 < v.items.size) :
    v.contentRows.getLast? = (v.itemRows (v.items.size - 1)).getLast? := by
  obtain ⟨m, hm⟩ : ∃ m, v.items.size = m + 1 := ⟨_, (Nat.succ_pred_eq_of_pos hn).symm⟩
  have hne : v.itemRows m ≠ [] := by
    rw [← List.length_pos_iff, length_itemRows]
    exact numLinesFor_pos hw (by omega)
  obtain ⟨l, hl⟩ := Option.ne_none_iff_exists'.1 (mt List.getLast?_eq_none_iff.1 hne)
  unfold contentRows
  rw [hm, List.range_succ, List.flatMap_append, List.flatMap_singleton, List.getLast?_append,
    Nat.add_sub_cancel, hl]
  rfl

end Items

section Last

variable {v : Viewport α} (hw : 0 < v.width) (hn : 0 < v.items.size)
include hw hn

/-- A window with no row below it ends with the last item's last row. -/
theorem item_of_rowsBelow_eq_zero (h : v.rowsBelow = 0) {last : VisibleLine}
    (hl : v.visibleContent.1.getLast? = some last) : last.item = v.items.size - 1 := by
  have hfull : v.totalLines ≤ v.windowStart + v.numContentLines := by
    have := rowsBelow_eq hw hn
    omega
  -- the window takes every row from its start to the end
  have hwin : v.visibleContent.1 = v.contentRows.drop v.windowStart := by
    rw [visibleContent_eq_window hw hn]
    exact List.take_of_length_le (by rw [List.length_drop, length_contentRows]; omega)
  rw [hwin, List.getLast?_drop] at hl
  split at hl
  · simp at hl
  rw [getLast?_contentRows v hw hn] at hl
  exact item_of_mem_itemRows v (List.mem_of_getLast? hl)

/-- Without wrapping the window's last row is the item just above the first row below it. -/
theorem item_add_one_of_not_wrap (hwrap : v.wrap = false) {last : VisibleLine}
    (hl : v.visibleContent.1.getLast? = some last) :
    last.item + 1 = v.windowStart + v.visibleContent.1.length := by
  have hL : v.totalLines = v.items.size := linesBefore_of_not_wrap hw hwrap (Nat.le_refl _)
  have hlen := length_visibleContent_eq hw hn
  rw [hL] at hlen
  have hpos : 0 < v.visibleContent.1.length :=
    List.length_pos_iff.2 fun h => by simp [h] at hl
  -- every row is its item, so the window's rows are a run of item indexes
  have hrun : ((List.range v.items.size).drop v.windowStart).take v.numContentLines =
      List.range' v.windowStart (min v.numContentLines (v.items.size - v.windowStart)) := by
    rw [List.range_eq_range', List.drop_range', Nat.zero_add, Nat.mul_one]
    rcases Nat.le_total (v.items.size - v.windowStart) v.numContentLines with hle | hle
    · rw [List.take_range'_of_length_le hle, Nat.min_eq_right hle]
    · rw [List.take_range'_of_length_ge hle, Nat.min_eq_left hle]
  have hmap : v.visibleContent.1.map (·.item) =
      List.range' v.windowStart v.visibleContent.1.length := by
    rw [hlen, ← hrun, visibleContent_eq_window hw hn, List.map_take, List.map_drop,
      map_item_contentRows_of_not_wrap v hw hwrap]
  have hlast := congrArg List.getLast? hmap
  rw [List.getLast?_map, hl, List.getLast?_range', if_neg (by omega)] at hlast
  simp only [Option.map_some, Option.some.injEq] at hlast
  omega

end Last

/-! ## At the lowest position no row is left below -/

section Bottom

variable {v : Viewport α} (hw : 0 < v.width) (hn : 0 < v.items.size)
  (hR : 0 < v.numContentLines)
include hw hn hR

/-- At or past the lowest position the window starts no higher than the lowest row. -/
theorem lowestLine_le_windowStart (ht : v.topItem < v.items.size)
    (hb : v.isScrolledToBottom = true) : v.lowestLine ≤ v.windowStart := by
  have hm := wellPlaced_maxTop hw hn hR
  have hl := lineIndex_maxTop hw (v := v)
  have hmin : min v.topItem (v.items.size - 1) = v.topItem := Nat.min_eq_left (by omega)
  unfold isScrolledToBottom at hb
  rcases hmt : v.maxTop with ⟨mi, mo⟩
  rw [hmt] at hb hl hm
  unfold WellPlaced at hm
  dsimp only at hm
  rw [lineIndex_mk] at hl
  simp only [Bool.or_eq_true, Bool.and_eq_true, decide_eq_true_eq] at hb
  simp only [windowStart, hmin]
  rcases hb with hlt | ⟨heq, hle⟩
  · -- a later item starts below all rows of the lowest item
    have hmono := linesBefore_mono (v := v) (show mi + 1 ≤ v.topItem by omega)
    have hs := linesBefore_succ v mi
    omega
  · subst heq
    omega

/-- At or past the lowest position no content row is left below the window. -/
theorem rowsBelow_eq_zero_of_isScrolledToBottom (ht : v.topItem < v.items.size)
    (hb : v.isScrolledToBottom = true) : v.rowsBelow = 0 := by
  have hlow := lowestLine_le_windowStart hw hn hR ht hb
  rw [rowsBelow_eq hw hn]
  unfold lowestLine at hlow
  omega

/-- From a well-placed position, a window with no row below it is at or past the lowest
position. -/
theorem isScrolledToBottom_of_rowsBelow_eq_zero (hp : v.WellPlaced v.position)
    (h : v.rowsBelow = 0) : v.isScrolledToBottom = true := by
  have ht : v.topItem < v.items.size := hp.fst_lt
  have ho : v.topOffset < v.numLinesFor v.topItem := hp
  have hmin : min v.topItem (v.items.size - 1) = v.topItem := Nat.min_eq_left (by omega)
  have hstart : v.windowStart = v.lineIndex v.position := by
    simp only [windowStart, hmin, lineIndex, position, Nat.min_eq_left (Nat.le_of_lt ho)]
  rw [isScrolledToBottom_iff hw (wellPlaced_maxTop hw hn hR) hp, ← hstart]
  have := rowsBelow_eq hw hn
  unfold lowestLine
  omega

end Bottom

/-- Without selection a footer reads the items up to the window's last row, and `99%` for a
last item that wraps past the window. -/
theorem footer_eq_footerText {v : Viewport α} (hsel : v.selectionEnabled = false) {f : String}
    (hf : v.footer = some f) :
    ∃ last, v.visibleContent.2 = true ∧ v.visibleContent.1.getLast? = some last ∧
      f = footerText
        (if v.wrap = true ∧ last.item + 1 = v.items.size ∧ v.isScrolledToBottom = false then 99
          else (last.item + 1) * 100 / max v.items.size 1)
        (last.item + 1) v.items.size := by
  unfold footer at hf
  rcases hvc : v.visibleContent with ⟨rows, shown⟩
  rw [hvc] at hf
  cases shown with
  | false => simp at hf
  | true =>
    cases hl : rows.getLast? with
    | none => simp [hl] at hf
    | some last =>
      refine ⟨last, rfl, rfl, ?_⟩
      simp only [hl, hsel, Bool.not_true, Bool.false_eq_true, if_false, Bool.not_false,
        Bool.true_and] at hf
      -- the footer's pieces, joined as `footerText` joins them
      have hsign : ∀ t : String, "%" ++ (" (" ++ t) = "% (" ++ t := fun t => by
        rw [← String.append_assoc, show "%" ++ " (" = "% (" by decide]
      have h99 : "99%" = toString 99 ++ "%" := by decide
      unfold footerText
      split at hf
      · rename_i hc
        simp only [Bool.and_eq_true, decide_eq_true_eq, Bool.not_eq_true'] at hc
        rw [if_pos ⟨hc.1.1, hc.1.2, hc.2⟩, ← Option.some.inj hf, h99]
        simp only [String.append_assoc, hsign]
      · rename_i hc
        simp only [Bool.and_eq_true, decide_eq_true_eq, Bool.not_eq_true', not_and] at hc
        rw [if_neg (fun h => hc ⟨h.1, h.2.1⟩ h.2.2), ← Option.some.inj hf]
        simp only [String.append_assoc, hsign]

/-! ## While wrapping the top item is an item -/

section TopOnItem

variable {v : Viewport α}

theorem walkUp_fst_le (v : Viewport α) (t u : Nat) : (v.walkUp t u).1 ≤ t := by
  induction t generalizing u with
  | zero => simp [walkUp]
  | succ t ih =>
      simp only [walkUp]
      split
      · exact Nat.le_succ t
      · exact Nat.le_succ_of_le (ih _)

/-- While wrapping, the lowest position is on an item: the last one, or one it climbs to. -/
theorem maxTop_fst_lt (hwrap : v.wrap = true) (hn : 0 < v.items.size) :
    v.maxTop.1 < v.items.size := by
  unfold maxTop
  simp only [Nat.ne_of_gt hn, if_false, hwrap, Bool.not_true, Bool.false_eq_true]
  split
  · omega
  · rw [climb_eq_walkUp]
    have := walkUp_fst_le v (v.items.size - 1)
      (v.numContentLines - v.numLinesFor (v.items.size - 1))
    omega

theorem topOnItem_safelySetTop (v : Viewport α) (item offset : Nat) :
    TopOnItem (v.safelySetTop item offset) := by
  intro hwrap hn
  have hm := moves_safelySetTop v item offset
  rw [hm.wrap] at hwrap
  rw [hm.items] at hn ⊢
  have hlt := maxTop_fst_lt hwrap hn
  rcases hmt : v.maxTop with ⟨mi, mo⟩
  rw [hmt] at hlt
  simp only [safelySetTop, hmt]
  omega

theorem TopOnItem.safelySetXOffset (h : TopOnItem v) (n : Nat) :
    TopOnItem (v.safelySetXOffset n) := h

theorem TopOnItem.scrollBy (h : TopOnItem v) (k : Int) : TopOnItem (v.scrollBy k) := by
  unfold Viewport.scrollBy
  split
  · exact h
  split
  · exact h
  split
  · exact h
  rcases v.shifted k with ⟨item, offset⟩
  exact (topOnItem_safelySetTop v item offset).safelySetXOffset _

theorem TopOnItem.scrollToIndex (h : TopOnItem v) (index : Nat) :
    TopOnItem (v.scrollToIndex index) := by
  unfold Viewport.scrollToIndex
  split
  · exact topOnItem_safelySetTop v 0 0
  rename_i hne
  extract_lets index' linesInItem inView atItem w
  -- the item scrolled to is one of the items
  have hat : TopOnItem atItem := fun _ _ => by
    simp only [atItem, index', Array.isEmpty_iff_size_eq_zero] at hne ⊢
    omega
  have hw : TopOnItem w ∧ Moves v w := by
    simp only [w]
    split
    · split
      · exact ⟨hat.scrollBy _, (moves_top v _ 0).trans (moves_scrollBy _ _)⟩
      · exact ⟨hat, moves_top v _ 0⟩
    · exact ⟨h, Moves.refl v⟩
  split
  · -- the scroll is undone: back to the old position, over the same items and wrapping
    intro hwrap hn
    show v.topItem < w.items.size
    rw [hw.2.items] at hn ⊢
    exact h (hw.2.wrap ▸ hwrap) hn
  · exact hw.1

theorem TopOnItem.setSelectedIndex (h : TopOnItem v) (index : Nat) :
    TopOnItem (v.setSelectedIndex index) := by
  unfold Viewport.setSelectedIndex
  split
  · exact h
  split
  · exact h
  · exact (show TopOnItem { v with selected := min index (v.items.size - 1) } from h).scrollToIndex
      _

theorem TopOnItem.navigate (h : TopOnItem v) (n : Navigation) : TopOnItem (v.navigate n) :=
  navigate_of v n h h.scrollBy (fun _ hw i => hw.setSelectedIndex i) (fun _ hn => hn)
    (topOnItem_safelySetTop v _ _) h.safelySetXOffset

theorem TopOnItem.restoreSelectionRow (h : TopOnItem v) (row : Nat) :
    TopOnItem (v.restoreSelectionRow row) := by
  unfold Viewport.restoreSelectionRow
  split
  split
  · exact h.scrollBy _
  · exact h

/-- New content holds the position to the new items, whatever the position was. -/
theorem topOnItem_setContent [BEq α] (v : Viewport α) (items : Array α) :
    TopOnItem (v.setContent items) := by
  unfold Viewport.setContent
  extract_lets row len stayTop stayBottom previous w₀ w₁ w₂ w₃ w₄
  have h₂ : TopOnItem w₂ := (topOnItem_safelySetTop w₀ _ _).safelySetXOffset _
  split
  · exact h₂
  split
  · exact (show TopOnItem { w₂ with selected := w₂.items.size - 1 } from h₂).scrollToIndex _
  have h₃ : TopOnItem w₃ := by
    simp only [w₃]
    split
    · exact h₂
    split
    · exact h₂
    · exact h₂
  exact ((show TopOnItem w₄ from h₃).scrollToIndex _).restoreSelectionRow row

theorem topOnItem_setWrap (v : Viewport α) (b : Bool) : TopOnItem (v.setWrap b) := by
  unfold Viewport.setWrap
  extract_lets row w₀ w₁ w₂
  exact topOnItem_safelySetTop w₂ _ _

theorem TopOnItem.setDimensions (h : TopOnItem v) (width height : Nat) :
    TopOnItem (v.setDimensions width height) := by
  unfold Viewport.setDimensions
  extract_lets w₀ w₁
  split
  · exact h
  · exact topOnItem_safelySetTop w₁ _ _

theorem TopOnItem.perform [BEq α] (h : TopOnItem v) (r : Request α) : TopOnItem (v.perform r) := by
  cases r with
  | setContent items => exact topOnItem_setContent v items
  | setWrap wrap => exact topOnItem_setWrap v wrap
  | setSelectedIndex index => exact h.setSelectedIndex index
  | scrollToIndex index => exact h.scrollToIndex index
  | setDimensions width height => exact h.setDimensions width height
  | navigate nav => exact h.navigate nav
  | _ => exact h

theorem topOnItem_foldl_perform [BEq α] (width height : Nat) (rs : List (Request α)) :
    TopOnItem (rs.foldl perform (new width height : Viewport α)) := by
  -- the run from any viewport whose top item is an item while wrapping
  suffices h : ∀ v : Viewport α, TopOnItem v → TopOnItem (rs.foldl perform v) from
    h _ fun _ hn => hn
  induction rs with
  | nil => exact fun _ h => h
  | cons r rs ih => exact fun v h => ih _ (h.perform r)

end TopOnItem

/-- A share of the items short of all of them reads under 100%. -/
theorem percent_lt_hundred {k n : Nat} (hn : 0 < n) (hk : k < n) : k * 100 / n < 100 :=
  (Nat.div_lt_iff_lt_mul hn).2 (by omega)

/-- A share of the items reads 100% exactly when it is all of them. -/
theorem percent_eq_hundred_iff {k n : Nat} (hn : 0 < n) (hk : k ≤ n) :
    k * 100 / n = 100 ↔ k = n := by
  constructor
  · intro h
    by_contra hne
    have hlt := percent_lt_hundred hn (Nat.lt_of_le_of_ne hk hne)
    omega
  · rintro rfl
    exact Nat.mul_div_cancel_left 100 hn

/-- Along every run from a new viewport, the footer of a window without selection reads
`p% (k/n)`: `k` counts the items through the one of the window's last row, `n` all the items,
and `p` is 100 or `min 99 ⌊100k/n⌋`. It reads 100% only when no content row is left below the
window, and it does whenever none is left below a window at a well-placed position. -/
theorem footer_reads_last_row [BEq α] (width height : Nat) (rs : List (Request α)) :
    let v := rs.foldl perform (new width height)
    v.selectionEnabled = false → 0 < v.width → ∀ f, v.footer = some f →
      ∃ last p, v.visibleLines.getLast? = some last ∧ 1 ≤ last.item + 1 ∧
        last.item + 1 ≤ v.items.size ∧ f = footerText p (last.item + 1) v.items.size ∧
        (p = 100 ∨ p = min 99 ((last.item + 1) * 100 / v.items.size)) ∧
        (p = 100 → v.rowsBelow = 0) ∧
        (v.rowsBelow = 0 → (v.wrap = true → v.WellPlaced v.position) → p = 100) := by
  intro v hsel hw f hf
  have htop : TopOnItem v := topOnItem_foldl_perform width height rs
  obtain ⟨last, -, hl, rfl⟩ := footer_eq_footerText hsel hf
  have hlt : last.item < v.items.size := item_lt_of_mem_visibleContent (List.mem_of_getLast? hl)
  have hn : 0 < v.items.size := by omega
  have hR : 0 < v.numContentLines := by
    have hpos : 0 < v.visibleContent.1.length := List.length_pos_iff.2 fun h => by simp [h] at hl
    have := length_visibleContent_eq hw hn
    omega
  have hfull := percent_eq_hundred_iff hn (show last.item + 1 ≤ v.items.size by omega)
  -- a window with no row below it ends with the last item
  have hend : v.rowsBelow = 0 → last.item + 1 = v.items.size := fun h => by
    have := item_of_rowsBelow_eq_zero hw hn h hl
    omega
  -- without wrapping the last item in view is the last item only when nothing is below
  have hflat : v.wrap = false → last.item + 1 = v.items.size → v.rowsBelow = 0 := fun hwrap hk => by
    have hL : v.totalLines = v.items.size := linesBefore_of_not_wrap hw hwrap (Nat.le_refl _)
    have := item_add_one_of_not_wrap hw hn hwrap hl
    unfold rowsBelow
    omega
  rw [Nat.max_eq_left hn]
  refine ⟨v.drawRow last,
    if v.wrap = true ∧ last.item + 1 = v.items.size ∧ v.isScrolledToBottom = false then 99
      else (last.item + 1) * 100 / v.items.size,
    by rw [visibleLines_eq_map, List.getLast?_map, hl]; rfl, ?_⟩
  rw [item_drawRow]
  refine ⟨by omega, by omega, rfl, ?_, ?_, ?_⟩
  · split
    · rename_i hc
      rw [hc.2.1, (percent_eq_hundred_iff hn (Nat.le_refl _)).2 rfl]
      exact Or.inr rfl
    · by_cases hk : last.item + 1 = v.items.size
      · exact Or.inl (hfull.2 hk)
      · have hlow := percent_lt_hundred hn (show last.item + 1 < v.items.size by omega)
        exact Or.inr (Nat.min_eq_right (by omega)).symm
  · split
    · intro h
      omega
    · rename_i hc
      intro h
      have hk := hfull.1 h
      cases hwrap : v.wrap with
      | false => exact hflat hwrap hk
      | true =>
          -- with wrapping a full reading means the view is at or past the lowest position
          have hb : v.isScrolledToBottom = true := by
            cases hb : v.isScrolledToBottom with
            | true => rfl
            | false => exact absurd ⟨hwrap, hk, hb⟩ hc
          exact rowsBelow_eq_zero_of_isScrolledToBottom hw hn hR (htop hwrap hn) hb
  · intro h hwp
    have hk := hend h
    rw [if_neg, hfull.2 hk]
    rintro ⟨hwrap, -, hb⟩
    rw [isScrolledToBottom_of_rowsBelow_eq_zero hw hn hR (hwp hwrap) h] at hb
    exact Bool.noConfusion hb

/-- One wrapped item of twelve letters in a window four columns wide with two rows for content:
the footer reads `99% (1/1)`, since the item's last row is below the window. -/
theorem footer_reads_last_row_wrapped :
    let rs : List (Request String) := [.setWrap true, .setContent #["abcdefghijkl"]]
    let v := rs.foldl perform (new 4 3)
    v.selectionEnabled = false ∧ 0 < v.width ∧ v.footer = some "99% (1/1)" ∧
      ∃ last p, v.visibleLines.getLast? = some last ∧ 1 ≤ last.item + 1 ∧
        last.item + 1 ≤ v.items.size ∧ "99% (1/1)" = footerText p (last.item + 1) v.items.size ∧
        (p = 100 ∨ p = min 99 ((last.item + 1) * 100 / v.items.size)) ∧
        (p = 100 → v.rowsBelow = 0) ∧
        (v.rowsBelow = 0 → (v.wrap = true → v.WellPlaced v.position) → p = 100) := by
  intro rs v
  have hsel : v.selectionEnabled = false := by decide
  have hw : 0 < v.width := by decide
  have hf : v.footer = some "99% (1/1)" := by decide
  exact ⟨hsel, hw, hf, footer_reads_last_row 4 3 rs hsel hw _ hf⟩

/-- New content can leave the end in view while the footer reads 99%. A wrapped item of three
rows scrolled to its last row, with one row for content, is replaced by two items of one row:
the position keeps two rows of the new first item scrolled away, though it has one, so the
window starts at the second item and shows it, the last row, while the footer reads 99%. -/
theorem footer_misreads_end_after_new_content :
    let rs : List (Request String) :=
      [.setWrap true, .setContent #["abcdefghijkl"], .navigate .bottom, .setContent #["a", "b"]]
    let v := rs.foldl perform (new 4 2)
    v.selectionEnabled = false ∧ v.visibleLines = [⟨1, "b"⟩] ∧ v.rowsBelow = 0 ∧
      ¬v.WellPlaced v.position ∧ v.footer = some "99% (2/2)" := by
  decide

end Viewport

end LogBrowser
