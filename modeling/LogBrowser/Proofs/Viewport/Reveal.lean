import LogBrowser.Proofs.Viewport.Rows

/-!
# Scrolling an item fully into view

Stacking the rows of every item one after another gives the rows of the whole content,
`contentRows`, and item `i` holds the run of them from `linesBefore i` to `linesBefore (i + 1)`
(`drop_contentRows_succ`). The window is the run of `numContentLines` rows from the position's
row index (`visibleContent_eq_slice`), each drawn as the window draws it (`visibleLines_eq_map`).
So the window holds every row of an item, as one run, exactly when the item's run lies inside the
window's (`drawnRows_infix_iff`), and that is also when the count of the item's rows in view,
which `scrollToIndex` compares, is all of them.

Without selection, `scrollToIndex` scrolls no further than it must to show an item that fits
under a footer. An item shown whole leaves the view as it is; an item at or above the top item
is put first in the window; an item below comes up until its last row is the window's last
(`scrollToIndex_reveals`). An index past the last item scrolls to the last item.
-/

namespace LogBrowser

namespace Viewport

variable {α : Type} [Record α]

/-- The rows of item `i`, before any panning; none past the last item. -/
def itemRows (v : Viewport α) (i : Nat) : List VisibleLine :=
  match v.items[i]? with
  | none => []
  | some it => (v.itemLines it).map fun t => { item := i, text := t }

/-- The rows of all the items, one item after another. -/
def contentRows (v : Viewport α) : List VisibleLine :=
  (List.range v.items.size).flatMap v.itemRows

/-- A content row as the window draws it: as wrapped, or panned to the horizontal offset. -/
def drawRow (v : Viewport α) (l : VisibleLine) : VisibleLine :=
  if v.wrap then l else { l with text := Text.pan l.text v.xOffset v.width }

/-- The rows of item `i` as the window draws them. -/
def drawnRows (v : Viewport α) (i : Nat) : List VisibleLine := (v.itemRows i).map v.drawRow

section Content

variable (v : Viewport α)

theorem length_itemRows (i : Nat) : (v.itemRows i).length = v.numLinesFor i := by
  unfold itemRows
  cases hi : v.items[i]? with
  | none => exact (numLinesFor_eq_zero (Array.getElem?_eq_none_iff.1 hi)).symm
  | some it => rw [List.length_map, length_itemLines v hi]

theorem item_of_mem_itemRows {i : Nat} {l : VisibleLine} (h : l ∈ v.itemRows i) : l.item = i := by
  unfold itemRows at h
  split at h
  · simp at h
  · obtain ⟨t, -, rfl⟩ := List.mem_map.1 h
    rfl

omit [Record α] in
@[simp] theorem item_drawRow (l : VisibleLine) : (v.drawRow l).item = l.item := by
  unfold drawRow
  split <;> rfl

theorem length_flatMap_itemRows (t : Nat) :
    ((List.range t).flatMap v.itemRows).length = v.linesBefore t := by
  induction t with
  | zero => rfl
  | succ t ih =>
      rw [List.range_succ, List.flatMap_append, List.length_append, ih, List.flatMap_singleton,
        length_itemRows, linesBefore_succ]

theorem length_contentRows : v.contentRows.length = v.totalLines :=
  length_flatMap_itemRows v _

/-- The content rows from the first row of item `t` on are the rows of the items from `t`. -/
theorem drop_contentRows (t : Nat) :
    v.contentRows.drop (v.linesBefore t) =
      (List.range' t (v.items.size - t)).flatMap v.itemRows := by
  by_cases ht : t ≤ v.items.size
  · -- the items before `t` hold exactly the rows dropped
    have hsplit := @List.range'_append_1 0 t (v.items.size - t)
    rw [Nat.zero_add, Nat.add_sub_cancel' ht, ← List.range_eq_range', ← List.range_eq_range']
      at hsplit
    unfold contentRows
    rw [← hsplit, List.flatMap_append, List.drop_left' (length_flatMap_itemRows v t)]
  · rw [linesBefore_of_size_le (Nat.le_of_not_le ht), ← length_contentRows,
      List.drop_length, Nat.sub_eq_zero_of_le (Nat.le_of_not_le ht)]
    rfl

/-- From the first row of item `t`, the content rows are the item's rows and then the rows
from the next item's first. -/
theorem drop_contentRows_succ (t : Nat) :
    v.contentRows.drop (v.linesBefore t) =
      v.itemRows t ++ v.contentRows.drop (v.linesBefore (t + 1)) := by
  rw [drop_contentRows, drop_contentRows]
  by_cases ht : t < v.items.size
  · rw [show v.items.size - t = v.items.size - (t + 1) + 1 by omega, List.range'_succ,
      List.flatMap_cons]
  · -- past the last item there is nothing left
    have hnil : v.itemRows t = [] := by
      rw [← List.length_eq_zero_iff, length_itemRows, numLinesFor_eq_zero (Nat.le_of_not_lt ht)]
    rw [Nat.sub_eq_zero_of_le (Nat.le_of_not_lt ht),
      Nat.sub_eq_zero_of_le (Nat.le_succ_of_le (Nat.le_of_not_lt ht)), hnil]
    rfl

/-- The rows from item `t`, less `o` of its rows, with `room` rows: a run of the content rows. -/
theorem rowsFrom_eq_slice (fuel t o room : Nat) (hfuel : v.items.size ≤ fuel + t)
    (ho : o ≤ v.numLinesFor t) :
    v.rowsFrom fuel t o room = (v.contentRows.drop (v.linesBefore t + o)).take room := by
  induction fuel generalizing t o room with
  | zero =>
      rw [← List.drop_drop, drop_contentRows, Nat.sub_eq_zero_of_le (by omega)]
      simp [rowsFrom]
  | succ fuel ih =>
      by_cases hroom : room = 0
      · simp [hroom]
      cases hi : v.items[t]? with
      | none =>
          rw [← List.drop_drop, drop_contentRows,
            Nat.sub_eq_zero_of_le (Array.getElem?_eq_none_iff.1 hi)]
          simp [rowsFrom, hroom, hi]
      | some it =>
          have hrows : v.itemRows t = (v.itemLines it).map fun s => { item := t, text := s } := by
            unfold itemRows
            rw [hi]
          have hlen : (v.itemLines it).length = v.numLinesFor t := length_itemLines v hi
          simp only [rowsFrom, hroom, hi, if_false]
          rw [ih (t + 1) 0 _ (by omega) (Nat.zero_le _), Nat.add_zero, ← List.drop_drop,
            drop_contentRows_succ v t, hrows,
            List.drop_append_of_le_length (by rw [List.length_map, hlen]; exact ho),
            List.take_append, ← List.map_drop, ← List.map_take]
          simp only [List.length_map, List.length_take, List.length_drop, hlen]
          -- the room left after item `t` is the same either way
          congr 2
          omega

end Content

section Slices

variable (v : Viewport α)

/-- From a row at or before item `i`'s first, the content rows run up to the item, then through
its rows, then on. -/
theorem drop_contentRows_of_le {L i : Nat} (hL : L ≤ v.linesBefore i) :
    v.contentRows.drop L =
      (v.contentRows.drop L).take (v.linesBefore i - L) ++
        (v.itemRows i ++ v.contentRows.drop (v.linesBefore (i + 1))) := by
  conv => lhs; rw [← List.take_append_drop (v.linesBefore i - L) (v.contentRows.drop L)]
  rw [List.drop_drop, Nat.add_sub_cancel' hL, drop_contentRows_succ v i]

theorem length_take_drop_contentRows {L i : Nat} (hL : L ≤ v.linesBefore i) :
    ((v.contentRows.drop L).take (v.linesBefore i - L)).length = v.linesBefore i - L := by
  have htot := linesBefore_le_totalLines (v := v) i
  rw [List.length_take, List.length_drop, length_contentRows]
  omega

/-- A run of content rows that starts at or before item `i`'s first row and ends at or after its
last holds all the item's rows, as one run. -/
theorem itemRows_infix_slice {L R i : Nat} (hL : L ≤ v.linesBefore i)
    (hR : v.linesBefore (i + 1) ≤ L + R) :
    v.itemRows i <:+: (v.contentRows.drop L).take R := by
  have hs := linesBefore_succ v i
  have hI := length_itemRows v i
  have hA := length_take_drop_contentRows v hL
  rw [drop_contentRows_of_le v hL]
  generalize (v.contentRows.drop L).take (v.linesBefore i - L) = A at hA ⊢
  -- the window takes the rows before the item and all the item's rows
  rw [List.take_append, List.take_of_length_le (l := A) (by omega), List.take_append,
    List.take_of_length_le (l := v.itemRows i) (by omega)]
  exact List.infix_append' _ _ _

/-- A run from item `i`'s first row with room for its rows starts with them. -/
theorem itemRows_prefix_slice {R i : Nat} (hR : v.numLinesFor i ≤ R) :
    v.itemRows i <+: (v.contentRows.drop (v.linesBefore i)).take R := by
  rw [drop_contentRows_succ, List.take_append,
    List.take_of_length_le (by rw [length_itemRows]; exact hR)]
  exact List.prefix_append _ _

/-- A run that ends with item `i`'s last row and starts at or before its first ends with its
rows. -/
theorem itemRows_suffix_slice {L R i : Nat} (hL : L ≤ v.linesBefore i)
    (hR : L + R = v.linesBefore (i + 1)) :
    v.itemRows i <:+ (v.contentRows.drop L).take R := by
  have hs := linesBefore_succ v i
  have hA := length_take_drop_contentRows v hL
  rw [drop_contentRows_of_le v hL, ← List.append_assoc,
    List.take_left' (by rw [List.length_append, hA, length_itemRows]; omega)]
  exact List.suffix_append _ _

end Slices

theorem visibleLines_eq_map (v : Viewport α) :
    v.visibleLines = v.visibleContent.1.map v.drawRow := by
  unfold visibleLines drawRow
  cases v.wrap <;> simp

/-- Drawing keeps the item of every row, so the window counts an item's rows as it holds them. -/
theorem count_visibleLines (v : Viewport α) (j : Nat) :
    (v.visibleLines.filter (·.item = j)).length =
      (v.visibleContent.1.filter (·.item = j)).length := by
  rw [visibleLines_eq_map, List.filter_map, List.length_map]
  simp only [Function.comp_def, item_drawRow]

section Window

variable {v : Viewport α} (hw : 0 < v.width)
include hw

/-- The content rows of a window at a well-placed position are the run of `numContentLines`
content rows from its row index. -/
theorem visibleContent_eq_slice (hp : v.WellPlaced v.position) :
    v.visibleContent.1 = (v.contentRows.drop (v.lineIndex v.position)).take v.numContentLines := by
  rw [visibleContent_fst v hw hp.fst_lt,
    rowsFrom_eq_slice v v.items.size v.topItem v.topOffset _ (by omega) (Nat.le_of_lt hp)]
  rfl

/-- The window holds every row of item `i`, as one run, exactly when the item's rows lie between
the window's first row and its end. -/
theorem drawnRows_infix_iff (hp : v.WellPlaced v.position) {i : Nat} (hi : i < v.items.size) :
    v.drawnRows i <:+: v.visibleLines ↔
      v.lineIndex v.position ≤ v.linesBefore i ∧
        v.linesBefore (i + 1) ≤ v.lineIndex v.position + v.numContentLines := by
  constructor
  · intro h
    -- every drawn row of the item is one of the window's rows of the item
    have hall : (v.drawnRows i).filter (·.item = i) = v.drawnRows i := by
      refine List.filter_eq_self.2 fun l hl => ?_
      obtain ⟨l', hl', rfl⟩ := List.mem_map.1 hl
      simp [item_of_mem_itemRows v hl']
    have hle := (h.filter (·.item = i)).length_le
    rw [hall, count_visibleLines, count_visibleContent hw hp, drawnRows, List.length_map,
      length_itemRows] at hle
    have hpos := numLinesFor_pos hw hi
    have hs := linesBefore_succ v i
    omega
  · rintro ⟨hL, hR⟩
    rw [visibleLines_eq_map, visibleContent_eq_slice hw hp]
    exact (itemRows_infix_slice v hL hR).map v.drawRow

end Window

/-- Away from the first row the footer shows and takes a row. -/
theorem numContentLines_of_position_ne (v : Viewport α) (hw : 0 < v.width)
    (hn : 0 < v.items.size) (hpos : v.position ≠ (0, 0)) :
    v.numContentLines = v.afterHeader - 1 := by
  have hne := items_isEmpty hn
  have hat : (v.topItem = 0 && v.topOffset = 0) = false := by
    simp only [position, ne_eq, Prod.mk.injEq, not_and] at hpos
    simpa using hpos
  unfold numContentLines visibleContent
  simp only [hne, Nat.ne_of_gt hw, hat, decide_false, Bool.or_false, Bool.false_eq_true, if_false,
    Bool.not_false, Bool.true_or, if_true]
  -- with no room both counts are zero
  by_cases h0 : v.afterHeader = 0 <;> simp [h0]

section Scroll

variable {v : Viewport α}

/-- Every index past the last item scrolls to the last item. -/
theorem scrollToIndex_of_size_le (v : Viewport α) {j : Nat} (hj : v.items.size ≤ j) :
    v.scrollToIndex j = v.scrollToIndex (v.items.size - 1) := by
  unfold scrollToIndex
  rw [Nat.min_eq_right (show v.items.size - 1 ≤ j by omega), Nat.min_self]

/-- Without selection, scrolling to an item does what the count of its rows in view says: nothing
when all are in view; otherwise it puts the item at the top and, coming from above, scrolls back
up by the rows for content less the item's rows. -/
theorem scrollToIndex_of_lt (hw : 0 < v.width) (hsel : v.selectionEnabled = false) {i : Nat}
    (hi : i < v.items.size) :
    v.scrollToIndex i =
      if v.numLinesFor i ≠ (v.visibleContent.1.filter (·.item = i)).length then
        if v.topItem < i then
          ({ v with topItem := i, topOffset := 0 } : Viewport α).scrollUp
            (({ v with topItem := i, topOffset := 0 } : Viewport α).numContentLines -
              v.numLinesFor i)
        else { v with topItem := i, topOffset := 0 }
      else v := by
  have hne := items_isEmpty (Nat.lt_of_le_of_lt (Nat.zero_le _) hi)
  have hindex : min i (v.items.size - 1) = i := Nat.min_eq_left (by omega)
  have hlines : (if v.wrap then v.numLinesFor i else 1) = v.numLinesFor i := by
    split
    · rfl
    · rename_i hwrap
      rw [numLinesFor_of_not_wrap hw (by simpa using hwrap) hi]
  unfold scrollToIndex
  rw [if_neg (by simp [hne])]
  extract_lets index linesInItem inView atItem w
  -- with selection off, the undo back to the old position never applies
  have hwsel : w.selectionEnabled = false := by
    simp only [w]
    split
    · split
      · exact (moves_scrollBy _ _).selectionEnabled.trans hsel
      · exact hsel
    · exact hsel
  rw [if_neg (by simp [hwsel])]
  simp only [w, atItem, inView, linesInItem, index, hindex, hlines]

/-- Putting item `i` at the top shows all its rows first, when they fit under a footer. -/
theorem drawnRows_prefix_atItem (hw : 0 < v.width) {i : Nat} (hi : i < v.items.size)
    (hfit : v.numLinesFor i ≤ v.afterHeader - 1) :
    let x : Viewport α := { v with topItem := i, topOffset := 0 }
    x.drawnRows i <+: x.visibleLines := by
  intro x
  have hm : Moves v x := moves_top v i 0
  have hp : x.WellPlaced x.position := by
    show 0 < x.numLinesFor i
    rw [hm.numLinesFor]
    exact numLinesFor_pos hw hi
  have hR := afterHeader_le_numContentLines_succ x
  rw [hm.afterHeader] at hR
  have hL : x.lineIndex x.position = x.linesBefore i := rfl
  rw [visibleLines_eq_map, visibleContent_eq_slice (v := x) hw hp, hL]
  exact (itemRows_prefix_slice x (by rw [hm.numLinesFor]; omega)).map x.drawRow

/-- From above, item `i` put at the top and then scrolled up by the rows for content less its
rows ends the window with all its rows, once its last row lies below the first window's worth of
rows under a footer. -/
theorem drawnRows_suffix_scrollUp (hw : 0 < v.width) (hroom : 2 ≤ v.afterHeader) {i : Nat}
    (hi : i < v.items.size) (h0 : i ≠ 0) (hfit : v.numLinesFor i ≤ v.afterHeader - 1)
    (hbelow : v.afterHeader - 1 < v.linesBefore (i + 1)) :
    let x : Viewport α := { v with topItem := i, topOffset := 0 }
    let u := x.scrollUp (x.numContentLines - v.numLinesFor i)
    u.drawnRows i <:+ u.visibleLines := by
  intro x u
  have hn : 0 < v.items.size := by omega
  have hm : Moves v x := moves_top v i 0
  have hmu : Moves v u := hm.trans (moves_scrollBy _ _)
  -- away from the first item the footer shows
  have hRx : x.numContentLines = v.afterHeader - 1 := by
    rw [numContentLines_of_topItem_ne_zero x hw hn h0, hm.afterHeader]
  have hs := linesBefore_succ v i
  obtain ⟨hup, hl⟩ : x.WellPlaced u.position ∧
      x.lineIndex u.position = x.linesBefore i - (x.numContentLines - v.numLinesFor i) :=
    scrollUp_from_first_row x hw (hm.afterHeader ▸ hroom) hi rfl
  -- the scroll lands where the item's last row is the last of a window under a footer
  have hT : u.lineIndex u.position = v.linesBefore (i + 1) - (v.afterHeader - 1) := by
    rw [hmu.lineIndex, ← hm.lineIndex, hl, hm.linesBefore, hRx]
    omega
  have hup' : u.WellPlaced u.position := (hmu.wellPlaced_iff _).2 ((hm.wellPlaced_iff _).1 hup)
  have hRu : u.numContentLines = v.afterHeader - 1 := by
    rw [numContentLines_of_position_ne u (hmu.width ▸ hw) (hmu.items ▸ hn), hmu.afterHeader]
    intro h0u
    rw [h0u, lineIndex_mk, linesBefore_zero] at hT
    omega
  rw [visibleLines_eq_map, visibleContent_eq_slice (hmu.width ▸ hw) hup']
  refine (itemRows_suffix_slice u ?_ ?_).map u.drawRow
  · rw [hT, hmu.linesBefore]
    omega
  · rw [hT, hRu, hmu.linesBefore]
    omega

end Scroll

/-- Without selection, scrolling to an item that fits under a footer shows all its rows, as one
run, and scrolls no further than it must. An item shown whole leaves the view as it is.
Otherwise, coming from above, the item's rows end the window; from at or below it, they start
it. An index past the last item scrolls to the last item. -/
theorem scrollToIndex_reveals (v : Viewport α) (hsel : v.selectionEnabled = false)
    (hw : 0 < v.width) (hroom : 2 ≤ v.afterHeader) (hp : v.WellPlaced v.position) {i : Nat}
    (hi : i < v.items.size) (hfit : v.numLinesFor i ≤ v.afterHeader - 1) :
    let w := v.scrollToIndex i
    w.drawnRows i <:+: w.visibleLines ∧
      (v.drawnRows i <:+: v.visibleLines → w = v) ∧
      (¬v.drawnRows i <:+: v.visibleLines →
        (v.topItem < i → w.drawnRows i <:+ w.visibleLines) ∧
          (i ≤ v.topItem → w.drawnRows i <+: w.visibleLines)) ∧
      ∀ j, v.items.size ≤ j → v.scrollToIndex j = v.scrollToIndex (v.items.size - 1) := by
  intro w
  have hshown := drawnRows_infix_iff hw hp hi
  have hcount := count_visibleContent hw hp i
  have hpos := numLinesFor_pos hw hi
  have hs := linesBefore_succ v i
  have hw_eq : w = _ := scrollToIndex_of_lt hw hsel hi
  -- the count the scroll compares is all the item's rows exactly when they are shown
  have hcmp : v.numLinesFor i = (v.visibleContent.1.filter (·.item = i)).length ↔
      v.drawnRows i <:+: v.visibleLines := by
    rw [hshown, hcount]
    omega
  have hkeep : v.drawnRows i <:+: v.visibleLines → w = v := by
    intro h
    rw [hw_eq, if_neg (Classical.not_not.2 (hcmp.2 h))]
  have hmove : ¬v.drawnRows i <:+: v.visibleLines →
      (v.topItem < i → w.drawnRows i <:+ w.visibleLines) ∧
        (i ≤ v.topItem → w.drawnRows i <+: w.visibleLines) := by
    intro hnot
    have hne : v.numLinesFor i ≠ (v.visibleContent.1.filter (·.item = i)).length :=
      fun h => hnot (hcmp.1 h)
    constructor
    · intro hlt
      -- the window starts above the item, so its end falls short of the item's last row
      have hbelow : v.afterHeader - 1 < v.linesBefore (i + 1) := by
        have hL := hp.lineIndex_lt
        have hmono := linesBefore_mono (v := v) (show v.topItem + 1 ≤ i by omega)
        have hR := afterHeader_le_numContentLines_succ v
        rw [hshown] at hnot
        simp only [position] at hL hnot
        omega
      rw [hw_eq, if_pos hne, if_pos hlt]
      exact drawnRows_suffix_scrollUp hw hroom hi (by omega) hfit hbelow
    · intro hle
      rw [hw_eq, if_pos hne, if_neg (Nat.not_lt.2 hle)]
      exact drawnRows_prefix_atItem hw hi hfit
  refine ⟨?_, hkeep, hmove, fun j hj => scrollToIndex_of_size_le v hj⟩
  by_cases h : v.drawnRows i <:+: v.visibleLines
  · rw [hkeep h]
    exact h
  · rcases Nat.lt_or_ge v.topItem i with hlt | hle
    · exact ((hmove h).1 hlt).isInfix
    · exact ((hmove h).2 hle).isInfix

/-- A wrapped item half in view at the foot of the window is brought up until its last row is the
window's last: two letters, eight letters wrapped four to a row and one letter, in a window of
three content rows. -/
theorem scrollToIndex_reveals_wrapped :
    let v := ((new 4 4 : Viewport String).setWrap true).setContent #["a", "b", "abcdefgh", "c"]
    ¬v.drawnRows 2 <:+: v.visibleLines ∧
      (v.scrollToIndex 2).drawnRows 2 <:+ (v.scrollToIndex 2).visibleLines := by
  intro v
  have hsel : v.selectionEnabled = false := by decide
  have hw : 0 < v.width := by decide
  have hroom : 2 ≤ v.afterHeader := by decide
  have hp : v.WellPlaced v.position := by decide
  have hi : 2 < v.items.size := by decide
  have hfit : v.numLinesFor 2 ≤ v.afterHeader - 1 := by decide
  -- the item's last row lies past the window's end
  have hpast : ¬(v.lineIndex v.position ≤ v.linesBefore 2 ∧
      v.linesBefore 3 ≤ v.lineIndex v.position + v.numContentLines) := by decide
  have hnot : ¬v.drawnRows 2 <:+: v.visibleLines :=
    fun h => hpast ((drawnRows_infix_iff hw hp hi).1 h)
  have hlt : v.topItem < 2 := by decide
  exact ⟨hnot, ((scrollToIndex_reveals v hsel hw hroom hp hi hfit).2.2.1 hnot).1 hlt⟩

end Viewport

end LogBrowser
