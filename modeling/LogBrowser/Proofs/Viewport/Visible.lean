import LogBrowser.Proofs.Viewport.Lines
import LogBrowser.Proofs.Viewport.Frame

/-!
# Which items the window shows

The content rows of the window are rows of the whole content taken from the scroll position on:
`rowsFrom` visits the items from the top item, drops the rows scrolled away and takes rows until
the room is used up. In row indexes the window is the run of `numContentLines` rows that starts
at the position's row index, so an item has a row in view exactly when its rows and that run
overlap (`exists_visibleLines_iff`).

Selecting an item scrolls it into view by putting its first row at the top, and, coming from
above, scrolls back up so that its last row is at the bottom. Both land inside the window, so a
selection is always shown after it is set, and after every vertical navigation, which ends in
setting it (`selection_shown_after_select`). A change of size or of header, on the other hand,
only holds the old position to the new limits, and that need not keep the selection in view
(`setDimensions_hides_selected`).
-/

namespace LogBrowser

namespace Viewport

variable {α : Type} [Record α]

theorem length_itemLines (v : Viewport α) {idx : Nat} {it : α} (h : v.items[idx]? = some it) :
    (v.itemLines it).length = v.numLinesFor idx := by
  unfold itemLines numLinesFor
  rw [h]
  by_cases hw : v.width = 0
  · simp [hw]
  · cases v.wrap <;> simp [hw]

@[simp] theorem rowsFrom_zero_room (v : Viewport α) (fuel i o : Nat) : v.rowsFrom fuel i o 0 = [] := by
  cases fuel <;> rfl

/-- The rows of one item put before others show that item when there are any. -/
theorem exists_item_map_append (rows : List String) (rest : List VisibleLine) (i j : Nat) :
    (∃ l ∈ rows.map (fun t => ({ item := i, text := t } : VisibleLine)) ++ rest, l.item = j) ↔
      (0 < rows.length ∧ i = j) ∨ ∃ l ∈ rest, l.item = j := by
  simp only [List.mem_append, List.mem_map, or_and_right, exists_or]
  refine or_congr ⟨?_, ?_⟩ Iff.rfl
  · rintro ⟨_, ⟨t, ht, rfl⟩, rfl⟩
    exact ⟨List.length_pos_of_mem ht, rfl⟩
  · rintro ⟨hpos, rfl⟩
    obtain ⟨t, ht⟩ := List.exists_mem_of_length_pos hpos
    exact ⟨_, ⟨t, ht, rfl⟩, rfl⟩

/-- Past the last item the window meets no item's rows. -/
theorem not_window_of_size_le (v : Viewport α) {i o : Nat} (hi : v.items.size ≤ i)
    (ho : o ≤ v.numLinesFor i) (j room : Nat) :
    ¬max (v.linesBefore j) (v.linesBefore i + o) <
      min (v.linesBefore (j + 1)) (v.linesBefore i + o + room) := by
  have hL : v.linesBefore i = v.totalLines := linesBefore_of_size_le hi
  have hz : v.numLinesFor i = 0 := numLinesFor_eq_zero hi
  have hl : v.linesBefore (j + 1) ≤ v.totalLines := linesBefore_le_totalLines _
  omega

/-- The rows taken from item `i` on, after dropping `o` of its rows, are those of the items whose
rows meet the `room` rows from row index `linesBefore i + o`. -/
theorem exists_item_rowsFrom_iff (v : Viewport α) (fuel i o room j : Nat)
    (hfuel : v.items.size ≤ fuel + i) (ho : o ≤ v.numLinesFor i) :
    (∃ l ∈ v.rowsFrom fuel i o room, l.item = j) ↔
      max (v.linesBefore j) (v.linesBefore i + o) <
        min (v.linesBefore (j + 1)) (v.linesBefore i + o + room) := by
  have hj := linesBefore_succ v j
  induction fuel generalizing i o room with
  | zero =>
      -- out of fuel only past the last item
      simp only [rowsFrom, List.not_mem_nil, false_and, exists_false, false_iff]
      exact not_window_of_size_le v (by omega) ho j room
  | succ fuel ih =>
      by_cases hroom : room = 0
      · subst hroom
        simp only [rowsFrom_zero_room, List.not_mem_nil, false_and, exists_false, false_iff]
        omega
      cases hi : v.items[i]? with
      | none =>
          simp only [rowsFrom, hroom, hi, if_false, List.not_mem_nil, false_and, exists_false,
            false_iff]
          exact not_window_of_size_le v (by simpa using hi) ho j room
      | some it =>
          simp only [rowsFrom, hroom, hi, if_false]
          have hlen : (((v.itemLines it).drop o).take room).length =
              min (v.numLinesFor i - o) room := by
            rw [List.length_take, List.length_drop, length_itemLines v hi, Nat.min_comm]
          have hrest := ih (i + 1) 0 (room - min (v.numLinesFor i - o) room) (by omega)
            (Nat.zero_le _)
          rw [exists_item_map_append, hlen]
          refine Iff.trans (or_congr_right hrest) ?_
          clear hrest ih
          -- item `i` shows when a row is left after the drop; the later items see the room left
          have hi1 := linesBefore_succ v i
          rcases Nat.lt_trichotomy j i with hji | rfl | hij
          · -- an earlier item ends before the window starts
            have hle : v.linesBefore (j + 1) ≤ v.linesBefore i := linesBefore_mono hji
            refine iff_of_false (not_or.2 ⟨fun h => by omega, ?_⟩) ?_
            · simp only [Nat.lt_min, Nat.max_lt]
              omega
            · simp only [Nat.lt_min, Nat.max_lt]
              omega
          · -- the window starts in item `i`: it shows when a row of it is left
            rw [or_iff_left (by simp only [Nat.lt_min, Nat.max_lt]; omega), and_iff_left rfl]
            simp only [Nat.lt_min, Nat.max_lt]
            omega
          · -- a later item starts after item `i`, in the room item `i` leaves
            have hle : v.linesBefore (i + 1) ≤ v.linesBefore j := linesBefore_mono hij
            rw [or_iff_right (by omega), Nat.max_eq_left (by omega), Nat.max_eq_left (by omega)]
            simp only [Nat.lt_min]
            omega

/-- Taking `c` of the rows is taking rows with room `c`: the rows are a budgeted take. -/
theorem take_rowsFrom (v : Viewport α) (fuel i o room c : Nat) :
    (v.rowsFrom fuel i o room).take c = v.rowsFrom fuel i o (min c room) := by
  induction fuel generalizing i o room c with
  | zero => simp [rowsFrom]
  | succ fuel ih =>
      by_cases hroom : room = 0
      · simp [hroom]
      by_cases hc : c = 0
      · simp [hc]
      have hmin : min c room ≠ 0 := by omega
      cases hi : v.items[i]? with
      | none => simp [rowsFrom, hroom, hmin, hi]
      | some it =>
          simp only [rowsFrom, hroom, hmin, hi, if_false]
          rw [List.take_append, ← List.map_take, List.take_take, ih]
          have hlen : ∀ r, (((v.itemLines it).drop o).take r).length = min (v.numLinesFor i - o) r := by
            intro r
            rw [List.length_take, List.length_drop, length_itemLines v hi, Nat.min_comm]
          simp only [List.length_map, hlen]
          -- the room left after item `i` is the same either way
          congr 2
          omega

/-- The content rows are the rows from the scroll position, as many as there are rows for
content. -/
theorem visibleContent_fst (v : Viewport α) (hw : 0 < v.width) (ht : v.topItem < v.items.size) :
    v.visibleContent.1 = v.rowsFrom v.items.size v.topItem v.topOffset v.numContentLines := by
  have hne := items_isEmpty (Nat.lt_of_le_of_lt (Nat.zero_le _) ht)
  have hmin : min v.topItem (v.items.size - 1) = v.topItem := Nat.min_eq_left (by omega)
  unfold numContentLines visibleContent
  simp only [hne, Nat.ne_of_gt hw, hmin, decide_false, Bool.or_false, Bool.false_eq_true, if_false]
  split
  · rename_i h0
    simp [h0]
  · -- with a footer the rows are cut to one row fewer
    split
    · simp only [if_true]
      rw [take_rowsFrom, Nat.min_eq_left (Nat.sub_le _ _)]
    · simp only [if_false, Bool.false_eq_true]

theorem exists_item_visibleLines_iff (v : Viewport α) (j : Nat) :
    (∃ l ∈ v.visibleLines, l.item = j) ↔ ∃ l ∈ v.visibleContent.1, l.item = j := by
  unfold visibleLines
  split
  · rfl
  · simp only [List.mem_map]
    constructor
    · rintro ⟨_, ⟨l, hl, rfl⟩, rfl⟩
      exact ⟨l, hl, rfl⟩
    · rintro ⟨l, hl, rfl⟩
      exact ⟨_, ⟨l, hl, rfl⟩, rfl⟩

/-- An item is in view exactly when one of its rows is among the `numContentLines` rows from the
scroll position's row index. -/
theorem exists_visibleLines_iff (v : Viewport α) (hw : 0 < v.width) (hp : v.WellPlaced v.position)
    (j : Nat) :
    (∃ l ∈ v.visibleLines, l.item = j) ↔
      max (v.linesBefore j) (v.lineIndex v.position) <
        min (v.linesBefore (j + 1)) (v.lineIndex v.position + v.numContentLines) := by
  rw [exists_item_visibleLines_iff, visibleContent_fst v hw hp.fst_lt]
  exact exists_item_rowsFrom_iff v _ _ _ _ j (by omega) (Nat.le_of_lt hp)

/-- The footer takes at most one row. -/
theorem afterHeader_le_numContentLines_succ (v : Viewport α) :
    v.afterHeader ≤ v.numContentLines + 1 := by
  unfold numContentLines
  split <;> omega

/-- Once the top item is not the first, the footer shows and takes a row. -/
theorem numContentLines_of_topItem_ne_zero (v : Viewport α) (hw : 0 < v.width)
    (hn : 0 < v.items.size) (ht : v.topItem ≠ 0) : v.numContentLines = v.afterHeader - 1 := by
  have hne := items_isEmpty hn
  unfold numContentLines visibleContent
  simp only [hne, Nat.ne_of_gt hw, ht, decide_false, Bool.or_false, Bool.false_eq_true, if_false,
    Bool.false_and, Bool.not_false, Bool.true_or, if_true]
  -- with no room both counts are zero
  by_cases h0 : v.afterHeader = 0
  · simp [h0]
  · simp [h0]

section Moves

variable {v w : Viewport α}

theorem Moves.numLinesFor (h : Moves v w) (i : Nat) : w.numLinesFor i = v.numLinesFor i := by
  obtain ⟨s, t, o, x, rfl⟩ := h
  rfl

theorem Moves.linesBefore (h : Moves v w) (t : Nat) : w.linesBefore t = v.linesBefore t := by
  induction t with
  | zero => rfl
  | succ t ih => rw [linesBefore_succ, linesBefore_succ, ih, h.numLinesFor]

omit [Record α] in
theorem Moves.afterHeader (h : Moves v w) : w.afterHeader = v.afterHeader := by
  obtain ⟨s, t, o, x, rfl⟩ := h
  rfl

end Moves

theorem selected_scrollBy (v : Viewport α) (k : Int) : (v.scrollBy k).selected = v.selected := by
  unfold scrollBy
  split
  · rfl
  split
  · rfl
  split
  · rfl
  · rfl

theorem selected_scrollToIndex (v : Viewport α) (index : Nat) :
    (v.scrollToIndex index).selected = v.selected := by
  unfold scrollToIndex
  split
  · rfl
  extract_lets index linesInItem inView atItem w
  have hw : w.selected = v.selected := by
    simp only [w]
    split
    · split
      · exact selected_scrollBy _ _
      · rfl
    · rfl
  split
  · exact hw
  · exact hw

section Moves

variable {v w : Viewport α}

omit [Record α] in
theorem Moves.width (h : Moves v w) : w.width = v.width := by
  obtain ⟨s, t, o, x, rfl⟩ := h
  rfl

theorem Moves.lineIndex (h : Moves v w) (p : Nat × Nat) : w.lineIndex p = v.lineIndex p := by
  rw [Viewport.lineIndex, Viewport.lineIndex, h.linesBefore]

theorem Moves.wellPlaced_iff (h : Moves v w) (p : Nat × Nat) : w.WellPlaced p ↔ v.WellPlaced p := by
  unfold WellPlaced
  rw [h.numLinesFor]

end Moves

/-- A window that starts at the first row of an item shows that item. -/
theorem shows_topItem (v : Viewport α) (hw : 0 < v.width) (hroom : 2 ≤ v.afterHeader)
    (ht : v.topItem < v.items.size) (ho : v.topOffset = 0) :
    ∃ l ∈ v.visibleLines, l.item = v.topItem := by
  have hpos := numLinesFor_pos hw ht
  have hp : v.WellPlaced v.position := show v.topOffset < v.numLinesFor v.topItem by omega
  have hR := afterHeader_le_numContentLines_succ v
  have hs := linesBefore_succ v v.topItem
  rw [exists_visibleLines_iff v hw hp, lineIndex_position]
  omega

/-- From the first row of an item, a scroll up by the rows for content less the item's rows lands
on a well-placed position that many rows up, or on the first row: the item's last row is no lower
than the last row of all, so the scroll never meets the lowest position. -/
theorem scrollUp_from_first_row (v : Viewport α) (hw : 0 < v.width) (hroom : 2 ≤ v.afterHeader)
    (ht : v.topItem < v.items.size) (ho : v.topOffset = 0) :
    let u := v.scrollUp (v.numContentLines - v.numLinesFor v.topItem)
    v.WellPlaced u.position ∧
      v.lineIndex u.position =
        v.linesBefore v.topItem - (v.numContentLines - v.numLinesFor v.topItem) := by
  intro u
  have hn : 0 < v.items.size := by omega
  have hp : v.WellPlaced v.position := by
    show v.topOffset < v.numLinesFor v.topItem
    rw [ho]
    exact numLinesFor_pos hw ht
  have hR := afterHeader_le_numContentLines_succ v
  have hs := linesBefore_succ v v.topItem
  have hsL := linesBefore_le_totalLines (v := v) (v.topItem + 1)
  obtain ⟨hsp, hl⟩ := scrollBy_of_nonpos hw hn (by omega) hp
    (show -((v.numContentLines - v.numLinesFor v.topItem : Nat) : Int) ≤ 0 by omega)
    (by rw [lowestLine, lineIndex_position, ho]; omega)
  refine ⟨hsp, ?_⟩
  show v.lineIndex (v.scrollBy _).position = _
  rw [hl, lineIndex_position, ho]
  omega

/-- From the first row of an item below the first, a scroll up by the content rows less the
item's rows puts the item's last row at the bottom, and the item stays in view. -/
theorem shows_topItem_scrollUp (v : Viewport α) (hw : 0 < v.width) (hroom : 2 ≤ v.afterHeader)
    (ht : v.topItem < v.items.size) (h0 : v.topItem ≠ 0) (ho : v.topOffset = 0) :
    ∃ l ∈ (v.scrollUp (v.numContentLines - v.numLinesFor v.topItem)).visibleLines,
      l.item = v.topItem := by
  have hn : 0 < v.items.size := by omega
  have hpos := numLinesFor_pos hw ht
  -- away from the first item the footer shows, so the content rows are one fewer than the room
  have hR : v.numContentLines = v.afterHeader - 1 := numContentLines_of_topItem_ne_zero v hw hn h0
  have hs := linesBefore_succ v v.topItem
  obtain ⟨hsp, hl⟩ := scrollUp_from_first_row v hw hroom ht ho
  have hm : Moves v (v.scrollUp (v.numContentLines - v.numLinesFor v.topItem)) :=
    moves_scrollBy _ _
  have hR' := afterHeader_le_numContentLines_succ
    (v.scrollUp (v.numContentLines - v.numLinesFor v.topItem))
  rw [hm.afterHeader] at hR'
  rw [exists_visibleLines_iff _ (hm.width ▸ hw) ((hm.wellPlaced_iff _).2 hsp), hm.linesBefore,
    hm.linesBefore, hm.lineIndex, hl]
  omega

/-- Scrolling to the selected item shows it: either all its rows were in view already, or it
is put at the top, or, coming from above, its last row is put at the bottom. -/
theorem scrollToIndex_shows_selected (v : Viewport α) (hw : 0 < v.width) (hroom : 2 ≤ v.afterHeader)
    (hidx : v.selected < v.items.size) :
    ∃ l ∈ (v.scrollToIndex v.selected).visibleLines, l.item = v.selected := by
  have hne := items_isEmpty (Nat.lt_of_le_of_lt (Nat.zero_le _) hidx)
  unfold scrollToIndex
  rw [if_neg (by simp [hne])]
  extract_lets index linesInItem inView atItem w
  have hindex : index = v.selected := Nat.min_eq_left (by omega)
  have hlines : linesInItem = v.numLinesFor index := by
    simp only [linesInItem]
    split
    · rfl
    · rename_i hwrap
      rw [numLinesFor_of_not_wrap hw (by simpa using hwrap) (by omega)]
  -- the scroll towards the item keeps the selection and shows the item
  have hshow : w.selected = v.selected ∧ ∃ l ∈ w.visibleLines, l.item = index := by
    simp only [w]
    split
    · have hm : Moves v atItem := moves_top v index 0
      have hroomA : 2 ≤ atItem.afterHeader := hm.afterHeader ▸ hroom
      split
      · -- from above: scrolled back up until the item's last row is at the bottom
        refine ⟨selected_scrollBy _ _, ?_⟩
        have hA : atItem.numLinesFor atItem.topItem = linesInItem := by
          rw [hm.numLinesFor, hlines]
        have hup := shows_topItem_scrollUp atItem hw hroomA (show index < v.items.size by omega)
          (show index ≠ 0 by omega) rfl
        rwa [hA] at hup
      · -- the item is put at the top
        exact ⟨rfl, shows_topItem atItem hw hroomA (show index < v.items.size by omega) rfl⟩
    · -- all its rows were in view already
      rename_i hsame
      refine ⟨rfl, ?_⟩
      have hin : 0 < (v.visibleContent.1.filter (·.item = index)).length := by
        have hpos := numLinesFor_pos hw (show index < v.items.size by omega)
        have : linesInItem = inView := Decidable.not_not.1 hsame
        simp only [inView] at this
        omega
      obtain ⟨l, hl⟩ := List.exists_mem_of_length_pos hin
      rw [List.mem_filter] at hl
      exact (exists_item_visibleLines_iff v index).2 ⟨l, hl.1, by simpa using hl.2⟩
  -- the selection is in view, so the scroll is kept
  have hkeep : w.selectionInView.1 ≠ 0 := by
    obtain ⟨l, hl, hli⟩ := (exists_item_visibleLines_iff w index).1 hshow.2
    unfold selectionInView
    exact Nat.pos_iff_ne_zero.1 (List.length_pos_of_mem (List.mem_filter.2
      ⟨hl, by simp [hli, hshow.1, hindex]⟩))
  rw [if_neg (by simp [hkeep]), ← hindex]
  exact hshow.2

/-- Setting the selection always shows the selected item, given a row for content besides the
footer. -/
theorem setSelectedIndex_shows_selected (v : Viewport α) (hw : 0 < v.width)
    (hn : 0 < v.items.size) (hroom : 2 ≤ v.afterHeader) (hsel : v.selectionEnabled = true)
    (i : Nat) :
    ∃ l ∈ (v.setSelectedIndex i).visibleLines, l.item = (v.setSelectedIndex i).selected := by
  have hR : v.numContentLines ≠ 0 := by
    have := afterHeader_le_numContentLines_succ v
    omega
  have hne := items_isEmpty hn
  unfold setSelectedIndex
  simp only [hsel, hR, hne, Bool.not_true, decide_false, Bool.or_false, Bool.false_eq_true,
    if_false]
  rw [selected_scrollToIndex]
  exact scrollToIndex_shows_selected _ hw hroom (show min i (v.items.size - 1) < v.items.size by omega)

/-- Every move of the selection shows the selected item: setting it, and every navigation but
the horizontal ones, which end in setting it. A resize or a new header, which do not, need not
(`setDimensions_hides_selected`). -/
theorem selection_shown_after_select (v : Viewport α) (hw : 0 < v.width)
    (hn : 0 < v.items.size) (hroom : 2 ≤ v.afterHeader) (hsel : v.selectionEnabled = true) :
    (∀ i, ∃ l ∈ (v.setSelectedIndex i).visibleLines, l.item = (v.setSelectedIndex i).selected) ∧
      ∀ n, n ≠ .left → n ≠ .right →
        ∃ l ∈ (v.navigate n).visibleLines, l.item = (v.navigate n).selected := by
  refine ⟨setSelectedIndex_shows_selected v hw hn hroom hsel, ?_⟩
  -- a page move scrolls first, which keeps the window, and then sets the selection
  have hpage : ∀ (k : Int) (i : Nat), ∃ l ∈ ((v.scrollBy k).setSelectedIndex i).visibleLines,
      l.item = ((v.scrollBy k).setSelectedIndex i).selected := by
    intro k i
    have hm := moves_scrollBy v k
    exact setSelectedIndex_shows_selected _ (hm.width ▸ hw) (hm.items ▸ hn)
      (hm.afterHeader ▸ hroom) (hm.selectionEnabled ▸ hsel) i
  have hsel' : ∀ k : Int, (v.scrollBy k).selectionEnabled = true :=
    fun k => (moves_scrollBy v k).selectionEnabled ▸ hsel
  intro n hl hr
  cases n with
  | up =>
      simp only [navigate, selectUp, hsel, if_true]
      exact setSelectedIndex_shows_selected v hw hn hroom hsel _
  | down =>
      simp only [navigate, selectDown, hsel, if_true]
      exact setSelectedIndex_shows_selected v hw hn hroom hsel _
  | top =>
      simp only [navigate, hsel, if_true]
      exact setSelectedIndex_shows_selected v hw hn hroom hsel _
  | bottom =>
      simp only [navigate, hsel, if_true]
      exact setSelectedIndex_shows_selected v hw hn hroom hsel _
  | pageUp =>
      simp only [navigate, scrollUp, hsel', if_true]
      exact hpage _ _
  | pageDown =>
      simp only [navigate, scrollDown, hsel', if_true]
      exact hpage _ _
  | halfPageUp =>
      simp only [navigate, scrollUp, hsel', if_true]
      exact hpage _ _
  | halfPageDown =>
      simp only [navigate, scrollDown, hsel', if_true]
      exact hpage _ _
  | left => exact absurd rfl hl
  | right => exact absurd rfl hr

/-- A resize that only holds the old position to the new limits can hide the selection: one
letter, twelve letters wrapped four to a row and one letter, selected at the bottom of a window
with one content row, then given three. The last item's row is not among them. -/
theorem setDimensions_hides_selected :
    let v := ((((new 4 2 : Viewport String).setSelectionEnabled true).setWrap true).setContent
      #["a", "abcdefghijkl", "b"]).navigate .bottom
    (∃ l ∈ v.visibleLines, l.item = v.selected) ∧
      2 ≤ (v.setDimensions 4 4).afterHeader ∧
      ¬∃ l ∈ (v.setDimensions 4 4).visibleLines, l.item = (v.setDimensions 4 4).selected := by
  decide

/-- A window meeting every condition of `selection_shown_after_select`. -/
theorem selection_shown_after_select_wrapped :
    let v := (((new 4 4 : Viewport String).setSelectionEnabled true).setWrap true).setContent
      #["a", "abcdefghijkl", "b"]
    0 < v.width ∧ 0 < v.items.size ∧ 2 ≤ v.afterHeader ∧ v.selectionEnabled = true ∧
      ((∀ i, ∃ l ∈ (v.setSelectedIndex i).visibleLines, l.item = (v.setSelectedIndex i).selected) ∧
        ∀ n, n ≠ .left → n ≠ .right →
          ∃ l ∈ (v.navigate n).visibleLines, l.item = (v.navigate n).selected) := by
  intro v
  have hw : 0 < v.width := by decide
  have hn : 0 < v.items.size := by decide
  have hroom : 2 ≤ v.afterHeader := by decide
  have hsel : v.selectionEnabled = true := by decide
  exact ⟨hw, hn, hroom, hsel, selection_shown_after_select v hw hn hroom hsel⟩

end Viewport

end LogBrowser
