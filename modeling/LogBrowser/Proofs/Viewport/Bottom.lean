import LogBrowser.Proofs.Viewport.Reveal
import LogBrowser.Proofs.Viewport.Restore

/-!
# The view stays above its lowest position

A window with room to scroll (`Roomy`: a width, items, and two rows below the header) has one
lowest position, `maxTop`, read off its items, its width, its wrapping and its room alone
(`SameLayout.maxTop_eq`). `safelySetTop` holds every position it sets at or above it
(`atOrAbove_safelySetTop`); a scroll either goes through it, lands on a row no lower than the
lowest one, or goes back to a position the view had. Every call that changes the layout ends in
`safelySetTop`, except one: a new header changes the room below it and keeps the position.
A header with more rows leaves less room, which only lowers the lowest position; a header with
fewer rows raises it.

So along every run in which the header loses rows only while the view is at its first row
(`ShrinksHeaderOnlyAtTop`), a roomy view is never past its lowest position (`AboveBottom`), and
away from the first row its window is full: header, content rows and footer fill the height
(`view_stays_above_bottom`). Whatever the run, the three never take more than the height.
With wrapping the offset held by `safelySetTop` may exceed the rows of the top item; the window
then starts at the next item's first row, which is still no lower than the lowest row.

A header with fewer rows leaves the view where it was, past the new lowest position, with blank
rows under the last item (`setHeader_leaves_view_past_bottom`).
-/

namespace LogBrowser

namespace Viewport

variable {α : Type}

/-- Position `p` is at or above position `q`: on an earlier item, or on the same item with no more
of its rows scrolled away. -/
def AtOrAbove (p q : Nat × Nat) : Prop := p.1 < q.1 ∨ p.1 = q.1 ∧ p.2 ≤ q.2

instance (p q : Nat × Nat) : Decidable (AtOrAbove p q) :=
  inferInstanceAs (Decidable (_ ∨ _))

variable [Record α]

/-- The view is at or above its lowest position. -/
def NotPastBottom (v : Viewport α) : Prop := AtOrAbove v.position v.maxTop

instance (v : Viewport α) : Decidable v.NotPastBottom :=
  inferInstanceAs (Decidable (AtOrAbove _ _))

/-- With room to scroll, the view is at or above its lowest position. -/
def AboveBottom (v : Viewport α) : Prop := v.Roomy → v.NotPastBottom

section Order

theorem AtOrAbove.trans {p q r : Nat × Nat} (h₁ : AtOrAbove p q) (h₂ : AtOrAbove q r) :
    AtOrAbove p r := by
  unfold AtOrAbove at *
  omega

theorem atOrAbove_zero (q : Nat × Nat) : AtOrAbove (0, 0) q := by
  unfold AtOrAbove
  omega

/-- `safelySetTop` holds the position it sets at or above the lowest one. -/
theorem atOrAbove_safelySetTop (v : Viewport α) (item offset : Nat) :
    AtOrAbove (v.safelySetTop item offset).position v.maxTop := by
  simp only [safelySetTop, position, AtOrAbove]
  rcases v.maxTop with ⟨mi, mo⟩
  dsimp only
  split <;> omega

/-- A position whose row index is no greater than that of a well-placed `q` is at or above `q`. -/
theorem atOrAbove_of_lineIndex_le {v : Viewport α} {p q : Nat × Nat} (hq : v.WellPlaced q)
    (h : v.lineIndex p ≤ v.lineIndex q) : AtOrAbove p q := by
  rcases Nat.lt_or_eq_of_le (hq.fst_le_of_lineIndex_le h) with hlt | heq
  · exact Or.inl hlt
  · refine Or.inr ⟨heq, ?_⟩
    simp only [lineIndex, heq] at h
    omega

end Order

section Steps

variable {v w : Viewport α}

/-- Being at or above the lowest position carries over to a viewport of the same layout at the
same position. -/
theorem AboveBottom.of_sameLayout (h : v.AboveBottom) (hl : SameLayout v w)
    (hp : w.position = v.position) : w.AboveBottom := by
  intro hw
  have hv := hl.symm.roomy hw
  unfold NotPastBottom
  rw [hp, hl.maxTop_eq hv]
  exact h hv

theorem aboveBottom_safelySetTop (v : Viewport α) (item offset : Nat) :
    (v.safelySetTop item offset).AboveBottom := by
  intro hw
  have hl := (moves_safelySetTop v item offset).sameLayout
  unfold NotPastBottom
  rw [hl.maxTop_eq (hl.symm.roomy hw)]
  exact atOrAbove_safelySetTop v item offset

theorem AboveBottom.safelySetXOffset (h : v.AboveBottom) (n : Nat) :
    (v.safelySetXOffset n).AboveBottom :=
  h.of_sameLayout (moves_safelySetXOffset v n).sameLayout rfl

theorem AboveBottom.select (h : v.AboveBottom) (s : Nat) :
    ({ v with selected := s } : Viewport α).AboveBottom :=
  h.of_sameLayout (moves_select v s).sameLayout rfl

theorem AboveBottom.scrollBy (h : v.AboveBottom) (k : Int) : (v.scrollBy k).AboveBottom := by
  rcases hsh : v.shifted k with ⟨item, offset⟩
  unfold Viewport.scrollBy
  split
  · exact h
  split
  · exact h
  split
  · exact h
  rw [hsh]
  exact (aboveBottom_safelySetTop v item offset).safelySetXOffset _

/-- From the first row of an item, a scroll up by the rows for content less the item's rows
lands on a row no lower than the lowest one, since the item's last row is no lower than the
last row of all. -/
theorem aboveBottom_scrollUp_from (x : Viewport α) (hxo : x.topOffset = 0)
    (hxi : x.topItem < x.items.size) :
    (x.scrollUp (x.numContentLines - x.numLinesFor x.topItem)).AboveBottom := by
  intro hr
  have hl : SameLayout x (x.scrollUp (x.numContentLines - x.numLinesFor x.topItem)) :=
    (moves_scrollBy _ _).sameLayout
  have hx : x.Roomy := hl.symm.roomy hr
  have hw := hx.width_pos
  have hroom := hx.two_le_afterHeader
  have hR := afterHeader_le_numContentLines_succ x
  have hs := linesBefore_succ x x.topItem
  have htot := linesBefore_le_totalLines (v := x) (x.topItem + 1)
  have hlow := lowestLine_eq x
  obtain ⟨-, hdown⟩ := scrollUp_from_first_row x hw hroom hxi hxo
  unfold NotPastBottom
  rw [hl.maxTop_eq hx]
  refine atOrAbove_of_lineIndex_le (wellPlaced_maxTop hw hx.items_pos (by omega)) ?_
  rw [lineIndex_maxTop hw, hdown, hlow]
  omega

theorem AboveBottom.scrollToIndex (h : v.AboveBottom) (index : Nat) :
    (v.scrollToIndex index).AboveBottom := by
  unfold Viewport.scrollToIndex
  split
  · exact aboveBottom_safelySetTop v 0 0
  rename_i hne
  extract_lets index' linesInItem inView atItem w
  have hat : Moves v atItem := moves_top v index' 0
  have hidx : index' < v.items.size := by
    simp only [Array.isEmpty_iff_size_eq_zero] at hne
    simp only [index']
    omega
  have hw : w.AboveBottom ∧ Moves v w := by
    simp only [w]
    split
    · split
      · -- from above: the item's first row, scrolled back up
        refine ⟨fun hr => ?_, hat.trans (moves_scrollBy _ _)⟩
        have hx : atItem.Roomy := (moves_scrollBy atItem _).sameLayout.symm.roomy hr
        have hlines : linesInItem = atItem.numLinesFor atItem.topItem := by
          rw [hat.numLinesFor]
          simp only [linesInItem]
          split
          · rfl
          · rename_i hwrap
            exact (numLinesFor_of_not_wrap (v := v) hx.width_pos (by simpa using hwrap) hidx).symm
        have hup := aboveBottom_scrollUp_from atItem rfl hidx
        rw [← hlines] at hup
        exact hup hr
      · -- at or above the top item: the item's first row is at or above the old position
        rename_i hle
        refine ⟨fun hr => ?_, hat⟩
        have hv : v.Roomy := hat.sameLayout.symm.roomy hr
        unfold NotPastBottom
        rw [hat.sameLayout.maxTop_eq hv]
        refine AtOrAbove.trans ?_ (h hv)
        show AtOrAbove (index', 0) (v.topItem, v.topOffset)
        unfold AtOrAbove
        omega
    · exact ⟨h, Moves.refl v⟩
  split
  · -- the scroll is undone: back to the old position
    exact h.of_sameLayout (hw.2.trans (moves_top w _ _)).sameLayout rfl
  · exact hw.1

theorem AboveBottom.setSelectedIndex (h : v.AboveBottom) (index : Nat) :
    (v.setSelectedIndex index).AboveBottom := by
  unfold Viewport.setSelectedIndex
  split
  · exact h
  split
  · exact h.select 0
  · exact (h.select _).scrollToIndex _

theorem AboveBottom.restoreSelectionRow (h : v.AboveBottom) (row : Nat) :
    (v.restoreSelectionRow row).AboveBottom := by
  unfold Viewport.restoreSelectionRow
  split
  split
  · exact h.scrollBy _
  · exact h

theorem AboveBottom.navigate (h : v.AboveBottom) (n : Navigation) :
    (v.navigate n).AboveBottom :=
  navigate_of v n h h.scrollBy (fun _ hw i => hw.setSelectedIndex i)
    (fun _ => atOrAbove_zero _) (aboveBottom_safelySetTop v _ _) h.safelySetXOffset

/-- New content holds the old position to the new lowest one before it scrolls. -/
theorem aboveBottom_setContent [BEq α] (v : Viewport α) (items : Array α) :
    (v.setContent items).AboveBottom := by
  unfold Viewport.setContent
  extract_lets row len stayTop stayBottom previous w₀ w₁ w₂ w₃ w₄
  have h₂ : w₂.AboveBottom := (aboveBottom_safelySetTop w₀ _ _).safelySetXOffset _
  split
  · exact h₂
  split
  · exact (h₂.select _).scrollToIndex _
  have h₃ : w₃.AboveBottom := by
    simp only [w₃]
    split
    · exact h₂.select 0
    split
    · exact h₂.select _
    · exact h₂
  exact ((h₃.select _).scrollToIndex _).restoreSelectionRow _

theorem aboveBottom_setWrap (v : Viewport α) (b : Bool) : (v.setWrap b).AboveBottom := by
  unfold Viewport.setWrap
  extract_lets row w₀ w₁ w₂
  exact aboveBottom_safelySetTop w₂ _ _

theorem aboveBottom_setDimensions (v : Viewport α) (width height : Nat) :
    (v.setDimensions width height).AboveBottom := by
  unfold Viewport.setDimensions
  extract_lets w₀ w₁
  split
  · -- without a width or a height there is no room to scroll
    rename_i hzero
    intro hr
    have hw : w₀.width = width := rfl
    have hroom : w₀.afterHeader ≤ height := Nat.sub_le _ _
    have := hr.width_pos
    have := hr.two_le_afterHeader
    simp only [Bool.or_eq_true, decide_eq_true_eq] at hzero
    omega
  · exact aboveBottom_safelySetTop w₁ _ _

/-- A new header keeps the view at or above the lowest position when it has no fewer rows, since
less room below the header only lowers the lowest row, or when the view is at its first row. -/
theorem AboveBottom.setHeader (h : v.AboveBottom) {header : List String}
    (hgrow : v.headerLines.length ≤ (v.setHeader header).headerLines.length ∨
      v.position = (0, 0)) :
    (v.setHeader header).AboveBottom := by
  intro hr
  rcases hgrow with hle | h0
  · have hs : SameRows v (v.setHeader header) := ⟨rfl, rfl, rfl⟩
    have hroom : (v.setHeader header).afterHeader ≤ v.afterHeader := by
      show v.height - (v.setHeader header).headerLines.length ≤ v.height - v.headerLines.length
      omega
    have hv : v.Roomy := ⟨hr.width_pos, hr.items_pos, by have := hr.two_le_afterHeader; omega⟩
    refine AtOrAbove.trans (h hv) ?_
    -- the old lowest row is no lower than the new one
    have hRw := afterHeader_le_numContentLines_succ (v.setHeader header)
    have hw2 := hr.two_le_afterHeader
    refine atOrAbove_of_lineIndex_le (wellPlaced_maxTop hr.width_pos hr.items_pos (by omega)) ?_
    rw [lineIndex_maxTop hr.width_pos, hs.lineIndex, lineIndex_maxTop hv.width_pos, lowestLine_eq,
      lowestLine_eq, hs.totalLines]
    omega
  · show AtOrAbove v.position _
    rw [h0]
    exact atOrAbove_zero _

end Steps

section Runs

/-- Whether a call takes header rows away only at the first row: every call but a new header
does, and a new header does when it has no fewer rows or the view is at its first row. -/
def Request.shrinksHeaderOnlyAtTop (v : Viewport α) : Request α → Bool
  | .setHeader header =>
      decide (v.headerLines.length ≤ (v.setHeader header).headerLines.length) ||
        decide (v.position = (0, 0))
  | _ => true

/-- A new viewport has no items, so no room to scroll. -/
theorem aboveBottom_new (width height : Nat) : (new width height : Viewport α).AboveBottom :=
  fun hr => absurd hr.items_pos (Nat.lt_irrefl 0)

variable [BEq α]

theorem AboveBottom.perform {v : Viewport α} (h : v.AboveBottom) (r : Request α)
    (hr : r.shrinksHeaderOnlyAtTop v = true) : (v.perform r).AboveBottom := by
  cases r with
  | setContent items => exact aboveBottom_setContent v items
  | setHeader header => exact h.setHeader (by simpa [Request.shrinksHeaderOnlyAtTop] using hr)
  | setWrap wrap => exact aboveBottom_setWrap v wrap
  | setSelectedIndex index => exact h.setSelectedIndex index
  | scrollToIndex index => exact h.scrollToIndex index
  | setDimensions width height => exact aboveBottom_setDimensions v width height
  | navigate nav => exact h.navigate nav
  -- the others set a flag or a text that neither the layout nor the position reads
  | _ => exact h.of_sameLayout ⟨⟨rfl, rfl, rfl⟩, rfl⟩ rfl

/-- A run in which the header loses rows only while the view is at its first row. -/
def ShrinksHeaderOnlyAtTop : Viewport α → List (Request α) → Prop
  | _, [] => True
  | v, r :: rs => r.shrinksHeaderOnlyAtTop v = true ∧ ShrinksHeaderOnlyAtTop (v.perform r) rs

instance decShrinksHeaderOnlyAtTop : (v : Viewport α) → (rs : List (Request α)) →
    Decidable (ShrinksHeaderOnlyAtTop v rs)
  | _, [] => isTrue trivial
  | v, r :: rs =>
    haveI := decShrinksHeaderOnlyAtTop (v.perform r) rs
    inferInstanceAs (Decidable (_ ∧ _))

theorem AboveBottom.foldl_perform {v : Viewport α} (h : v.AboveBottom) {rs : List (Request α)}
    (hrs : ShrinksHeaderOnlyAtTop v rs) : (rs.foldl Viewport.perform v).AboveBottom := by
  induction rs generalizing v with
  | nil => exact h
  | cons r rs ih => exact ih (h.perform r hrs.1) hrs.2

end Runs

section Window

variable {v : Viewport α}

/-- Scrolling more rows off an item than it has scrolls all of them off. -/
theorem rowsFrom_min_offset (v : Viewport α) (fuel t o room : Nat) :
    v.rowsFrom fuel t o room = v.rowsFrom fuel t (min o (v.numLinesFor t)) room := by
  cases fuel with
  | zero => rfl
  | succ fuel =>
      cases hi : v.items[t]? with
      | none => simp [rowsFrom, hi]
      | some it =>
          simp only [rowsFrom, hi]
          rw [← length_itemLines v hi]
          rcases Nat.le_total o (v.itemLines it).length with hle | hle
          · rw [Nat.min_eq_left hle]
          · rw [Nat.min_eq_right hle, List.drop_eq_nil_of_le hle, List.drop_length]

/-- The window holds the rows for content, or the rows left from its first row: the top item's
rows after the offset, or the next item's first row once the offset passes them all. -/
theorem length_visibleContent_of_topItem_lt (hw : 0 < v.width) (ht : v.topItem < v.items.size) :
    v.visibleContent.1.length = min v.numContentLines
      (v.totalLines - (v.linesBefore v.topItem + min v.topOffset (v.numLinesFor v.topItem))) := by
  rw [visibleContent_fst v hw ht, rowsFrom_min_offset,
    length_rowsFrom v _ _ _ _ (by omega) (Nat.min_le_right _ _)]

/-- The window of a roomy view at or above its lowest position starts no lower than the lowest
row. -/
theorem NotPastBottom.start_le_lowestLine (hv : v.Roomy) (h : v.NotPastBottom) :
    v.linesBefore v.topItem + min v.topOffset (v.numLinesFor v.topItem) ≤ v.lowestLine := by
  have hR := afterHeader_le_numContentLines_succ v
  have hroom := hv.two_le_afterHeader
  have hl := lineIndex_maxTop hv.width_pos (v := v)
  unfold NotPastBottom AtOrAbove position at h
  rcases hmt : v.maxTop with ⟨mi, mo⟩
  rw [hmt] at h hl
  rw [lineIndex_mk] at hl
  dsimp only at h
  rcases h with hlt | ⟨heq, hle⟩
  · -- an earlier item ends no lower than the lowest item starts
    have hmono := linesBefore_mono (v := v) (show v.topItem + 1 ≤ mi by omega)
    have hs := linesBefore_succ v v.topItem
    omega
  · rw [heq]
    omega

theorem NotPastBottom.topItem_lt (hv : v.Roomy) (h : v.NotPastBottom) :
    v.topItem < v.items.size := by
  have hR := afterHeader_le_numContentLines_succ v
  have hroom := hv.two_le_afterHeader
  have hm := (wellPlaced_maxTop hv.width_pos hv.items_pos (by omega)).fst_lt
  unfold NotPastBottom AtOrAbove position at h
  dsimp only at h
  omega

/-- Away from the first row the window starts below the first row: every item has a row. -/
theorem start_pos (hw : 0 < v.width) (hn : 0 < v.items.size) (hpos : v.position ≠ (0, 0)) :
    0 < v.linesBefore v.topItem + min v.topOffset (v.numLinesFor v.topItem) := by
  have h0 := numLinesFor_pos hw hn
  by_cases ht : v.topItem = 0
  · have ho : v.topOffset ≠ 0 := fun ho => hpos (by simp [position, ht, ho])
    rw [ht]
    omega
  · have hmono := linesBefore_mono (v := v) (show 1 ≤ v.topItem by omega)
    rw [linesBefore_succ, linesBefore_zero] at hmono
    omega

/-- Away from the first row, a roomy view at or above its lowest position fills the window:
header, a full window of content rows and the footer take the whole height. -/
theorem NotPastBottom.fills_height (hv : v.Roomy) (h : v.NotPastBottom)
    (hpos : v.position ≠ (0, 0)) :
    v.headerLines.length + v.visibleLines.length + 1 = v.height := by
  have hR := numContentLines_of_position_ne v hv.width_pos hv.items_pos hpos
  have hlen := length_visibleContent_of_topItem_lt hv.width_pos (h.topItem_lt hv)
  have hstart := h.start_le_lowestLine hv
  have hstart' := start_pos hv.width_pos hv.items_pos hpos
  have hlow := lowestLine_eq v
  have hhead := headerLines_length_le v
  have hroom := hv.two_le_afterHeader
  have hA : v.afterHeader = v.height - v.headerLines.length := rfl
  rw [visibleLines_eq_map, List.length_map, hlen, hR]
  omega

end Window

/-- The content rows and the footer's row, when it shows, fit in the room below the header. -/
theorem length_visibleContent_add_footer_le (v : Viewport α) :
    v.visibleContent.1.length + (if v.visibleContent.2 then 1 else 0) ≤ v.afterHeader := by
  unfold visibleContent
  split
  · simp
  dsimp only
  split
  · simp
  split
  · rw [List.length_take]
    simp only [if_true]
    omega
  · rename_i hroom hfoot
    simp only [Bool.or_eq_true, Bool.not_eq_true', Bool.and_eq_false_iff, decide_eq_false_iff_not,
      decide_eq_true_eq, not_or, Nat.not_le] at hfoot
    simp only [Bool.false_eq_true, if_false]
    omega

theorem visibleContent_snd_of_footer (v : Viewport α) (h : v.footer.isSome = true) :
    v.visibleContent.2 = true := by
  unfold footer at h
  rcases hvc : v.visibleContent with ⟨rows, shown⟩
  rw [hvc] at h
  cases shown with
  | false => simp at h
  | true => rfl

/-- Header, content rows and footer never take more rows than the window has. -/
theorem rows_le_height (v : Viewport α) :
    v.headerLines.length + v.visibleLines.length + (if v.footer.isSome then 1 else 0) ≤
      v.height := by
  have hfit := length_visibleContent_add_footer_le v
  have hhead := headerLines_length_le v
  have hA : v.afterHeader = v.height - v.headerLines.length := rfl
  have hfoot : (if v.footer.isSome then 1 else 0) ≤ (if v.visibleContent.2 then 1 else 0) := by
    split
    · have hshown : (if v.visibleContent.2 then 1 else 0) = 1 :=
        if_pos (visibleContent_snd_of_footer v ‹_›)
      omega
    · exact Nat.zero_le _
  rw [visibleLines_eq_map, List.length_map]
  omega

/-- The view never scrolls past its lowest position along a run in which the header loses rows
only while the view is at its first row. In every state of such a run from a new viewport,
header, content rows and footer take at most the height; and with room to scroll the top item
is an item, the position is at or above the lowest one, without wrapping it is well placed, and
away from the first row header, content rows and footer take the whole height. -/
theorem view_stays_above_bottom [BEq α] (width height : Nat) (rs : List (Request α))
    (hrs : ShrinksHeaderOnlyAtTop (new width height) rs) :
    let v := rs.foldl perform (new width height)
    v.headerLines.length + v.visibleLines.length + (if v.footer.isSome then 1 else 0) ≤
        v.height ∧
      (v.Roomy →
        v.topItem < v.items.size ∧ v.NotPastBottom ∧
          (v.wrap = false → v.WellPlaced v.position) ∧
          (v.position ≠ (0, 0) →
            v.headerLines.length + v.visibleLines.length + 1 = v.height)) := by
  intro v
  have hab : v.AboveBottom := (aboveBottom_new width height).foldl_perform hrs
  have hfree : OffsetFree v := offsetFree_foldl_perform width height rs
  refine ⟨rows_le_height v, fun hv => ?_⟩
  have h := hab hv
  have ht := h.topItem_lt hv
  refine ⟨ht, h, fun hwrap => ?_, h.fills_height hv⟩
  -- without wrapping every item is one row and no row of it is scrolled away
  show v.topOffset < v.numLinesFor v.topItem
  rw [hfree hwrap, numLinesFor_of_not_wrap hv.width_pos hwrap ht]
  exact Nat.one_pos

/-- A run meeting the condition of `view_stays_above_bottom`: a header of one row, five items,
the view sent to the bottom, and another header of one row. -/
theorem view_stays_above_bottom_new_header :
    let rs : List (Request String) := [.setHeader ["h1"], .setContent #["a", "b", "c", "d", "e"],
      .navigate .bottom, .setHeader ["h2"]]
    let v := rs.foldl perform (new 20 5)
    ShrinksHeaderOnlyAtTop (new 20 5) rs ∧
      (v.headerLines.length + v.visibleLines.length + (if v.footer.isSome then 1 else 0) ≤
          v.height ∧
        (v.Roomy →
          v.topItem < v.items.size ∧ v.NotPastBottom ∧
            (v.wrap = false → v.WellPlaced v.position) ∧
            (v.position ≠ (0, 0) →
              v.headerLines.length + v.visibleLines.length + 1 = v.height))) := by
  intro rs v
  have hrs : ShrinksHeaderOnlyAtTop (new 20 5) rs := by decide
  exact ⟨hrs, view_stays_above_bottom 20 5 rs hrs⟩

/-- A header with fewer rows leaves the view past its new lowest position: two header rows over
five items, the view sent to the bottom, then the header dropped. The last two items stay at the
top of a window of four content rows, over two blank ones. -/
theorem setHeader_leaves_view_past_bottom :
    let rs : List (Request String) := [.setHeader ["h1", "h2"],
      .setContent #["a", "b", "c", "d", "e"], .navigate .bottom, .setHeader []]
    let v := rs.foldl perform (new 20 5)
    v.Roomy ∧ v.position ≠ (0, 0) ∧ ¬v.NotPastBottom ∧
      v.headerLines.length + v.visibleLines.length + 1 < v.height := by
  intro rs v
  have hw : 0 < v.width := by decide
  have hn : 0 < v.items.size := by decide
  have hroom : 2 ≤ v.afterHeader := by decide
  have hpos : v.position ≠ (0, 0) := by decide
  have hpast : ¬v.NotPastBottom := by decide
  have hrows : v.headerLines.length + v.visibleContent.1.length + 1 < v.height := by decide
  rw [visibleLines_eq_map, List.length_map]
  exact ⟨⟨hw, hn, hroom⟩, hpos, hpast, hrows⟩

end Viewport

end LogBrowser
