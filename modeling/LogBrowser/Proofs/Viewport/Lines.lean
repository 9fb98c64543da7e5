import Mathlib.Data.Nat.Init
import LogBrowser.View.Viewport.Update

/-!
# Scroll positions as row indexes

A scroll position is a pair: the top item and the rows of it scrolled out of view. Stacking the
items' rows one after another, the pair names one row of the whole content, its row index
`lineIndex`: the rows of the items before the top item, plus the offset. A position is
`WellPlaced` when its offset is below its item's row count; two well-placed positions are then
ordered as their row indexes are, and equal row indexes mean equal positions.

The lowest position `maxTop` is the row index `lowestLine`, all rows less the rows for content,
and it is well placed once there is a row for content. Scrolling reads best in row indexes:
moving `k` rows from row `p` should land on `p + k`, held between the first row and
`lowestLine`. It does, except for one case. A downward step that overshoots the lowest position
walks to the row it aims at, and `safelySetTop` then holds only the item to `maxTop`'s item and
keeps the offset of the row aimed at (past the last row, the offset the view had). When that
offset is below `maxTop`'s, the view stops above the lowest position, even above where it
started (`StopsShort`, `scrollBy_lineIndex_iff`).
-/

namespace LogBrowser

namespace Text

/-- A positive width gives every text at least one row. -/
theorem wrap_ne_nil (s : String) {w : Nat} (hw : w ≠ 0) : wrap s w ≠ [] := by
  unfold wrap wrapChars
  rw [if_neg hw]
  split
  · simp
  · simpa

end Text

namespace Viewport

variable {α : Type} [Record α]

/-- The rows of the items before item `t`. -/
def linesBefore (v : Viewport α) : Nat → Nat
  | 0 => 0
  | t + 1 => v.linesBefore t + v.numLinesFor t

/-- The rows of all the items. -/
def totalLines (v : Viewport α) : Nat := v.linesBefore v.items.size

/-- The scroll position: the top item and the rows of it scrolled away. -/
def position (v : Viewport α) : Nat × Nat := (v.topItem, v.topOffset)

/-- The row of the whole content that the position `p` puts at the top of the window. -/
def lineIndex (v : Viewport α) (p : Nat × Nat) : Nat := v.linesBefore p.1 + p.2

/-- A position whose offset is one of its item's rows. -/
def WellPlaced (v : Viewport α) (p : Nat × Nat) : Prop := p.2 < v.numLinesFor p.1

instance (v : Viewport α) (p : Nat × Nat) : Decidable (v.WellPlaced p) :=
  inferInstanceAs (Decidable (p.2 < v.numLinesFor p.1))

/-- The row index of the lowest position: all rows less the rows for content. -/
def lowestLine (v : Viewport α) : Nat := v.totalLines - v.numContentLines

@[simp] theorem linesBefore_zero (v : Viewport α) : v.linesBefore 0 = 0 := rfl

theorem linesBefore_succ (v : Viewport α) (t : Nat) :
    v.linesBefore (t + 1) = v.linesBefore t + v.numLinesFor t := rfl

@[simp] theorem lineIndex_mk (v : Viewport α) (i o : Nat) :
    v.lineIndex (i, o) = v.linesBefore i + o := rfl

section Rows

variable {v : Viewport α}

theorem numLinesFor_pos (hw : 0 < v.width) {i : Nat} (hi : i < v.items.size) :
    0 < v.numLinesFor i := by
  unfold numLinesFor
  rw [if_neg (by omega), Array.getElem?_eq_getElem hi]
  dsimp only
  split
  · exact List.length_pos_iff.2 (Text.wrap_ne_nil _ (Nat.pos_iff_ne_zero.1 hw))
  · exact Nat.one_pos

omit [Record α] in
theorem items_isEmpty (hn : 0 < v.items.size) : v.items.isEmpty = false := by
  simp only [Array.isEmpty, decide_eq_false_iff_not]
  omega

theorem numLinesFor_eq_zero {i : Nat} (hi : v.items.size ≤ i) : v.numLinesFor i = 0 := by
  unfold numLinesFor
  rw [Array.getElem?_eq_none hi]
  simp

/-- Without wrapping every item is one row. -/
theorem numLinesFor_of_not_wrap (hw : 0 < v.width) (hwrap : v.wrap = false) {i : Nat}
    (hi : i < v.items.size) : v.numLinesFor i = 1 := by
  unfold numLinesFor
  rw [if_neg (by omega), Array.getElem?_eq_getElem hi]
  simp [hwrap]

theorem linesBefore_mono {s t : Nat} (h : s ≤ t) : v.linesBefore s ≤ v.linesBefore t := by
  induction t, h using Nat.le_induction with
  | base => exact Nat.le_refl _
  | succ t _ ih =>
      rw [linesBefore_succ]
      omega

/-- Past the last item the count stops growing. -/
theorem linesBefore_of_size_le {t : Nat} (h : v.items.size ≤ t) :
    v.linesBefore t = v.totalLines := by
  induction t, h using Nat.le_induction with
  | base => rfl
  | succ t ht ih => rw [linesBefore_succ, numLinesFor_eq_zero ht, ih, Nat.add_zero]

theorem linesBefore_le_totalLines (t : Nat) : v.linesBefore t ≤ v.totalLines := by
  rcases Nat.le_total t v.items.size with h | h
  · exact linesBefore_mono h
  · exact Nat.le_of_eq (linesBefore_of_size_le h)

theorem linesBefore_of_not_wrap (hw : 0 < v.width) (hwrap : v.wrap = false) {t : Nat}
    (ht : t ≤ v.items.size) : v.linesBefore t = t := by
  induction t with
  | zero => rfl
  | succ t ih =>
      rw [linesBefore_succ, ih (by omega), numLinesFor_of_not_wrap hw hwrap (by omega)]

end Rows

section Order

variable {v : Viewport α} {p q : Nat × Nat}

theorem WellPlaced.fst_lt (hp : v.WellPlaced p) : p.1 < v.items.size := by
  refine Nat.lt_of_not_le fun h => ?_
  have h0 := numLinesFor_eq_zero h
  unfold WellPlaced at hp
  omega

/-- A well-placed position is above the first row of the next item. -/
theorem WellPlaced.lineIndex_lt (hp : v.WellPlaced p) : v.lineIndex p < v.linesBefore (p.1 + 1) := by
  unfold WellPlaced at hp
  rw [lineIndex, linesBefore_succ]
  omega

theorem WellPlaced.lineIndex_lt_totalLines (hp : v.WellPlaced p) : v.lineIndex p < v.totalLines :=
  Nat.lt_of_lt_of_le hp.lineIndex_lt (linesBefore_mono hp.fst_lt)

/-- A well-placed position is above every position of a later item. -/
theorem WellPlaced.lineIndex_lt_of_fst_lt (hp : v.WellPlaced p) (h : p.1 < q.1) :
    v.lineIndex p < v.lineIndex q :=
  calc v.lineIndex p < v.linesBefore (p.1 + 1) := hp.lineIndex_lt
    _ ≤ v.linesBefore q.1 := linesBefore_mono h
    _ ≤ v.lineIndex q := Nat.le_add_right _ _

theorem WellPlaced.fst_le_of_lineIndex_le (hq : v.WellPlaced q) (h : v.lineIndex p ≤ v.lineIndex q) :
    p.1 ≤ q.1 := by
  refine Nat.le_of_not_lt fun hlt => ?_
  exact absurd h (Nat.not_le.2 (hq.lineIndex_lt_of_fst_lt hlt))

/-- A row index names at most one well-placed position. -/
theorem WellPlaced.eq_of_lineIndex_eq (hp : v.WellPlaced p) (hq : v.WellPlaced q)
    (h : v.lineIndex p = v.lineIndex q) : p = q := by
  have h₁ : p.1 = q.1 :=
    Nat.le_antisymm (hq.fst_le_of_lineIndex_le (Nat.le_of_eq h))
      (hp.fst_le_of_lineIndex_le (Nat.le_of_eq h.symm))
  have h₂ : p.2 = q.2 := by
    unfold lineIndex at h
    rw [h₁] at h
    omega
  exact Prod.ext h₁ h₂

/-- Without wrapping a well-placed position has no rows scrolled away. -/
theorem WellPlaced.snd_eq_zero_of_not_wrap (hw : 0 < v.width) (hwrap : v.wrap = false)
    (hp : v.WellPlaced p) : p.2 = 0 := by
  have h1 := numLinesFor_of_not_wrap hw hwrap hp.fst_lt
  unfold WellPlaced at hp
  omega

/-- Without wrapping the row index of a well-placed position is its item. -/
theorem WellPlaced.lineIndex_of_not_wrap (hw : 0 < v.width) (hwrap : v.wrap = false)
    (hp : v.WellPlaced p) : v.lineIndex p = p.1 := by
  rw [lineIndex, hp.snd_eq_zero_of_not_wrap hw hwrap, Nat.add_zero,
    linesBefore_of_not_wrap hw hwrap (Nat.le_of_lt hp.fst_lt)]

end Order

section Walks

variable {v : Viewport α}

/-- Climbing to the lowest position walks up the rows exactly as a scroll up does. -/
theorem climb_eq_walkUp (v : Viewport α) : v.climb = v.walkUp := by
  funext t u
  induction t generalizing u with
  | zero => rfl
  | succ t ih => simp only [climb, walkUp, ih]

/-- Walking up `u` rows from the first row of item `t` lands `u` rows higher, or on the very
first row when there are not so many. -/
theorem lineIndex_walkUp (t u : Nat) : v.lineIndex (v.walkUp t u) = v.linesBefore t - u := by
  induction t generalizing u with
  | zero => simp [walkUp]
  | succ t ih =>
      simp only [walkUp]
      split
      · rw [lineIndex_mk, linesBefore_succ]
        omega
      · rw [ih, linesBefore_succ]
        omega

theorem wellPlaced_walkUp (hw : 0 < v.width) (hn : 0 < v.items.size) (t : Nat) {u : Nat}
    (hu : 0 < u) : v.WellPlaced (v.walkUp t u) := by
  induction t generalizing u with
  | zero => exact numLinesFor_pos hw hn
  | succ t ih =>
      simp only [walkUp]
      split
      · unfold WellPlaced
        dsimp only
        omega
      · exact ih (by omega)

/-- Walking down `down` rows from the last row of `item` lands on the row aimed at, while that
row exists. The fuel is the number of items left to visit. -/
theorem walkDown_of_lt (v : Viewport α) (offset fuel item down : Nat) (hdown : 0 < down)
    (hfuel : v.items.size ≤ fuel + item + 1)
    (h : v.linesBefore (item + 1) + down - 1 < v.totalLines) :
    v.WellPlaced (v.walkDown offset fuel item down) ∧
      v.lineIndex (v.walkDown offset fuel item down) = v.linesBefore (item + 1) + down - 1 := by
  induction fuel generalizing item down with
  | zero =>
      -- out of fuel only at the last item, below which no row is left
      have hl : v.linesBefore (item + 1) = v.totalLines := linesBefore_of_size_le (by omega)
      omega
  | succ fuel ih =>
      simp only [walkDown]
      split
      · rename_i hlast
        have hl : v.linesBefore (item + 1) = v.totalLines := linesBefore_of_size_le hlast
        omega
      split
      · refine ⟨?_, ?_⟩
        · unfold WellPlaced
          dsimp only
          omega
        · rw [lineIndex_mk]
          omega
      · rename_i hlast hle
        have hs := linesBefore_succ v (item + 1)
        obtain ⟨hp, hi⟩ := ih (item + 1) (down - v.numLinesFor (item + 1)) (by omega) (by omega)
          (by omega)
        refine ⟨hp, ?_⟩
        rw [hi]
        omega

/-- Aimed past the last row, the walk down stops on the last item and keeps `offset`. -/
theorem walkDown_of_le (v : Viewport α) (offset fuel item down : Nat) (hdown : 0 < down)
    (hitem : item < v.items.size) (hfuel : v.items.size ≤ fuel + item + 1)
    (h : v.totalLines ≤ v.linesBefore (item + 1) + down - 1) :
    v.walkDown offset fuel item down = (v.items.size - 1, offset) := by
  induction fuel generalizing item down with
  | zero =>
      show (item, offset) = _
      rw [show item = v.items.size - 1 by omega]
  | succ fuel ih =>
      simp only [walkDown]
      split
      · rfl
      rename_i hlast
      have hs := linesBefore_succ v (item + 1)
      have hle : v.linesBefore (item + 1 + 1) ≤ v.totalLines := linesBefore_mono (by omega)
      split
      · omega
      · exact ih (item + 1) (down - v.numLinesFor (item + 1)) (by omega) (by omega) (by omega)
          (by omega)

end Walks

section Lowest

variable {v : Viewport α}

/-- The lowest position is the row index `lowestLine`. -/
theorem lineIndex_maxTop (hw : 0 < v.width) : v.lineIndex v.maxTop = v.lowestLine := by
  simp only [maxTop, lowestLine, totalLines]
  split
  · rename_i hn
    simp [hn]
  split
  · -- without wrapping the rows are the items
    rename_i hwrap
    have hwrap' : v.wrap = false := by simpa using hwrap
    rw [lineIndex_mk, linesBefore_of_not_wrap hw hwrap' (Nat.sub_le _ _),
      linesBefore_of_not_wrap hw hwrap' (Nat.le_refl _), Nat.add_zero]
  · rename_i hn _
    have hs : v.linesBefore v.items.size =
        v.linesBefore (v.items.size - 1) + v.numLinesFor (v.items.size - 1) := by
      rw [← linesBefore_succ, Nat.sub_add_cancel (Nat.pos_of_ne_zero hn)]
    split
    · rw [lineIndex_mk, hs]
      omega
    · rw [climb_eq_walkUp, lineIndex_walkUp, hs]
      omega

/-- With a row for content, the lowest position is well placed. -/
theorem wellPlaced_maxTop (hw : 0 < v.width) (hn : 0 < v.items.size)
    (hR : 0 < v.numContentLines) : v.WellPlaced v.maxTop := by
  simp only [maxTop]
  rw [if_neg (by omega)]
  split
  · exact numLinesFor_pos hw (by omega)
  · split
    · unfold WellPlaced
      dsimp only
      omega
    · rw [climb_eq_walkUp]
      exact wellPlaced_walkUp hw hn _ (by omega)

/-- The view is at the bottom exactly when its row index has reached `lowestLine`. -/
theorem isScrolledToBottom_iff (hw : 0 < v.width) (hm : v.WellPlaced v.maxTop)
    (hp : v.WellPlaced v.position) :
    v.isScrolledToBottom = true ↔ v.lowestLine ≤ v.lineIndex v.position := by
  rw [← lineIndex_maxTop hw]
  unfold isScrolledToBottom
  rcases hmt : v.maxTop with ⟨mi, mo⟩
  rw [hmt] at hm
  simp only [Bool.or_eq_true, Bool.and_eq_true, decide_eq_true_eq]
  constructor
  · rintro (hlt | ⟨heq, hle⟩)
    · exact Nat.le_of_lt (hm.lineIndex_lt_of_fst_lt hlt)
    · simp only [lineIndex_mk, position, heq]
      omega
  · intro hle
    have hfst : mi ≤ v.topItem := hp.fst_le_of_lineIndex_le hle
    rcases Nat.lt_or_eq_of_le hfst with hlt | heq
    · exact Or.inl hlt
    · refine Or.inr ⟨heq.symm, ?_⟩
      simp only [lineIndex_mk, position, ← heq] at hle
      omega

theorem position_safelySetTop_of_lt {item : Nat} (offset : Nat) (h : item < v.maxTop.1) :
    (v.safelySetTop item offset).position = (item, offset) := by
  simp only [safelySetTop, position]
  rcases hmt : v.maxTop with ⟨mi, mo⟩
  rw [hmt] at h
  simp only [Nat.min_eq_left (Nat.le_of_lt h), if_neg (Nat.ne_of_lt h)]

/-- At or past the lowest position's item, only the item is held to it; the offset is held to
the lowest position's offset and no further. -/
theorem position_safelySetTop_of_le {item : Nat} (offset : Nat) (h : v.maxTop.1 ≤ item) :
    (v.safelySetTop item offset).position = (v.maxTop.1, min offset v.maxTop.2) := by
  simp only [safelySetTop, position]
  rcases hmt : v.maxTop with ⟨mi, mo⟩
  rw [hmt] at h
  simp only [Nat.min_eq_right h, ↓reduceIte]

/-- A well-placed position no lower than the lowest one is kept as it is. -/
theorem position_safelySetTop_of_lineIndex_le (hw : 0 < v.width) (hm : v.WellPlaced v.maxTop)
    {p : Nat × Nat} (h : v.lineIndex p ≤ v.lowestLine) :
    (v.safelySetTop p.1 p.2).position = p := by
  rw [← lineIndex_maxTop hw] at h
  rcases Nat.lt_or_eq_of_le (hm.fst_le_of_lineIndex_le h) with hlt | heq
  · exact position_safelySetTop_of_lt p.2 hlt
  · have ho : p.2 ≤ v.maxTop.2 := by
      simp only [lineIndex, heq] at h
      omega
    rw [position_safelySetTop_of_le p.2 (Nat.le_of_eq heq.symm), Nat.min_eq_left ho, ← heq]

end Lowest

section Scroll

variable {v : Viewport α}

/-- A scroll of no rows, down from the bottom or up from the first row leaves the view. -/
theorem scrollBy_of_stays {k : Int}
    (h : k = 0 ∨ (0 < k ∧ v.isScrolledToBottom = true) ∨ (k < 0 ∧ v.position = (0, 0))) :
    v.scrollBy k = v := by
  unfold scrollBy
  rcases h with h | ⟨hk, hb⟩ | ⟨hk, ht⟩
  · simp [h]
  · simp [hk, hb]
  · simp only [position, Prod.mk.injEq] at ht
    simp [hk, ht.1, ht.2]

/-- Any other scroll goes to the shifted position, held by `safelySetTop`. -/
theorem position_scrollBy_of_moves (hw : 0 < v.width) (hn : 0 < v.items.size) {k : Int}
    (h : ¬(k = 0 ∨ (0 < k ∧ v.isScrolledToBottom = true) ∨ (k < 0 ∧ v.position = (0, 0)))) :
    (v.scrollBy k).position = (v.safelySetTop (v.shifted k).1 (v.shifted k).2).position := by
  simp only [not_or, not_and, position, Prod.mk.injEq] at h
  obtain ⟨h0, hb, ht⟩ := h
  have hne := items_isEmpty hn
  unfold scrollBy
  simp only [hne, Nat.ne_of_gt hw, h0, decide_false, Bool.or_false, Bool.false_eq_true,
    if_false, decide_eq_true_eq, Bool.and_eq_true]
  rw [if_neg fun h => hb h.1 h.2, if_neg fun h => ht h.1.1 h.1.2 h.2]
  rfl

@[simp] theorem lineIndex_position (v : Viewport α) :
    v.lineIndex v.position = v.linesBefore v.topItem + v.topOffset := rfl

theorem shifted_of_not_wrap (hwrap : v.wrap = false) (k : Int) :
    v.shifted k = ((v.topItem + k).toNat, v.topOffset) := by
  simp [shifted, hwrap]

/-- Up `k` rows with wrapping: `k` rows higher, or the first row. -/
theorem shifted_up (hw : 0 < v.width) (hn : 0 < v.items.size) (hwrap : v.wrap = true)
    (hp : v.WellPlaced v.position) {k : Int} (hk : k < 0) :
    v.WellPlaced (v.shifted k) ∧
      v.lineIndex (v.shifted k) = v.lineIndex v.position - k.natAbs := by
  have hp' : v.topOffset < v.numLinesFor v.topItem := hp
  simp only [shifted, hwrap, hk, Bool.not_true, Bool.false_eq_true, if_false, if_true]
  split
  · refine ⟨?_, ?_⟩
    · show v.topOffset - k.natAbs < v.numLinesFor v.topItem
      omega
    · rw [lineIndex_mk, lineIndex_position]
      omega
  · refine ⟨wellPlaced_walkUp hw hn _ (by omega), ?_⟩
    rw [lineIndex_walkUp, lineIndex_position]
    omega

/-- Down `k` rows with wrapping, to a row that exists: exactly `k` rows lower. -/
theorem shifted_down_of_lt (hwrap : v.wrap = true) (hp : v.WellPlaced v.position) {k : Int}
    (hk : 0 < k) (h : v.lineIndex v.position + k.toNat < v.totalLines) :
    v.WellPlaced (v.shifted k) ∧
      v.lineIndex (v.shifted k) = v.lineIndex v.position + k.toNat := by
  have hp' : v.topOffset < v.numLinesFor v.topItem := hp
  have hs := linesBefore_succ v v.topItem
  rw [lineIndex_position] at h ⊢
  simp only [shifted, hwrap, Int.not_lt.2 (Int.le_of_lt hk), Bool.not_true, Bool.false_eq_true,
    if_false]
  split
  · refine ⟨?_, ?_⟩
    · show v.topOffset + k.toNat < v.numLinesFor v.topItem
      omega
    · rw [lineIndex_mk]
      omega
  · -- the walk aims at the same row, counted from the end of the top item
    obtain ⟨hw', hi⟩ := walkDown_of_lt v v.topOffset v.items.size v.topItem
      (k.toNat - (v.numLinesFor v.topItem - (v.topOffset + 1))) (by omega) (by omega) (by omega)
    refine ⟨hw', ?_⟩
    rw [hi]
    omega

/-- Down `k` rows with wrapping, past the last row: the last item, at the offset the view had. -/
theorem shifted_down_of_le (hwrap : v.wrap = true) (hp : v.WellPlaced v.position) {k : Int}
    (hk : 0 < k) (h : v.totalLines ≤ v.lineIndex v.position + k.toNat) :
    v.shifted k = (v.items.size - 1, v.topOffset) := by
  have hp' : v.topOffset < v.numLinesFor v.topItem := hp
  have hs := linesBefore_succ v v.topItem
  have hle : v.linesBefore (v.topItem + 1) ≤ v.totalLines := linesBefore_mono hp.fst_lt
  rw [lineIndex_position] at h
  simp only [shifted, hwrap, Int.not_lt.2 (Int.le_of_lt hk), Bool.not_true, Bool.false_eq_true,
    if_false]
  split
  · omega
  · exact walkDown_of_le v v.topOffset v.items.size v.topItem _ (by omega) hp.fst_lt (by omega)
      (by omega)

/-- The view stays only where its row index is already the one aimed at, held to the limits. -/
theorem lineIndex_of_stays (hw : 0 < v.width) (hm : v.WellPlaced v.maxTop)
    (hp : v.WellPlaced v.position) {k : Int} (hle : 0 ≤ k → v.lineIndex v.position ≤ v.lowestLine)
    (h : k = 0 ∨ (0 < k ∧ v.isScrolledToBottom = true) ∨ (k < 0 ∧ v.position = (0, 0))) :
    (v.lineIndex v.position : Int) =
      min (max ((v.lineIndex v.position : Int) + k) 0) (v.lowestLine : Int) := by
  rcases h with h | ⟨hk, hb⟩ | ⟨hk, ht⟩
  · have := hle (by omega)
    omega
  · have hbot := (isScrolledToBottom_iff hw hm hp).1 hb
    have := hle (by omega)
    omega
  · have h0 : v.lineIndex v.position = 0 := by rw [ht]; rfl
    omega

/-- Without wrapping every scroll lands where row arithmetic says. -/
theorem scrollBy_of_not_wrap (hw : 0 < v.width) (hn : 0 < v.items.size)
    (hR : 0 < v.numContentLines) (hwrap : v.wrap = false) (hp : v.WellPlaced v.position) {k : Int}
    (hle : 0 ≤ k → v.lineIndex v.position ≤ v.lowestLine) :
    v.WellPlaced (v.scrollBy k).position ∧
      (v.lineIndex (v.scrollBy k).position : Int) =
        min (max ((v.lineIndex v.position : Int) + k) 0) (v.lowestLine : Int) := by
  have hm := wellPlaced_maxTop hw hn hR
  have hone : ∀ {i}, i < v.items.size → v.numLinesFor i = 1 := numLinesFor_of_not_wrap hw hwrap
  have hpos : v.topOffset = 0 := hp.snd_eq_zero_of_not_wrap hw hwrap
  have hmo : v.maxTop.2 = 0 := hm.snd_eq_zero_of_not_wrap hw hwrap
  have hmi : v.maxTop.1 = v.lowestLine := by
    rw [← lineIndex_maxTop hw, hm.lineIndex_of_not_wrap hw hwrap]
  have hline : v.lineIndex v.position = v.topItem := hp.lineIndex_of_not_wrap hw hwrap
  by_cases hstay : k = 0 ∨ (0 < k ∧ v.isScrolledToBottom = true) ∨ (k < 0 ∧ v.position = (0, 0))
  · rw [scrollBy_of_stays hstay]
    exact ⟨hp, lineIndex_of_stays hw hm hp hle hstay⟩
  rw [position_scrollBy_of_moves hw hn hstay, shifted_of_not_wrap hwrap]
  dsimp only
  have hmlt := hm.fst_lt
  by_cases hlt : (v.topItem + k).toNat < v.maxTop.1
  · rw [position_safelySetTop_of_lt _ hlt]
    have h1 : v.numLinesFor (v.topItem + k).toNat = 1 := hone (by omega)
    refine ⟨show v.topOffset < v.numLinesFor (v.topItem + k).toNat by omega, ?_⟩
    rw [lineIndex_mk, linesBefore_of_not_wrap hw hwrap (by omega)]
    omega
  · rw [position_safelySetTop_of_le _ (Nat.le_of_not_lt hlt), hmo, Nat.min_eq_right (Nat.zero_le _)]
    refine ⟨by rw [← hmo]; exact hm, ?_⟩
    rw [lineIndex_mk, linesBefore_of_not_wrap hw hwrap (Nat.le_of_lt hm.fst_lt)]
    omega

/-- A scroll up to a row no lower than the lowest position lands where row arithmetic says:
`k` rows up, or the first row. -/
theorem scrollBy_of_nonpos (hw : 0 < v.width) (hn : 0 < v.items.size)
    (hR : 0 < v.numContentLines) (hp : v.WellPlaced v.position) {k : Int} (hk : k ≤ 0)
    (hle : v.lineIndex v.position - k.natAbs ≤ v.lowestLine) :
    v.WellPlaced (v.scrollBy k).position ∧
      v.lineIndex (v.scrollBy k).position = v.lineIndex v.position - k.natAbs := by
  have hm := wellPlaced_maxTop hw hn hR
  have hdown : 0 ≤ k → v.lineIndex v.position ≤ v.lowestLine := fun _ => by omega
  cases hwrap : v.wrap with
  | false =>
      obtain ⟨hs, hl⟩ := scrollBy_of_not_wrap hw hn hR hwrap hp hdown
      exact ⟨hs, by omega⟩
  | true =>
      by_cases hstay : k = 0 ∨ (0 < k ∧ v.isScrolledToBottom = true) ∨ (k < 0 ∧ v.position = (0, 0))
      · rw [scrollBy_of_stays hstay]
        have := lineIndex_of_stays hw hm hp hdown hstay
        exact ⟨hp, by omega⟩
      have hk' : k < 0 := by omega
      obtain ⟨hs, hl⟩ := shifted_up hw hn hwrap hp hk'
      rw [position_scrollBy_of_moves hw hn hstay,
        position_safelySetTop_of_lineIndex_le hw hm (by omega)]
      exact ⟨hs, hl⟩

/-- A downward scroll by `k` rows that stops short of the lowest position: from above the lowest
position it aims past it, and the row aimed at is fewer rows into its item than the lowest
position's offset, or, aimed past the last row, the view's own offset is. -/
def StopsShort (v : Viewport α) (k : Int) : Prop :=
  v.wrap = true ∧ 0 < k ∧ v.lineIndex v.position < v.lowestLine ∧
    v.lowestLine < v.lineIndex v.position + k.toNat ∧
    ((∃ p, v.WellPlaced p ∧ v.lineIndex p = v.lineIndex v.position + k.toNat ∧ p.2 < v.maxTop.2) ∨
      (v.totalLines ≤ v.lineIndex v.position + k.toNat ∧ v.topOffset < v.maxTop.2))

/-- The last part of `StopsShort` reads the offset of the position the downward walk reaches. -/
theorem aimedShort_iff (hwrap : v.wrap = true) (hp : v.WellPlaced v.position) {k : Int}
    (hk : 0 < k) :
    ((∃ p, v.WellPlaced p ∧ v.lineIndex p = v.lineIndex v.position + k.toNat ∧ p.2 < v.maxTop.2) ∨
      (v.totalLines ≤ v.lineIndex v.position + k.toNat ∧ v.topOffset < v.maxTop.2)) ↔
      (v.shifted k).2 < v.maxTop.2 := by
  by_cases hlt : v.lineIndex v.position + k.toNat < v.totalLines
  · -- the row aimed at exists, and the walk reaches the one position that names it
    obtain ⟨hs, hl⟩ := shifted_down_of_lt hwrap hp hk hlt
    constructor
    · rintro (⟨q, hq, hql, hqo⟩ | ⟨hge, -⟩)
      · rwa [hs.eq_of_lineIndex_eq hq (hl.trans hql.symm)]
      · omega
    · exact fun h => Or.inl ⟨_, hs, hl, h⟩
  · rw [shifted_down_of_le hwrap hp hk (Nat.le_of_not_lt hlt)]
    constructor
    · rintro (⟨q, hq, hql, -⟩ | ⟨-, ho⟩)
      · exact absurd (hql ▸ hq.lineIndex_lt_totalLines) hlt
      · exact ho
    · exact fun h => Or.inr ⟨Nat.le_of_not_lt hlt, h⟩

/-- A walk down aimed past the lowest position reaches its item or a later one. -/
theorem maxTop_fst_le_shifted (hw : 0 < v.width) (hm : v.WellPlaced v.maxTop)
    (hwrap : v.wrap = true) (hp : v.WellPlaced v.position) {k : Int} (hk : 0 < k)
    (h : v.lowestLine < v.lineIndex v.position + k.toNat) : v.maxTop.1 ≤ (v.shifted k).1 := by
  by_cases hlt : v.lineIndex v.position + k.toNat < v.totalLines
  · obtain ⟨hs, hl⟩ := shifted_down_of_lt hwrap hp hk hlt
    refine Nat.le_of_not_lt fun hfst => ?_
    have := hs.lineIndex_lt_of_fst_lt hfst
    rw [lineIndex_maxTop hw] at this
    omega
  · rw [shifted_down_of_le hwrap hp hk (Nat.le_of_not_lt hlt)]
    have := hm.fst_lt
    dsimp only
    omega

/-- A scroll down with wrapping lands `k` rows lower, held at the lowest position, unless it
stops short of it. -/
theorem scrollBy_of_pos (hw : 0 < v.width) (hn : 0 < v.items.size)
    (hR : 0 < v.numContentLines) (hwrap : v.wrap = true) (hp : v.WellPlaced v.position)
    (hle : v.lineIndex v.position ≤ v.lowestLine) {k : Int} (hk : 0 < k) :
    v.WellPlaced (v.scrollBy k).position ∧
      (v.lineIndex (v.scrollBy k).position = min (v.lineIndex v.position + k.toNat) v.lowestLine ↔
        ¬v.StopsShort k) := by
  have hm := wellPlaced_maxTop hw hn hR
  have hml := lineIndex_maxTop hw
  by_cases hb : v.isScrolledToBottom = true
  · -- at the bottom the view stays, and no scroll from there stops short
    have hbot := (isScrolledToBottom_iff hw hm hp).1 hb
    rw [scrollBy_of_stays (Or.inr (Or.inl ⟨hk, hb⟩))]
    have hns : ¬v.StopsShort k := fun h => absurd h.2.2.1 (by omega)
    exact ⟨hp, by simp only [hns, not_false_eq_true, iff_true]; omega⟩
  have hpos : v.lineIndex v.position < v.lowestLine :=
    Nat.lt_of_not_le (mt (isScrolledToBottom_iff hw hm hp).2 hb)
  have hstay : ¬(k = 0 ∨ (0 < k ∧ v.isScrolledToBottom = true) ∨ (k < 0 ∧ v.position = (0, 0))) := by
    rintro (h | ⟨-, h⟩ | ⟨h, -⟩)
    · omega
    · exact hb h
    · omega
  rw [position_scrollBy_of_moves hw hn hstay]
  by_cases hlow : v.lineIndex v.position + k.toNat ≤ v.lowestLine
  · -- aimed at or above the lowest position: the row aimed at is reached
    have hlt : v.lineIndex v.position + k.toNat < v.totalLines :=
      Nat.lt_of_le_of_lt hlow (hml ▸ hm.lineIndex_lt_totalLines)
    obtain ⟨hs, hl⟩ := shifted_down_of_lt hwrap hp hk hlt
    rw [position_safelySetTop_of_lineIndex_le hw hm (by omega)]
    have hns : ¬v.StopsShort k := fun h => absurd h.2.2.2.1 (by omega)
    exact ⟨hs, by simp only [hns, not_false_eq_true, iff_true]; omega⟩
  · -- aimed past it: held to the lowest position's item, at the offset reached
    have hover : v.lowestLine < v.lineIndex v.position + k.toNat := Nat.lt_of_not_le hlow
    rw [position_safelySetTop_of_le _ (maxTop_fst_le_shifted hw hm hwrap hp hk hover)]
    have hm' : v.maxTop.2 < v.numLinesFor v.maxTop.1 := hm
    refine ⟨show min _ _ < v.numLinesFor v.maxTop.1 by omega, ?_⟩
    have hss : v.StopsShort k ↔ (v.shifted k).2 < v.maxTop.2 := by
      rw [← aimedShort_iff hwrap hp hk]
      simp only [StopsShort, hwrap, hk, hpos, hover, true_and]
    rw [hss, lineIndex_mk]
    simp only [lineIndex] at hml
    omega

/-- Scrolling in row indexes. The lowest position is the well-placed position of row
`lowestLine`. From a well-placed position at or above it, a scroll by `k` rows lands on a
well-placed position, and that position is row `p + k` held between the first row and
`lowestLine` exactly when the scroll does not stop short. -/
theorem scrollBy_lineIndex_iff (hw : 0 < v.width) (hn : 0 < v.items.size)
    (hR : 0 < v.numContentLines) (hp : v.WellPlaced v.position)
    (hle : v.lineIndex v.position ≤ v.lowestLine) (k : Int) :
    v.WellPlaced v.maxTop ∧ v.lineIndex v.maxTop = v.lowestLine ∧
      v.WellPlaced (v.scrollBy k).position ∧
      ((v.lineIndex (v.scrollBy k).position : Int) =
          min (max ((v.lineIndex v.position : Int) + k) 0) (v.lowestLine : Int) ↔
        ¬v.StopsShort k) := by
  refine ⟨wellPlaced_maxTop hw hn hR, lineIndex_maxTop hw, ?_⟩
  cases hwrap : v.wrap with
  | false =>
      have hns : ¬v.StopsShort k := fun h => Bool.false_ne_true (hwrap.symm.trans h.1)
      obtain ⟨hs, hl⟩ := scrollBy_of_not_wrap hw hn hR hwrap hp fun _ => hle
      exact ⟨hs, by simp only [hns, not_false_eq_true, iff_true]; exact hl⟩
  | true =>
      by_cases hk : 0 < k
      · obtain ⟨hs, hl⟩ := scrollBy_of_pos hw hn hR hwrap hp hle hk
        refine ⟨hs, Iff.trans ?_ hl⟩
        omega
      · have hns : ¬v.StopsShort k := fun h => hk h.2.1
        obtain ⟨hs, hl⟩ := scrollBy_of_nonpos hw hn hR hp (Int.not_lt.1 hk) (by omega)
        exact ⟨hs, by simp only [hns, not_false_eq_true, iff_true]; omega⟩

end Scroll

/-- A page down that moves the view up: sixteen letters wrapped four to a row above a one-row
item, in a window of three content rows, scrolled one row down. The page down aims at row 4, past
the lowest row 2, in the second item at offset 0, and is held to offset 0 of the first item. -/
theorem pageDown_moves_view_up :
    let v := (((new 4 4 : Viewport String).setWrap true).setContent
      #["abcdefghijklmnop", "x"]).navigate .down
    v.lineIndex v.position = 1 ∧ v.lowestLine = 2 ∧
      v.lineIndex (v.navigate .pageDown).position = 0 := by
  decide

/-- The same view meets every condition of `scrollBy_lineIndex_iff`, scrolled by a page. -/
theorem scrollBy_lineIndex_iff_page :
    let v := (((new 4 4 : Viewport String).setWrap true).setContent
      #["abcdefghijklmnop", "x"]).navigate .down
    0 < v.width ∧ 0 < v.items.size ∧ 0 < v.numContentLines ∧ v.WellPlaced v.position ∧
      v.lineIndex v.position ≤ v.lowestLine ∧
      (v.WellPlaced v.maxTop ∧ v.lineIndex v.maxTop = v.lowestLine ∧
        v.WellPlaced (v.scrollBy 3).position ∧
        ((v.lineIndex (v.scrollBy 3).position : Int) =
            min (max ((v.lineIndex v.position : Int) + 3) 0) (v.lowestLine : Int) ↔
          ¬v.StopsShort 3)) := by
  intro v
  have hw : 0 < v.width := by decide
  have hn : 0 < v.items.size := by decide
  have hR : 0 < v.numContentLines := by decide
  have hp : v.WellPlaced v.position := by decide
  have hle : v.lineIndex v.position ≤ v.lowestLine := by decide
  exact ⟨hw, hn, hR, hp, hle, scrollBy_lineIndex_iff hw hn hR hp hle 3⟩

end Viewport

end LogBrowser
