import LogBrowser.View.Viewport.Update

/-!
# What moving the viewport leaves alone

Scrolling, selecting and panning change four fields of a viewport: the selection, the top item,
the rows of it scrolled away, and the horizontal offset. `Viewport.Moves v w` says that `w` is
`v` with at most these four changed. Every scroll and selection operation moves its viewport
(`moves_scrollBy`, `moves_scrollToIndex`, `moves_setSelectedIndex`, `moves_navigate`), and the
operations that also change the layout move the viewport with the new layout
(`moves_setContent`, `moves_setWrap`, `moves_setDimensions`). The items, the header, the
highlight and the selection style are then read off unchanged.
-/

namespace LogBrowser

namespace Viewport

variable {α : Type}

/-- `w` is `v` with at most the selection, the scroll position and the pan changed. -/
def Moves (v w : Viewport α) : Prop :=
  ∃ s t o x, w = { v with selected := s, topItem := t, topOffset := o, xOffset := x }

theorem Moves.refl (v : Viewport α) : Moves v v :=
  ⟨v.selected, v.topItem, v.topOffset, v.xOffset, rfl⟩

theorem Moves.trans {u v w : Viewport α} (h₁ : Moves u v) (h₂ : Moves v w) : Moves u w := by
  obtain ⟨s, t, o, x, rfl⟩ := h₂
  obtain ⟨-, -, -, -, rfl⟩ := h₁
  exact ⟨s, t, o, x, rfl⟩

section Fields

variable {v w : Viewport α}

theorem Moves.items (h : Moves v w) : w.items = v.items := by
  obtain ⟨s, t, o, x, rfl⟩ := h
  rfl

theorem Moves.header (h : Moves v w) : w.header = v.header := by
  obtain ⟨s, t, o, x, rfl⟩ := h
  rfl

theorem Moves.highlight (h : Moves v w) : w.highlight = v.highlight := by
  obtain ⟨s, t, o, x, rfl⟩ := h
  rfl

theorem Moves.selectionStyle (h : Moves v w) : w.selectionStyle = v.selectionStyle := by
  obtain ⟨s, t, o, x, rfl⟩ := h
  rfl

theorem Moves.selectionEnabled (h : Moves v w) : w.selectionEnabled = v.selectionEnabled := by
  obtain ⟨s, t, o, x, rfl⟩ := h
  rfl

end Fields

theorem moves_select (v : Viewport α) (s : Nat) : Moves v { v with selected := s } :=
  ⟨s, v.topItem, v.topOffset, v.xOffset, rfl⟩

theorem moves_top (v : Viewport α) (t o : Nat) : Moves v { v with topItem := t, topOffset := o } :=
  ⟨v.selected, t, o, v.xOffset, rfl⟩

variable [Record α]

theorem moves_safelySetTop (v : Viewport α) (item offset : Nat) :
    Moves v (v.safelySetTop item offset) :=
  moves_top v _ _

theorem moves_safelySetXOffset (v : Viewport α) (n : Nat) : Moves v (v.safelySetXOffset n) :=
  ⟨v.selected, v.topItem, v.topOffset, _, rfl⟩

theorem moves_scrollBy (v : Viewport α) (n : Int) : Moves v (v.scrollBy n) := by
  unfold scrollBy
  split
  · exact Moves.refl v
  split
  · exact Moves.refl v
  split
  · exact Moves.refl v
  exact (moves_safelySetTop v _ _).trans (moves_safelySetXOffset _ _)

theorem moves_scrollToIndex (v : Viewport α) (index : Nat) : Moves v (v.scrollToIndex index) := by
  unfold scrollToIndex
  split
  · exact moves_safelySetTop v 0 0
  extract_lets index linesInItem inView atItem w
  -- the scroll towards the item, then possibly the undo back to the old position
  have hw : Moves v w := by
    simp only [w]
    split
    · split
      · exact (moves_top v index 0).trans (moves_scrollBy _ _)
      · exact moves_top v index 0
    · exact Moves.refl v
  split
  · exact hw.trans (moves_top w v.topItem v.topOffset)
  · exact hw

theorem moves_setSelectedIndex (v : Viewport α) (index : Nat) :
    Moves v (v.setSelectedIndex index) := by
  unfold setSelectedIndex
  split
  · exact Moves.refl v
  split
  · exact moves_select v 0
  · exact (moves_select v _).trans (moves_scrollToIndex _ _)

/-- Every navigation scrolls, selects, scrolls and then selects, goes to the first row, holds the
lowest position, pans, or leaves the view: a property that these keep, every navigation keeps. -/
theorem navigate_of {P : Viewport α → Prop} (v : Viewport α) (n : Navigation) (hv : P v)
    (hscroll : ∀ k, P (v.scrollBy k))
    (hselect : ∀ w : Viewport α, P w → ∀ i, P (w.setSelectedIndex i))
    (htop : P { v with topItem := 0, topOffset := 0 })
    (hbottom : P (v.safelySetTop v.maxTop.1 v.maxTop.2))
    (hpan : ∀ x, P (v.safelySetXOffset x)) : P (v.navigate n) := by
  -- a page or half-page move scrolls first and then, with selection on, selects
  have hpage : ∀ k m, P
      (if (v.scrollBy k).selectionEnabled then (v.scrollBy k).setSelectedIndex m
        else v.scrollBy k) := by
    intro k m
    split
    · exact hselect _ (hscroll k) m
    · exact hscroll k
  cases n with
  | up =>
      simp only [navigate, selectUp, scrollUp]
      split
      · exact hselect v hv _
      · exact hscroll _
  | down =>
      simp only [navigate, selectDown, scrollDown]
      split
      · exact hselect v hv _
      · exact hscroll _
  | pageUp => exact hpage _ _
  | pageDown => exact hpage _ _
  | halfPageUp => exact hpage _ _
  | halfPageDown => exact hpage _ _
  | top =>
      simp only [navigate]
      split
      · exact hselect v hv 0
      · exact htop
  | bottom =>
      simp only [navigate, selectDown]
      split
      · exact hselect v hv _
      · exact hbottom
  | left =>
      simp only [navigate]
      split
      · exact hv
      · exact hpan _
  | right =>
      simp only [navigate]
      split
      · exact hv
      · exact hpan _

theorem moves_navigate (v : Viewport α) (n : Navigation) : Moves v (v.navigate n) :=
  navigate_of v n (Moves.refl v) (moves_scrollBy v)
    (fun w hw i => hw.trans (moves_setSelectedIndex w i)) (moves_top v 0 0)
    (moves_safelySetTop v _ _) (moves_safelySetXOffset v)

theorem moves_scrollSelectionIntoView (v : Viewport α) : Moves v v.scrollSelectionIntoView :=
  moves_scrollToIndex v v.selected

theorem moves_restoreSelectionRow (v : Viewport α) (row : Nat) :
    Moves v (v.restoreSelectionRow row) := by
  unfold restoreSelectionRow
  split
  split
  · exact moves_scrollBy v _
  · exact Moves.refl v

/-- New content moves the viewport that holds it. -/
theorem moves_setContent [BEq α] (v : Viewport α) (items : Array α) :
    Moves { v with items := items } (v.setContent items) := by
  unfold setContent
  extract_lets row len stayTop stayBottom previous w₀ w₁ w₂ w₃ w₄
  have h₂ : Moves { v with items := items } w₂ :=
    (moves_safelySetTop _ _ _).trans (moves_safelySetXOffset _ _)
  split
  · exact h₂
  split
  · exact h₂.trans ((moves_select _ _).trans (moves_scrollSelectionIntoView _))
  have h₃ : Moves w₂ w₃ := by
    simp only [w₃]
    split
    · exact moves_select w₂ 0
    split
    · exact moves_select w₂ _
    · exact Moves.refl w₂
  exact h₂.trans (h₃.trans ((moves_select w₃ _).trans
    ((moves_scrollSelectionIntoView _).trans (moves_restoreSelectionRow _ row))))

/-- Wrapping moves the viewport with the new wrapping. -/
theorem moves_setWrap (v : Viewport α) (b : Bool) :
    Moves { v with wrap := b } (v.setWrap b) := by
  unfold setWrap
  extract_lets row w₀ w₁ w₂
  have h₀ : Moves { v with wrap := b } w₀ := ⟨v.selected, v.topItem, 0, 0, rfl⟩
  have h₂ : Moves w₀ w₂ := by
    simp only [w₂]
    split
    · split
      · exact (moves_scrollSelectionIntoView w₀).trans
          ((moves_scrollBy _ _).trans (moves_scrollSelectionIntoView _))
      · exact moves_scrollSelectionIntoView w₀
    · exact Moves.refl w₀
  exact h₀.trans (h₂.trans (moves_safelySetTop w₂ _ _))

/-- Resizing moves the viewport with the new size. -/
theorem moves_setDimensions (v : Viewport α) (width height : Nat) :
    Moves { v with width := width, height := height } (v.setDimensions width height) := by
  unfold setDimensions
  extract_lets w₀ w₁
  split
  · exact Moves.refl _
  have h₁ : Moves w₀ w₁ := by
    simp only [w₁]
    split
    · exact moves_scrollSelectionIntoView w₀
    · exact Moves.refl w₀
  exact h₁.trans (moves_safelySetTop w₁ _ _)

end Viewport

end LogBrowser
