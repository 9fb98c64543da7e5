import LogBrowser.Proofs.Viewport.Visible

/-!
# Where new content leaves the selection

`setContent` replaces the items of a viewport and places the selection by the first of three
rules that applies: a viewport stuck to its top, with the first item selected, selects the first
item again; one stuck to its bottom, with the last item selected, selects the new last item; one
that maintains its selection looks for the old selected item among the new items, by the items'
own equality, and selects it. `FollowsSelection v w` states the three rules for a viewport `v`
and the viewport `w` that follows it, and `followsSelection_setContent` proves them of
`setContent`.

Around new content a view also changes the header, the highlight or the selection style. These
keep the items, the selection and its flags (`SameSelection`), and the rules carry over them
(`FollowsSelection.of_same_left`, `FollowsSelection.of_same_right`).
-/

namespace LogBrowser

namespace Viewport

variable {α : Type}

/-- `w` has the items, the selection and the selection flags of `v`. -/
structure SameSelection (v w : Viewport α) : Prop where
  items : w.items = v.items
  selected : w.selected = v.selected
  selectionEnabled : w.selectionEnabled = v.selectionEnabled
  topSticky : w.topSticky = v.topSticky
  bottomSticky : w.bottomSticky = v.bottomSticky
  maintainSelection : w.maintainSelection = v.maintainSelection

namespace SameSelection

theorem refl (v : Viewport α) : SameSelection v v := ⟨rfl, rfl, rfl, rfl, rfl, rfl⟩

theorem trans {u v w : Viewport α} (h₁ : SameSelection u v) (h₂ : SameSelection v w) :
    SameSelection u w :=
  ⟨h₂.items.trans h₁.items, h₂.selected.trans h₁.selected,
    h₂.selectionEnabled.trans h₁.selectionEnabled, h₂.topSticky.trans h₁.topSticky,
    h₂.bottomSticky.trans h₁.bottomSticky, h₂.maintainSelection.trans h₁.maintainSelection⟩

end SameSelection

theorem sameSelection_setHeader (v : Viewport α) (h : List String) :
    SameSelection v (v.setHeader h) :=
  ⟨rfl, rfl, rfl, rfl, rfl, rfl⟩

theorem sameSelection_setHighlight (v : Viewport α) (t : String) :
    SameSelection v (v.setHighlight t) :=
  ⟨rfl, rfl, rfl, rfl, rfl, rfl⟩

theorem sameSelection_setSelectionStyle (v : Viewport α) (s : SelectionStyle) :
    SameSelection v (v.setSelectionStyle s) :=
  ⟨rfl, rfl, rfl, rfl, rfl, rfl⟩

/-- The flags that choose the rule by which new content places the selection. -/
def stickiness (v : Viewport α) : Bool × Bool × Bool :=
  (v.topSticky, v.bottomSticky, v.maintainSelection)

theorem Moves.stickiness {v w : Viewport α} (h : Moves v w) : w.stickiness = v.stickiness := by
  obtain ⟨s, t, o, x, rfl⟩ := h
  rfl

@[simp] theorem stickiness_setHeader (v : Viewport α) (h : List String) :
    (v.setHeader h).stickiness = v.stickiness := rfl

@[simp] theorem stickiness_setHighlight (v : Viewport α) (t : String) :
    (v.setHighlight t).stickiness = v.stickiness := rfl

@[simp] theorem stickiness_setSelectionStyle (v : Viewport α) (s : SelectionStyle) :
    (v.setSelectionStyle s).stickiness = v.stickiness := rfl

@[simp] theorem stickiness_setSelectionEnabled (v : Viewport α) (b : Bool) :
    (v.setSelectionEnabled b).stickiness = v.stickiness := rfl

@[simp] theorem stickiness_setFocused (v : Viewport α) (b : Bool) :
    (v.setFocused b).stickiness = v.stickiness := rfl

section Moves

variable [Record α]

@[simp] theorem stickiness_setSelectedIndex (v : Viewport α) (i : Nat) :
    (v.setSelectedIndex i).stickiness = v.stickiness :=
  (moves_setSelectedIndex v i).stickiness

@[simp] theorem stickiness_scrollToIndex (v : Viewport α) (i : Nat) :
    (v.scrollToIndex i).stickiness = v.stickiness :=
  (moves_scrollToIndex v i).stickiness

@[simp] theorem stickiness_navigate (v : Viewport α) (n : Navigation) :
    (v.navigate n).stickiness = v.stickiness :=
  (moves_navigate v n).stickiness

@[simp] theorem stickiness_setWrap (v : Viewport α) (b : Bool) :
    (v.setWrap b).stickiness = v.stickiness :=
  (moves_setWrap v b).stickiness

@[simp] theorem stickiness_setDimensions (v : Viewport α) (w h : Nat) :
    (v.setDimensions w h).stickiness = v.stickiness :=
  (moves_setDimensions v w h).stickiness

@[simp] theorem stickiness_setContent [BEq α] (v : Viewport α) (items : Array α) :
    (v.setContent items).stickiness = v.stickiness :=
  (moves_setContent v items).stickiness

end Moves

variable [BEq α]

/-- The three rules by which the selection of `v` is placed in `w`, once the items have changed:
kept on the first item at a sticky top, moved to the last item at a sticky bottom, and otherwise,
while the selection is maintained, moved to an item equal to the old selected one, when there is
one. -/
structure FollowsSelection (v w : Viewport α) : Prop where
  selectionEnabled : w.selectionEnabled = v.selectionEnabled
  top : v.selectionEnabled = true → v.topSticky = true → 0 < v.items.size → v.selected = 0 →
    w.selected = 0
  bottom : v.selectionEnabled = true → v.topSticky = false → v.bottomSticky = true →
    v.selected + 1 = v.items.size → 0 < w.items.size → w.selected + 1 = w.items.size
  keeps : v.selectionEnabled = true → v.maintainSelection = true →
    ¬(v.topSticky = true ∧ v.selected = 0) → ¬(v.bottomSticky = true ∧ v.selected + 1 = v.items.size) →
    ∀ x, v.items[v.selected]? = some x → (∃ y ∈ w.items, (y == x) = true) →
      ∃ y, w.items[w.selected]? = some y ∧ (y == x) = true

/-- Leaving the items and the selection alone follows the rules, when every item equals
itself. -/
theorem SameSelection.followsSelection [ReflBEq α] {v w : Viewport α} (h : SameSelection v w) :
    FollowsSelection v w := by
  refine ⟨h.selectionEnabled, fun _ _ _ h0 => h.selected.trans h0, fun _ _ _ hlast _ => ?_, ?_⟩
  · rw [h.selected, h.items]
    exact hlast
  · intro _ _ _ _ x hx _
    exact ⟨x, by rw [h.items, h.selected]; exact hx, BEq.rfl⟩

theorem FollowsSelection.of_same_left {u v w : Viewport α} (h₁ : SameSelection u v)
    (h₂ : FollowsSelection v w) : FollowsSelection u w := by
  obtain ⟨hitems, hsel, hen, htop, hbot, hmaint⟩ := h₁
  refine ⟨h₂.selectionEnabled.trans hen, ?_, ?_, ?_⟩
  · intro he ht hpos h0
    exact h₂.top (hen.trans he) (htop.trans ht) (hitems ▸ hpos) (hsel.trans h0)
  · intro he ht hb hlast
    exact h₂.bottom (hen.trans he) (htop.trans ht) (hbot.trans hb) (by rw [hsel, hitems]; exact hlast)
  · intro he hm hnt hnb x hx
    refine h₂.keeps (hen.trans he) (hmaint.trans hm) ?_ ?_ x (by rw [hitems, hsel]; exact hx)
    · rw [htop, hsel]
      exact hnt
    · rw [hbot, hsel, hitems]
      exact hnb

theorem FollowsSelection.of_same_right {u v w : Viewport α} (h₁ : FollowsSelection u v)
    (h₂ : SameSelection v w) : FollowsSelection u w := by
  obtain ⟨hitems, hsel, hen, -, -, -⟩ := h₂
  refine ⟨hen.trans h₁.selectionEnabled, ?_, ?_, ?_⟩
  · intro he ht hpos h0
    rw [hsel]
    exact h₁.top he ht hpos h0
  · intro he ht hb hlast hpos
    rw [hsel, hitems]
    exact h₁.bottom he ht hb hlast (hitems ▸ hpos)
  · intro he hm hnt hnb x hx hin
    rw [hitems, hsel]
    exact h₁.keeps he hm hnt hnb x hx (hitems ▸ hin)

variable [Record α]

omit [BEq α] in
theorem selected_restoreSelectionRow (v : Viewport α) (row : Nat) :
    (v.restoreSelectionRow row).selected = v.selected := by
  unfold restoreSelectionRow
  split
  split
  · exact selected_scrollBy _ _
  · rfl

omit [BEq α] in
theorem selected_scrollSelectionIntoView (v : Viewport α) :
    v.scrollSelectionIntoView.selected = v.selected :=
  selected_scrollToIndex v v.selected

omit [BEq α] in
/-- The selection after the scrolls that end `setContent` is the one they start from. -/
theorem selected_scrollSelectionIntoView_restoreSelectionRow (v : Viewport α) (row : Nat) :
    (v.scrollSelectionIntoView.restoreSelectionRow row).selected = v.selected := by
  rw [selected_restoreSelectionRow, selected_scrollSelectionIntoView]

omit [BEq α] in
theorem sameSelection_safelySetTop (v : Viewport α) (item offset : Nat) :
    SameSelection v (v.safelySetTop item offset) :=
  ⟨rfl, rfl, rfl, rfl, rfl, rfl⟩

omit [BEq α] in
theorem sameSelection_safelySetXOffset (v : Viewport α) (n : Nat) :
    SameSelection v (v.safelySetXOffset n) :=
  ⟨rfl, rfl, rfl, rfl, rfl, rfl⟩

theorem items_setContent (v : Viewport α) (items : Array α) : (v.setContent items).items = items :=
  (moves_setContent v items).items

theorem selected_setContent_of_top (v : Viewport α) (items : Array α)
    (he : v.selectionEnabled = true) (ht : v.topSticky = true) (hpos : 0 < v.items.size)
    (h0 : v.selected = 0) : (v.setContent items).selected = 0 := by
  unfold setContent
  extract_lets row len stayTop stayBottom previous w₀ w₁ w₂ w₃ w₄
  -- placing the top and the pan keeps the selection of the new items
  have h₂ : SameSelection w₀ w₂ :=
    (sameSelection_safelySetTop _ _ _).trans (sameSelection_safelySetXOffset _ _)
  have hTop : stayTop = true := by simp [stayTop, len, he, ht, hpos, h0]
  have hBottom : stayBottom = false := by simp [stayBottom, hTop]
  rw [if_neg (by simp [h₂.selectionEnabled, w₀, he]), if_neg (by simp [hBottom]),
    selected_scrollSelectionIntoView_restoreSelectionRow]
  simp [w₄, w₃, hTop]

theorem selected_setContent_of_bottom (v : Viewport α) (items : Array α)
    (he : v.selectionEnabled = true) (ht : v.topSticky = false) (hb : v.bottomSticky = true)
    (hlast : v.selected + 1 = v.items.size) :
    (v.setContent items).selected = items.size - 1 := by
  unfold setContent
  extract_lets row len stayTop stayBottom previous w₀ w₁ w₂ w₃ w₄
  -- placing the top and the pan keeps the selection of the new items
  have h₂ : SameSelection w₀ w₂ :=
    (sameSelection_safelySetTop _ _ _).trans (sameSelection_safelySetXOffset _ _)
  have hTop : stayTop = false := by simp [stayTop, ht]
  have hBottom : stayBottom = true := by simp [stayBottom, len, hTop, he, hb]; omega
  rw [if_neg (by simp [h₂.selectionEnabled, w₀, he]), if_pos hBottom,
    selected_scrollSelectionIntoView]
  exact congrArg (· - 1) (congrArg Array.size h₂.items)

theorem selected_setContent_of_maintain (v : Viewport α) (items : Array α) {x : α}
    (he : v.selectionEnabled = true) (hm : v.maintainSelection = true)
    (hnt : ¬(v.topSticky = true ∧ v.selected = 0))
    (hnb : ¬(v.bottomSticky = true ∧ v.selected + 1 = v.items.size))
    (hx : v.items[v.selected]? = some x) (hin : ∃ y ∈ items, (y == x) = true) :
    (v.setContent items).selected = items.findIdx (· == x) := by
  have hlt : v.selected < v.items.size := (Array.getElem?_eq_some_iff.1 hx).1
  have hfound : items.findIdx? (· == x) = some (items.findIdx (· == x)) :=
    Array.findIdx?_eq_some_of_exists hin
  have hidx : items.findIdx (· == x) < items.size := Array.findIdx_lt_size_of_exists hin
  unfold setContent
  extract_lets row len stayTop stayBottom previous w₀ w₁ w₂ w₃ w₄
  -- placing the top and the pan keeps the selection of the new items
  have h₂ : SameSelection w₀ w₂ :=
    (sameSelection_safelySetTop _ _ _).trans (sameSelection_safelySetXOffset _ _)
  -- neither sticky end holds the selection, so the old selected item is looked for
  have hTop : stayTop = false := by
    simp only [stayTop, Bool.and_eq_false_iff, decide_eq_false_iff_not]
    by_cases ht : v.topSticky = true <;> simp_all
  have hBottom : stayBottom = false := by
    have hne : ¬(v.bottomSticky = true ∧ (v.items.size = 0 ∨ v.selected = v.items.size - 1)) := by
      rintro ⟨hb, hlen | hsel⟩
      · omega
      · exact hnb ⟨hb, by omega⟩
    simpa [stayBottom, len, hTop, he] using hne
  have hprev : previous = some x := by simp [previous, he, hTop, hBottom, hm, hx]
  have hm₂ : w₂.maintainSelection = true := h₂.maintainSelection.trans hm
  have hitems₂ : w₂.items = items := h₂.items
  rw [if_neg (by simp [h₂.selectionEnabled, w₀, he]), if_neg (by simp [hBottom]),
    selected_scrollSelectionIntoView_restoreSelectionRow]
  simp only [w₄, w₃, hTop, hm₂, hprev, hitems₂, hfound, Option.bind_some, Option.getD_some,
    if_true, Bool.false_eq_true, if_false]
  omega

/-- New content places the selection by the three rules. -/
theorem followsSelection_setContent (v : Viewport α) (items : Array α) :
    FollowsSelection v (v.setContent items) := by
  have hitems := items_setContent v items
  refine ⟨(moves_setContent v items).selectionEnabled, ?_, ?_, ?_⟩
  · exact fun he ht hpos h0 => selected_setContent_of_top v items he ht hpos h0
  · intro he ht hb hlast hpos
    rw [selected_setContent_of_bottom v items he ht hb hlast, hitems]
    rw [hitems] at hpos
    omega
  · intro he hm hnt hnb x hx hin
    rw [hitems] at hin ⊢
    rw [selected_setContent_of_maintain v items he hm hnt hnb hx hin]
    have hidx : items.findIdx (· == x) < items.size := Array.findIdx_lt_size_of_exists hin
    exact ⟨_, Array.getElem?_eq_getElem hidx, @Array.findIdx_getElem _ (· == x) items hidx⟩

end Viewport

end LogBrowser
