import LogBrowser.Proofs.Viewport.Follow

/-!
# The selected index stays in range

A viewport keeps its selected index as a number beside its items. Two calls hold it to the
items, and only while selection is on: new content clamps it to the last item, and selecting
clamps the index asked for. Every other call leaves it alone. Turning selection on does not
clamp it, and new content set while selection is off does not either, so the two together can
leave an index past the last item (`enable_after_shrink_leaves_index_out`).

`Viewport.Request` lists the calls a viewport answers and `Viewport.perform` answers one.
`SelectionValid` says that with selection on the index names an item, or is zero when there is
none. Every call but turning selection on keeps it (`SelectionValid.perform`), and turning it on
keeps it when the index is in range at that moment. So it holds after every run that turns
selection on only then (`EnablesInRange`, `selection_in_range_of_enabled`).
-/

namespace LogBrowser

namespace Viewport

variable {α : Type}

/-- The calls a viewport answers. -/
inductive Request (α : Type) where
  | setContent (items : Array α)
  | setHeader (header : List String)
  | setHighlight (text : String)
  | setWrap (wrap : Bool)
  | setSelectionEnabled (enabled : Bool)
  | setSelectedIndex (index : Nat)
  | scrollToIndex (index : Nat)
  | setTopSticky (sticky : Bool)
  | setBottomSticky (sticky : Bool)
  | setMaintainSelection (maintain : Bool)
  | setSelectionStyle (style : SelectionStyle)
  | setFocused (focused : Bool)
  | setDimensions (width height : Nat)
  | navigate (nav : Navigation)

/-- Whether a call turns selection on. -/
def Request.turnsOnSelection : Request α → Bool
  | .setSelectionEnabled enabled => enabled
  | _ => false

/-- The selected index names an item, or is zero when there is none. -/
def SelectionInRange (v : Viewport α) : Prop :=
  v.selected < v.items.size ∨ v.items.size = 0 ∧ v.selected = 0

instance (v : Viewport α) : Decidable v.SelectionInRange :=
  inferInstanceAs (Decidable (_ ∨ _))

/-- With selection on, the selected index is in range. -/
def SelectionValid (v : Viewport α) : Prop := v.selectionEnabled = true → v.SelectionInRange

theorem selectionInRange_iff (v : Viewport α) :
    v.SelectionInRange ↔ v.selected ≤ v.items.size - 1 := by
  unfold SelectionInRange
  omega

theorem SelectionValid.of_sameSelection {v w : Viewport α} (h : SelectionValid v)
    (hs : SameSelection v w) : SelectionValid w := by
  intro he
  unfold SelectionInRange
  rw [hs.selected, hs.items]
  exact h (hs.selectionEnabled ▸ he)

theorem Moves.sameSelection {v w : Viewport α} (h : Moves v w) (hs : w.selected = v.selected) :
    SameSelection v w := by
  obtain ⟨s, t, o, x, rfl⟩ := h
  exact ⟨rfl, hs, rfl, rfl, rfl, rfl⟩

variable [Record α]

/-- Answers a call. -/
def perform [BEq α] (v : Viewport α) : Request α → Viewport α
  | .setContent items => v.setContent items
  | .setHeader header => v.setHeader header
  | .setHighlight text => v.setHighlight text
  | .setWrap wrap => v.setWrap wrap
  | .setSelectionEnabled enabled => v.setSelectionEnabled enabled
  | .setSelectedIndex index => v.setSelectedIndex index
  | .scrollToIndex index => v.scrollToIndex index
  | .setTopSticky sticky => v.setTopSticky sticky
  | .setBottomSticky sticky => v.setBottomSticky sticky
  | .setMaintainSelection maintain => v.setMaintainSelection maintain
  | .setSelectionStyle style => v.setSelectionStyle style
  | .setFocused focused => v.setFocused focused
  | .setDimensions width height => v.setDimensions width height
  | .navigate nav => v.navigate nav

/-! The scrolls keep the selection; so do wrapping and resizing, which only scroll. -/

theorem sameSelection_scrollBy (v : Viewport α) (k : Int) : SameSelection v (v.scrollBy k) :=
  (moves_scrollBy v k).sameSelection (selected_scrollBy v k)

theorem sameSelection_scrollToIndex (v : Viewport α) (index : Nat) :
    SameSelection v (v.scrollToIndex index) :=
  (moves_scrollToIndex v index).sameSelection (selected_scrollToIndex v index)

theorem selected_setWrap (v : Viewport α) (b : Bool) : (v.setWrap b).selected = v.selected := by
  unfold setWrap
  extract_lets row w₀ w₁ w₂
  show w₂.selected = v.selected
  simp only [w₂]
  split
  · split
    · rw [selected_scrollSelectionIntoView, selected_scrollBy, selected_scrollSelectionIntoView]
    · exact selected_scrollSelectionIntoView w₀
  · rfl

theorem sameSelection_setWrap (v : Viewport α) (b : Bool) : SameSelection v (v.setWrap b) :=
  (show SameSelection v { v with wrap := b } from ⟨rfl, rfl, rfl, rfl, rfl, rfl⟩).trans
    ((moves_setWrap v b).sameSelection (selected_setWrap v b))

theorem selected_setDimensions (v : Viewport α) (width height : Nat) :
    (v.setDimensions width height).selected = v.selected := by
  unfold setDimensions
  extract_lets w₀ w₁
  split
  · rfl
  show w₁.selected = v.selected
  simp only [w₁]
  split
  · exact selected_scrollSelectionIntoView w₀
  · rfl

theorem sameSelection_setDimensions (v : Viewport α) (width height : Nat) :
    SameSelection v (v.setDimensions width height) :=
  (show SameSelection v { v with width := width, height := height } from
    ⟨rfl, rfl, rfl, rfl, rfl, rfl⟩).trans
    ((moves_setDimensions v width height).sameSelection (selected_setDimensions v width height))

/-! New content and a new selection clamp the index while selection is on. -/

/-- With selection on, new content selects at most its last item. -/
theorem selected_setContent_le [BEq α] (v : Viewport α) (items : Array α)
    (he : v.selectionEnabled = true) : (v.setContent items).selected ≤ items.size - 1 := by
  unfold setContent
  extract_lets row len stayTop stayBottom previous w₀ w₁ w₂ w₃ w₄
  -- placing the top and the pan keeps the selection of the new items
  have h₂ : SameSelection w₀ w₂ :=
    (sameSelection_safelySetTop _ _ _).trans (sameSelection_safelySetXOffset _ _)
  have hsize : w₂.items.size - 1 = items.size - 1 := congrArg (·.size - 1) h₂.items
  rw [if_neg (by simp [h₂.selectionEnabled, w₀, he])]
  split
  · -- the sticky bottom selects the new last item
    rw [selected_scrollSelectionIntoView]
    exact Nat.le_of_eq hsize
  · -- every other rule ends in the clamp, and none of them changes the items
    have h₃ : w₃.items = w₂.items := by
      simp only [w₃]
      split
      · rfl
      split <;> rfl
    rw [selected_scrollSelectionIntoView_restoreSelectionRow]
    exact Nat.le_trans (Nat.min_le_right _ _) (Nat.le_of_eq (by rw [h₃]; exact hsize))

theorem selectionValid_setContent [BEq α] (v : Viewport α) (items : Array α) :
    SelectionValid (v.setContent items) := by
  have hm := moves_setContent v items
  intro he
  have he' : v.selectionEnabled = true := hm.selectionEnabled ▸ he
  rw [selectionInRange_iff, hm.items]
  exact selected_setContent_le v items he'

theorem SelectionValid.setSelectedIndex {v : Viewport α} (h : SelectionValid v) (index : Nat) :
    SelectionValid (v.setSelectedIndex index) := by
  unfold Viewport.setSelectedIndex
  split
  · exact h
  split
  · -- without items the index goes back to zero
    rename_i hempty
    exact fun _ => Or.inr ⟨by simpa using hempty, rfl⟩
  · -- the index asked for is clamped, and the scroll to it keeps it
    have hclamp : SelectionValid { v with selected := min index (v.items.size - 1) } :=
      fun _ => (selectionInRange_iff _).2 (Nat.min_le_right _ _)
    exact hclamp.of_sameSelection (sameSelection_scrollToIndex _ _)

theorem SelectionValid.navigate {v : Viewport α} (h : SelectionValid v) (n : Navigation) :
    SelectionValid (v.navigate n) :=
  navigate_of v n h (fun k => h.of_sameSelection (sameSelection_scrollBy v k))
    (fun _ hw i => hw.setSelectedIndex i) (h.of_sameSelection ⟨rfl, rfl, rfl, rfl, rfl, rfl⟩)
    (h.of_sameSelection (sameSelection_safelySetTop v _ _))
    (fun x => h.of_sameSelection (sameSelection_safelySetXOffset v x))

variable [BEq α]

/-- Every call keeps the index in range while selection is on; turning selection on does when
the index is in range already. -/
theorem SelectionValid.perform {v : Viewport α} (h : SelectionValid v) (r : Request α)
    (hr : r.turnsOnSelection = true → v.SelectionInRange) : SelectionValid (v.perform r) := by
  cases r with
  | setContent items => exact selectionValid_setContent v items
  | setHeader header => exact h.of_sameSelection (sameSelection_setHeader v header)
  | setHighlight text => exact h.of_sameSelection (sameSelection_setHighlight v text)
  | setWrap wrap => exact h.of_sameSelection (sameSelection_setWrap v wrap)
  | setSelectionEnabled enabled =>
      -- turning selection off makes nothing to check; turning it on keeps the index
      cases enabled with
      | false => exact fun he => absurd he (by simp [Viewport.perform, setSelectionEnabled])
      | true => exact fun _ => hr rfl
  | setSelectedIndex index => exact h.setSelectedIndex index
  | scrollToIndex index => exact h.of_sameSelection (sameSelection_scrollToIndex v index)
  | setTopSticky sticky => exact h
  | setBottomSticky sticky => exact h
  | setMaintainSelection maintain => exact h
  | setSelectionStyle style => exact h.of_sameSelection (sameSelection_setSelectionStyle v style)
  | setFocused focused => exact h
  | setDimensions width height =>
      exact h.of_sameSelection (sameSelection_setDimensions v width height)
  | navigate nav => exact h.navigate nav

/-- A run that turns selection on only while the selected index is in range. -/
def EnablesInRange : Viewport α → List (Request α) → Prop
  | _, [] => True
  | v, r :: rs => (r.turnsOnSelection = true → v.SelectionInRange) ∧ EnablesInRange (v.perform r) rs

instance decEnablesInRange : (v : Viewport α) → (rs : List (Request α)) →
    Decidable (EnablesInRange v rs)
  | _, [] => isTrue trivial
  | v, r :: rs =>
    haveI := decEnablesInRange (v.perform r) rs
    inferInstanceAs (Decidable (_ ∧ _))

theorem SelectionValid.foldl_perform {v : Viewport α} (h : SelectionValid v) {rs : List (Request α)}
    (hrs : EnablesInRange v rs) : SelectionValid (rs.foldl Viewport.perform v) := by
  induction rs generalizing v with
  | nil => exact h
  | cons r rs ih => exact ih (h.perform r hrs.1) hrs.2

/-- The selection stays on an item. After any run of calls on a new viewport that turns
selection on only while the selected index is in range, with selection on: when there are
items the selected index is below their number and an item is selected, and when there are none
the index is zero. -/
theorem selection_in_range_of_enabled (width height : Nat) (rs : List (Request α))
    (hrs : EnablesInRange (new width height) rs) :
    let v := rs.foldl perform (new width height)
    v.selectionEnabled = true →
      (0 < v.items.size → v.selectedIndex < v.items.size ∧ v.selectedItem.isSome) ∧
        (v.items.size = 0 → v.selectedIndex = 0) := by
  intro v he
  -- a new viewport selects index zero of no items
  have h₀ : SelectionValid (new width height : Viewport α) := fun _ => Or.inr ⟨rfl, rfl⟩
  have hin : v.SelectionInRange := h₀.foldl_perform hrs he
  have hidx : v.selectedIndex = v.selected := by simp [selectedIndex, he]
  rw [hidx]
  refine ⟨fun hpos => ?_, fun h0 => ?_⟩
  · have hlt : v.selected < v.items.size := by
      rcases hin with hlt | ⟨h0, -⟩
      · exact hlt
      · omega
    refine ⟨hlt, ?_⟩
    simp [selectedItem, he, hlt]
  · rcases hin with hlt | ⟨-, hsel⟩
    · omega
    · exact hsel

/-- A run meeting the condition of `selection_in_range_of_enabled`: selection on, three items,
the last one selected, then two of the items dropped. -/
theorem selection_in_range_of_enabled_shrunk :
    let rs : List (Request String) := [.setSelectionEnabled true, .setContent #["a", "b", "c"],
      .setSelectedIndex 2, .setContent #["a"]]
    let v := rs.foldl perform (new 20 5)
    EnablesInRange (new 20 5) rs ∧
      (v.selectionEnabled = true →
        (0 < v.items.size → v.selectedIndex < v.items.size ∧ v.selectedItem.isSome) ∧
          (v.items.size = 0 → v.selectedIndex = 0)) := by
  intro rs v
  have hrs : EnablesInRange (new 20 5) rs := by decide
  exact ⟨hrs, selection_in_range_of_enabled 20 5 rs hrs⟩

/-- Turning selection on after content shrank while it was off selects past the last item: the
third of three items selected, selection turned off, one item set, selection turned on. -/
theorem enable_after_shrink_leaves_index_out :
    let rs : List (Request String) := [.setSelectionEnabled true, .setContent #["a", "b", "c"],
      .setSelectedIndex 2, .setSelectionEnabled false, .setContent #["a"],
      .setSelectionEnabled true]
    let v := rs.foldl perform (new 20 5)
    v.selectionEnabled = true ∧ 0 < v.items.size ∧ ¬v.selectedIndex < v.items.size ∧
      v.selectedItem = none := by
  decide

end Viewport

end LogBrowser
