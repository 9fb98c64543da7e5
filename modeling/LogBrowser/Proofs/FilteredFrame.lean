import LogBrowser.Proofs.FilteredSync
import LogBrowser.Proofs.Viewport.Follow

/-!
# What the filtered view's calls leave alone

Besides the sync of `FilteredView.InSync`, the view's calls keep two things a caller relies on.
The rows change under `setAllRows` alone (`allRows_perform`). The viewport's stickiness, the
flags that choose where new content leaves the selection, changes only under the three calls
that set it (`stickiness_handle`, `stickiness_setAllRows` and the others). And refreshing the
rows keeps the filter's context and query (`filter_context_updateVisibleRows`). Each lemma
follows one call through the viewport operations it makes.
-/

namespace LogBrowser

namespace Filter

theorem context_edit (f : Filter) (r : EditRequest) : (f.edit r).context = f.context := by
  obtain ⟨i, q, h⟩ := edit_eq f r
  rw [h]

end Filter

namespace FilteredView

variable {α : Type} [Record α] (fv : FilteredView α)

/-! The view's calls other than `setAllRows` keep its rows. -/

@[simp] theorem allRows_scrollToItem (idx : Nat) : (fv.scrollToItem idx).allRows = fv.allRows :=
  rfl

/-! Every call but the three that set them keeps the viewport's stickiness. -/

omit [Record α] in
@[simp] theorem stickiness_updateHeader : fv.updateHeader.surface.stickiness = fv.surface.stickiness :=
  rfl

@[simp] theorem stickiness_scrollToItem (i : Nat) :
    (fv.scrollToItem i).surface.stickiness = fv.surface.stickiness := by
  unfold scrollToItem
  split <;> simp

variable [BEq α]


@[simp] theorem allRows_updateVisibleRows : fv.updateVisibleRows.allRows = fv.allRows := by
  unfold updateVisibleRows
  split
  · rfl
  split <;> rfl

theorem allRows_afterQueryChange : fv.afterQueryChange.1.allRows = fv.allRows := by
  unfold afterQueryChange
  dsimp only
  split <;> simp

theorem allRows_editQuery (e : ViewEvent) : (fv.editQuery e).1.allRows = fv.allRows := by
  -- an edit changes only the filter, and the refresh after it keeps the rows
  have hedit : ∀ fv' : FilteredView α, fv'.allRows = fv.allRows →
      (if fv'.filter.value = fv.filter.value then (fv', [])
        else fv'.afterQueryChange).1.allRows = fv.allRows := by
    intro fv' h
    split
    · exact h
    · rw [allRows_afterQueryChange, h]
  unfold editQuery
  cases e <;> exact hedit _ rfl

theorem allRows_handle (e : ViewEvent) : (fv.handle e).1.allRows = fv.allRows := by
  show (fv.dispatch e).1.allRows = fv.allRows
  -- no branch of an event touches the rows, and the edits of the query go through `editQuery`
  unfold dispatch
  dsimp only
  repeat' split
  all_goals simp [clearFilter, allRows_editQuery]

theorem allRows_toggleShowContext : fv.toggleShowContext.allRows = fv.allRows := by
  unfold toggleShowContext
  split
  · rfl
  · simp [updateHeader]

theorem allRows_applyFilter (text : String) (mode : FilterMode) :
    (fv.applyFilter text mode).allRows = fv.allRows := by
  simp [applyFilter, updateHeader]

theorem allRows_setAllRows (rows : Array α) : (fv.setAllRows rows).allRows = rows := by
  unfold setAllRows
  dsimp only
  split
  · split <;> simp [updateHeader]
  · simp [updateHeader]

theorem allRows_perform (r : Request α) (hr : ∀ rows, r ≠ .setAllRows rows) :
    (fv.perform r).allRows = fv.allRows := by
  cases r with
  | handle e => exact allRows_handle fv e
  | setAllRows rows => exact absurd rfl (hr rows)
  | toggleShowContext => exact allRows_toggleShowContext fv
  | applyFilter text mode => exact allRows_applyFilter fv text mode
  | _ => rfl


@[simp] theorem stickiness_updateVisibleRows :
    fv.updateVisibleRows.surface.stickiness = fv.surface.stickiness := by
  unfold updateVisibleRows
  split
  · simp
  split <;> simp

theorem stickiness_afterQueryChange :
    fv.afterQueryChange.1.surface.stickiness = fv.surface.stickiness := by
  unfold afterQueryChange
  dsimp only
  split <;> simp

theorem stickiness_editQuery (e : ViewEvent) :
    (fv.editQuery e).1.surface.stickiness = fv.surface.stickiness := by
  have hedit : ∀ fv' : FilteredView α, fv'.surface = fv.surface →
      (if fv'.filter.value = fv.filter.value then (fv', [])
        else fv'.afterQueryChange).1.surface.stickiness = fv.surface.stickiness := by
    intro fv' h
    split
    · rw [h]
    · rw [stickiness_afterQueryChange, h]
  unfold editQuery
  cases e <;> exact hedit _ rfl

theorem stickiness_handle (e : ViewEvent) :
    (fv.handle e).1.surface.stickiness = fv.surface.stickiness := by
  show (fv.dispatch e).1.updateHeader.surface.stickiness = fv.surface.stickiness
  rw [stickiness_updateHeader]
  unfold dispatch
  dsimp only
  repeat' split
  all_goals simp [clearFilter, stickiness_editQuery]

theorem stickiness_setAllRows (rows : Array α) :
    (fv.setAllRows rows).surface.stickiness = fv.surface.stickiness := by
  unfold setAllRows
  dsimp only
  split
  · split <;> simp
  · simp

theorem stickiness_toggleShowContext :
    fv.toggleShowContext.surface.stickiness = fv.surface.stickiness := by
  unfold toggleShowContext
  split
  · rfl
  · simp

theorem stickiness_applyFilter (text : String) (mode : FilterMode) :
    (fv.applyFilter text mode).surface.stickiness = fv.surface.stickiness := by
  simp [applyFilter]

theorem filter_context_updateVisibleRows :
    fv.updateVisibleRows.filter.context = fv.filter.context := by
  obtain ⟨ixs, c, h⟩ := filter_updateVisibleRows fv
  rw [h]

theorem filter_value_updateVisibleRows :
    fv.updateVisibleRows.filter.value = fv.filter.value := by
  obtain ⟨ixs, c, h⟩ := filter_updateVisibleRows fv
  rw [h]
  rfl

end FilteredView

end LogBrowser
