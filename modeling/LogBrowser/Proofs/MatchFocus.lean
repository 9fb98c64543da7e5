import LogBrowser.Proofs.MatchCursor
import Mathlib.Data.List.Sort

/-!
# A match focus names a current match

In context mode a view shows every row and moves between the rows that pass its query. After an
edit of the query, or a step to the next or the previous match, it reports the row it moved to with
a match-focus effect. Every such effect names the match under the filter's cursor after the call
(`Effect.FocusesMatch`, `focusesMatches_handle`); while the query is not empty, the filter's
matches are the rows that pass it, as computed afresh (`matchFocused_targets_fresh_match`).

Two things the view does not do. An edit in context mode goes to the first match even when there
is none, to row 0, where replacing the rows keeps the selection
(`typing_a_miss_moves_selection`). And an edit that empties the query keeps the matches of the
query before it, so a match focus can come with an empty query
(`edit_emptying_query_keeps_matches`).
-/

namespace LogBrowser

namespace Filter

variable {f : Filter}

theorem ne_nil_of_hasContextualMatches (hc : f.hasContextualMatches = true) :
    f.matchingIndexes ≠ [] := by
  simp only [hasContextualMatches, Bool.and_eq_true, Bool.not_eq_true',
    List.isEmpty_eq_false_iff] at hc
  exact hc.2

theorem context_of_hasContextualMatches (hc : f.hasContextualMatches = true) :
    f.context = true := by
  simp only [hasContextualMatches, Bool.and_eq_true] at hc
  exact hc.1

@[simp] theorem matchingIndexes_advanceMatch (s : MatchStep) :
    (f.advanceMatch s).matchingIndexes = f.matchingIndexes := by
  obtain ⟨c, hc⟩ := advanceMatch_eq f s
  rw [hc]

/-- A step among matches lands on one of them, wherever the cursor stood before. -/
theorem cursorInRange_advanceMatch (f : Filter) (s : MatchStep) (hn : f.matchingIndexes ≠ []) :
    (f.advanceMatch s).CursorInRange := by
  have hm : 0 < f.matchingIndexes.length := List.length_pos_iff.2 hn
  unfold advanceMatch
  rw [if_neg (Nat.pos_iff_ne_zero.1 hm)]
  -- a cursor that would leave the matches wraps, also from past the end
  cases s with
  | next => exact cursorInRange_withCursor f _ (by simp only [matchCount]; split <;> omega)
  | prev =>
      refine cursorInRange_withCursor f _ ?_
      simp only [matchCount]
      split
      · omega
      · rename_i hin
        simp only [Bool.or_eq_true, decide_eq_true_eq, not_or, Nat.not_lt] at hin
        omega

end Filter

/-- What an effect says of the filter after the call. A match focus names the match under the
cursor, among the matches shown in context; the other effects say nothing of the matches. -/
def Effect.FocusesMatch (f : Filter) : Effect → Prop
  | .matchFocused i => f.hasContextualMatches = true ∧ i = f.currentMatchIndex ∧ i ∈ f.matchingIndexes
  | _ => True

theorem Filter.CursorInRange.focusesMatch {f : Filter} (h : f.CursorInRange)
    (hc : f.hasContextualMatches = true) : (Effect.matchFocused f.currentMatchIndex).FocusesMatch f :=
  ⟨hc, rfl, h.currentMatchIndex_mem hc⟩

namespace FilteredView

variable {α : Type} [Record α] [BEq α]

/-- Every match focus among the effects of a call names a match of the view after it. -/
def FocusesMatches (r : FilteredView α × List Effect) : Prop :=
  ∀ ef ∈ r.2, ef.FocusesMatch r.1.filter

omit [Record α] [BEq α] in
theorem focusesMatches_of_forall_ne (fv : FilteredView α) {es : List Effect}
    (hes : ∀ i, Effect.matchFocused i ∉ es) : FocusesMatches (fv, es) := by
  intro ef hef
  cases ef with
  | matchFocused i => exact absurd hef (hes i)
  | _ => trivial

/-- Going to the first match after the query changed names it, when there is one. -/
theorem focusesMatches_afterQueryChange (fv : FilteredView α) :
    FocusesMatches fv.afterQueryChange := by
  unfold afterQueryChange
  dsimp only
  split
  · -- the cursor is put on the first match, and moving to its row keeps the filter
    intro ef hef
    simp only [List.mem_append, List.mem_cons, List.not_mem_nil, or_false] at hef
    rcases hef with hef | rfl
    · split at hef
      · rename_i hc
        rw [List.mem_singleton] at hef
        subst hef
        exact (Filter.cursorInRange_resetMatchCursor _).focusesMatch hc
      · exact absurd hef List.not_mem_nil
    · trivial
  · exact focusesMatches_of_forall_ne _ (by simp)

theorem focusesMatches_editQuery (fv : FilteredView α) (e : ViewEvent) :
    FocusesMatches (fv.editQuery e) := by
  -- whatever the edit, a changed query is followed by `afterQueryChange`
  have hedit : ∀ fv' : FilteredView α, FocusesMatches
      (if fv'.filter.value = fv.filter.value then (fv', []) else fv'.afterQueryChange) := by
    intro fv'
    split
    · exact focusesMatches_of_forall_ne _ (by simp)
    · exact focusesMatches_afterQueryChange _
  unfold editQuery
  exact hedit _

omit [BEq α] in
/-- A step to the next or previous match names the match it lands on. -/
theorem focusesMatches_stepMatch (fv : FilteredView α) (skip : Bool) (s : MatchStep) :
    FocusesMatches (if skip then (fv, []) else
      let fv' := { fv with filter := fv.filter.advanceMatch s }
      if fv'.filter.hasContextualMatches then
        (fv'.scrollToItem fv'.filter.currentMatchIndex, [.matchFocused fv'.filter.currentMatchIndex])
      else (fv', [])) := by
  split
  · exact focusesMatches_of_forall_ne _ (by simp)
  dsimp only
  split
  · rename_i hc
    have hn : fv.filter.matchingIndexes ≠ [] := by
      rw [← Filter.matchingIndexes_advanceMatch s]
      exact Filter.ne_nil_of_hasContextualMatches hc
    intro ef hef
    rw [List.mem_singleton] at hef
    subst hef
    exact (Filter.cursorInRange_advanceMatch fv.filter s hn).focusesMatch hc
  · exact focusesMatches_of_forall_ne _ (by simp)

theorem focusesMatches_dispatch (fv : FilteredView α) (e : ViewEvent) :
    FocusesMatches (fv.dispatch e) := by
  unfold dispatch
  split
  · exact focusesMatches_of_forall_ne _ (by simp)
  split
  · split
    · exact focusesMatches_of_forall_ne _ (by simp)
    · exact focusesMatches_editQuery fv e
  -- an unfocused view reports a match only on a step between matches
  split
  · exact focusesMatches_of_forall_ne _ (by simp)
  · exact focusesMatches_stepMatch fv _ _
  · exact focusesMatches_stepMatch fv _ _
  · exact focusesMatches_of_forall_ne _ (by simp)
  · exact focusesMatches_of_forall_ne _ (by simp)
  · exact focusesMatches_of_forall_ne _ (by simp)
  · exact focusesMatches_editQuery fv _

theorem focusesMatches_handle (fv : FilteredView α) (e : ViewEvent) :
    FocusesMatches (fv.handle e) :=
  focusesMatches_dispatch fv e

omit [BEq α] in
/-- Two lists of the matching rows, each in increasing order, are the same list. -/
theorem ListsMatches.eq {fv : FilteredView α} {l₁ l₂ : List Nat} (h₁ : fv.ListsMatches l₁)
    (h₂ : fv.ListsMatches l₂) : l₁ = l₂ :=
  List.Pairwise.eq_of_mem_iff h₁.1 h₂.1 fun i => (h₁.2 i).trans (h₂.2 i).symm

/-- In every view reached from a new one, a match focus that an event reports names the match
under the cursor after the event, among the filter's matches shown in context; while the query is
not empty, those matches are the rows that pass it, as computed afresh from the query and the
rows. -/
theorem matchFocused_targets_fresh_match (c : FilteredViewConfig α) (rs : List (Request α))
    (e : ViewEvent) (i : Nat) :
    let r := (rs.foldl perform (new c)).handle e
    Effect.matchFocused i ∈ r.2 →
      r.1.filter.hasContextualMatches = true ∧ i = r.1.filter.currentMatchIndex ∧
        i ∈ r.1.filter.matchingIndexes ∧
        (r.1.filter.value ≠ "" → r.1.filter.matchingIndexes = r.1.matchingIndexes) := by
  intro r hi
  obtain ⟨hc, hidx, hmem⟩ := focusesMatches_handle _ e _ hi
  refine ⟨hc, hidx, hmem, fun hv => ?_⟩
  have hsync : r.1.InSync := (inSync_foldl_perform c rs).handle e
  exact (hsync.indexes (Filter.context_of_hasContextualMatches hc) hv).eq
    (listsMatches_matchingIndexes r.1)

/-- Without a query the rows are refreshed and the filter, matches included, is left as it is. -/
theorem filter_updateVisibleRows_of_empty {fv : FilteredView α} (hv : fv.filter.value = "") :
    fv.updateVisibleRows.filter = fv.filter := by
  have ht : fv.filter.hasText = false := by simp [Filter.hasText, hv]
  unfold updateVisibleRows
  rw [if_neg (by simp [ht]), if_neg (by simp [ht])]

/-- After an edit that empties the query in context mode, the cursor goes back to the first of
the matches kept from before, and the view reports it when there are some. -/
theorem afterQueryChange_of_empty (fv : FilteredView α) (hv : fv.filter.value = "")
    (hc : fv.filter.context = true) :
    fv.afterQueryChange.1.filter = fv.filter.resetMatchCursor ∧
      (fv.filter.matchingIndexes ≠ [] →
        Effect.matchFocused fv.filter.resetMatchCursor.currentMatchIndex ∈ fv.afterQueryChange.2) := by
  unfold afterQueryChange
  dsimp only
  rw [@filter_updateVisibleRows_of_empty _ _ _
    { fv with surface := fv.surface.setHighlight fv.filter.value } hv, if_pos hc]
  refine ⟨rfl, fun hn => ?_⟩
  have hcm : fv.filter.resetMatchCursor.hasContextualMatches = true := by
    simpa [Filter.hasContextualMatches, Filter.resetMatchCursor, hc] using hn
  simp only [scrollToItem, hcm, if_true]
  exact List.mem_append_left _ (List.mem_singleton_self _)

/-- An edit that empties the query in context mode keeps the matches of the query before it, and
when there were some, the view reports a focus on the first of them with no query left. -/
theorem edit_emptying_query_keeps_matches (fv : FilteredView α) (r : EditRequest)
    (hf : fv.filter.focused = true) (hc : fv.filter.context = true) (hv : fv.filter.value ≠ "")
    (he : (fv.filter.edit r).value = "") :
    let res := fv.handle (.filterInput r)
    res.1.filter.value = "" ∧ res.1.filter.matchingIndexes = fv.filter.matchingIndexes ∧
      (fv.filter.matchingIndexes ≠ [] → res.1.filter.hasContextualMatches = true ∧
        Effect.matchFocused res.1.filter.currentMatchIndex ∈ res.2) := by
  intro res
  -- the event edits the focused query, and the query changes
  let fv₁ : FilteredView α := { fv with filter := fv.filter.edit r }
  have hres : res = (fv₁.afterQueryChange.1.updateHeader, fv₁.afterQueryChange.2) := by
    have hne : ¬(fv.filter.edit r).value = fv.filter.value := fun h => hv (h ▸ he)
    simp [res, handle, dispatch, editQuery, hf, fv₁, hne]
  -- an edit changes the query only: the context and the matches stay
  obtain ⟨i, q, hedit⟩ := Filter.edit_eq fv.filter r
  have hc₁ : fv₁.filter.context = true := by simp only [fv₁, hedit]; exact hc
  have hidx : fv₁.filter.matchingIndexes = fv.filter.matchingIndexes := by simp only [fv₁, hedit]
  obtain ⟨hfilter, hfocus⟩ := afterQueryChange_of_empty fv₁ he hc₁
  have hq : res.1.filter = fv₁.filter.resetMatchCursor := by rw [hres]; exact hfilter
  refine ⟨by rw [hq]; exact he, by rw [hq]; exact hidx, fun hn => ⟨?_, ?_⟩⟩
  · rw [hq]
    simpa [Filter.hasContextualMatches, Filter.resetMatchCursor, hc₁, hidx] using hn
  · rw [hq, hres]
    exact hfocus (hidx ▸ hn)

example :
    let c : FilteredViewConfig String :=
      { topHeader := "Header", startWithContext := true, width := 40, height := 10,
        rows := #["a", "b"], whenEmpty := "No items" }
    let fv := (((new c).handle .startFilter).1.handle (.filterInput (.insertChar 'a'))).1
    let res := fv.handle (.filterInput .deletePrevChar)
    fv.filter.matchingIndexes = [0] ∧ res.1.filter.value = "" ∧ Effect.matchFocused 0 ∈ res.2 := by
  decide

/-- Typing a letter into a query that shows one match in context: the match is the third row. -/
theorem matchFocused_targets_fresh_match_typed :
    let c : FilteredViewConfig String :=
      { topHeader := "Header", startWithContext := true, width := 40, height := 10,
        rows := #["item one", "item two", "another item"], whenEmpty := "No items" }
    let rs := [Request.handle .startFilter]
    let e := ViewEvent.filterInput (.insertChar 'a')
    let r := (rs.foldl perform (new c)).handle e
    Effect.matchFocused 2 ∈ r.2 ∧
      (r.1.filter.hasContextualMatches = true ∧ 2 = r.1.filter.currentMatchIndex ∧
        2 ∈ r.1.filter.matchingIndexes ∧
        (r.1.filter.value ≠ "" → r.1.filter.matchingIndexes = r.1.matchingIndexes)) := by
  intro c rs e
  -- the event reports the match, and the theorem applies
  have hi : Effect.matchFocused 2 ∈ ((rs.foldl perform (new c)).handle e).2 := by decide
  exact ⟨hi, matchFocused_targets_fresh_match c rs e 2 hi⟩

/-- A query that matches nothing moves the selection to row 0. In context mode, with the third
row selected, typing a letter no row holds leaves all rows shown and no match, and the selection
jumps to row 0; replacing the rows under the same query keeps a selection on the third row. -/
theorem typing_a_miss_moves_selection :
    let c : FilteredViewConfig String :=
      { topHeader := "Header", startWithContext := true, width := 40, height := 10,
        rows := #["item one", "item two", "another item"], whenEmpty := "No items" }
    let fv := (((new c).setSelectionIndex 2).handle .startFilter).1
    let fv' := (fv.handle (.filterInput (.insertChar 'z'))).1
    fv.selectionIndex = 2 ∧ fv'.filter.value = "z" ∧ fv'.filter.matchingIndexes = [] ∧
      fv'.visibleRows = fv.visibleRows ∧ fv'.selectionIndex = 0 ∧
      ((fv'.setSelectionIndex 2).setAllRows fv'.allRows).selectionIndex = 2 := by
  decide

end FilteredView

end LogBrowser
