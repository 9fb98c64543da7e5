import LogBrowser.Proofs.MatchFocus
import LogBrowser.Proofs.Viewport.Visible
import Mathlib.Logic.Relation

/-!
# Stepping through the matches

In context mode a filtered view shows every row, and `nextMatch` and `prevMatch` move through the
rows that pass the query. A step moves the match cursor cyclically, reports the row of the match
it lands on, and goes there: it selects the row when selection is on, and otherwise scrolls to it.
Without context, or without a query, the two events do nothing at all.

That a step lands on a row of the view rests on two invariants of every view reached from a new
one. The matches are the rows that pass the query (`FilteredView.InSync`), so each names a row.
And the cursor stands on a match: the view changes its filter only through the filter's own
calls (`FilteredView.reaches_perform`), each of which keeps the cursor in range.
-/

namespace LogBrowser

/-- The event that steps through the matches in direction `s`. -/
def MatchStep.event : MatchStep → ViewEvent
  | .next => .nextMatch
  | .prev => .prevMatch

/-- Where a step in direction `s` takes the cursor `c` among `m` matches. -/
def MatchStep.shift (s : MatchStep) (m c : Nat) : Nat :=
  match s with
  | .next => (c + 1) % m
  | .prev => (c + m - 1) % m

namespace Filter

/-- `g` is `f` after some calls on the filter. -/
def Reaches (f g : Filter) : Prop :=
  Relation.ReflTransGen (fun f g => ∃ r, g = Filter.perform f r) f g

theorem reaches_call (f : Filter) (r : Request) : f.Reaches (f.perform r) :=
  Relation.ReflTransGen.single ⟨r, rfl⟩

/-- Calls on a filter keep its cursor in range. -/
theorem Reaches.cursorInRange {f g : Filter} (h : f.Reaches g) (hf : f.CursorInRange) :
    g.CursorInRange := by
  induction h with
  | refl => exact hf
  | tail _ hstep ih =>
      obtain ⟨r, rfl⟩ := hstep
      exact ih.perform r

/-- With the cursor in range, a step in either direction is the shift of the cursor. -/
theorem advanceMatch_eq_shift {f : Filter} (h : f.CursorInRange) (hm : 0 < f.matchCount)
    (s : MatchStep) :
    f.advanceMatch s = { f with matchCursor := s.shift f.matchCount f.matchCursor } := by
  cases s with
  | next => exact advanceMatch_next_eq h hm
  | prev => exact advanceMatch_prev_eq h hm

end Filter

namespace Viewport

variable {α : Type} [Record α]

/-- With selection on and a row for content, selecting an item selects exactly it. -/
theorem selected_setSelectedIndex {v : Viewport α} (hsel : v.selectionEnabled = true)
    (hroom : 2 ≤ v.afterHeader) {j : Nat} (hj : j < v.items.size) :
    (v.setSelectedIndex j).selected = j := by
  have hR : v.numContentLines ≠ 0 := by
    have := afterHeader_le_numContentLines_succ v
    omega
  unfold setSelectedIndex
  simp only [hsel, hR, items_isEmpty (Nat.lt_of_le_of_lt (Nat.zero_le _) hj), Bool.not_true,
    decide_false, Bool.or_false, Bool.false_eq_true, if_false]
  rw [selected_scrollToIndex]
  exact Nat.min_eq_left (by omega)

end Viewport

namespace FilteredView

variable {α : Type} [Record α] [BEq α]

omit [BEq α] in
@[simp] theorem filter_scrollToItem (fv : FilteredView α) (idx : Nat) :
    (fv.scrollToItem idx).filter = fv.filter := rfl

omit [Record α] [BEq α] in
@[simp] theorem filter_updateHeader [Record α] (fv : FilteredView α) :
    fv.updateHeader.filter = fv.filter := rfl

/-! A view changes its filter only through the filter's own calls. -/

theorem reaches_updateVisibleRows (fv : FilteredView α) :
    fv.filter.Reaches fv.updateVisibleRows.filter := by
  unfold updateVisibleRows
  split
  · exact Filter.reaches_call _ (.setMatchingIndexes _)
  split
  · exact Relation.ReflTransGen.refl
  · exact Relation.ReflTransGen.refl

theorem reaches_afterQueryChange (fv : FilteredView α) :
    fv.filter.Reaches fv.afterQueryChange.1.filter := by
  have h₁ := reaches_updateVisibleRows { fv with surface := fv.surface.setHighlight fv.filter.value }
  unfold afterQueryChange
  dsimp only
  split
  · -- back to the first match; moving to its row leaves the filter
    exact Relation.ReflTransGen.tail h₁ ⟨.resetMatchCursor, rfl⟩
  · exact h₁

theorem reaches_editQuery (fv : FilteredView α) (e : ViewEvent) :
    fv.filter.Reaches (fv.editQuery e).1.filter := by
  -- an edit is a call of the filter, and a changed query is followed by `afterQueryChange`
  have hedit : ∀ fv' : FilteredView α, fv.filter.Reaches fv'.filter → fv.filter.Reaches
      (if fv'.filter.value = fv.filter.value then (fv', []) else fv'.afterQueryChange).1.filter := by
    intro fv' h
    split
    · exact h
    · exact Relation.ReflTransGen.trans h (reaches_afterQueryChange fv')
  unfold editQuery
  cases e
  case filterInput r => exact hedit { fv with filter := fv.filter.edit r } (Filter.reaches_call _ (.edit r))
  all_goals exact hedit fv Relation.ReflTransGen.refl

theorem reaches_clearFilter (fv : FilteredView α) : fv.filter.Reaches fv.clearFilter.filter :=
  Relation.ReflTransGen.trans (Filter.reaches_call fv.filter .blurAndClear)
    (reaches_updateVisibleRows
      { fv with filter := fv.filter.blurAndClear,
                surface := (fv.surface.setHighlight "").setSelectionStyle .applied })

omit [BEq α] in
/-- A step between matches is a step of the filter's cursor, when one is taken at all. -/
theorem reaches_stepMatch (fv : FilteredView α) (skip : Bool) (s : MatchStep) :
    fv.filter.Reaches (if skip then (fv, []) else
      let fv' := { fv with filter := fv.filter.advanceMatch s }
      if fv'.filter.hasContextualMatches then
        (fv'.scrollToItem fv'.filter.currentMatchIndex, [Effect.matchFocused fv'.filter.currentMatchIndex])
      else (fv', [])).1.filter := by
  have hstep := Filter.reaches_call fv.filter (.advanceMatch s)
  split
  · exact Relation.ReflTransGen.refl
  dsimp only
  split
  · exact hstep
  · exact hstep

/-- Starting to type a query sets the mode and focuses the filter, and refreshes the rows when
the mode changed. -/
theorem reaches_startEditing (fv : FilteredView α) (m : FilterMode) (c : Prop) [Decidable c] :
    fv.filter.Reaches
      (let fv₁ := { fv with filter := (fv.filter.setMode m).focus }
       let fv₂ := if c then fv₁.updateVisibleRows else fv₁
       { fv₂ with surface := fv₂.surface.setSelectionStyle .editing }).filter := by
  have hmode : fv.filter.Reaches (fv.filter.setMode m).focus :=
    Relation.ReflTransGen.tail (Filter.reaches_call _ (.setMode m)) ⟨.focus, rfl⟩
  dsimp only
  split
  · exact Relation.ReflTransGen.trans hmode
      (reaches_updateVisibleRows { fv with filter := (fv.filter.setMode m).focus })
  · exact hmode

theorem reaches_dispatch (fv : FilteredView α) (e : ViewEvent) :
    fv.filter.Reaches (fv.dispatch e).1.filter := by
  unfold dispatch
  split
  · exact reaches_clearFilter fv
  split
  · split
    · exact Filter.reaches_call _ .blur
    · exact reaches_editQuery fv e
  cases e
  case navigate n => exact Relation.ReflTransGen.refl
  case nextMatch => exact reaches_stepMatch fv _ _
  case prevMatch => exact reaches_stepMatch fv _ _
  case startFilter => exact reaches_startEditing fv _ _
  case startRegexFilter => exact reaches_startEditing fv _ _
  case toggleWrap => exact Relation.ReflTransGen.refl
  all_goals exact reaches_editQuery fv _

theorem reaches_setAllRows (fv : FilteredView α) (rows : Array α) :
    fv.filter.Reaches (fv.setAllRows rows).filter := by
  have h₁ := reaches_updateVisibleRows { fv with allRows := rows }
  unfold setAllRows
  dsimp only
  rw [filter_updateHeader]
  split
  · -- with context and a query, the cursor goes back to the first match
    have h₂ := Relation.ReflTransGen.tail h₁ ⟨.resetMatchCursor, rfl⟩
    split
    · exact h₂
    · exact h₂
  · exact h₁

theorem reaches_toggleShowContext (fv : FilteredView α) :
    fv.filter.Reaches fv.toggleShowContext.filter := by
  unfold toggleShowContext
  split
  · exact Relation.ReflTransGen.refl
  · exact Relation.ReflTransGen.trans (Filter.reaches_call fv.filter (.setContextEnabled _))
      (reaches_updateVisibleRows { fv with filter := fv.filter.setContextEnabled !fv.filter.context })

theorem reaches_applyFilter (fv : FilteredView α) (text : String) (mode : FilterMode) :
    fv.filter.Reaches (fv.applyFilter text mode).filter := by
  have h₁ : fv.filter.Reaches ((fv.filter.setMode mode).setText text) :=
    Relation.ReflTransGen.tail (Filter.reaches_call fv.filter (.setMode mode)) ⟨.setText text, rfl⟩
  have h₂ := Relation.ReflTransGen.trans h₁ (reaches_updateVisibleRows
    { fv with filter := (fv.filter.setMode mode).setText text,
              surface := fv.surface.setHighlight text })
  exact Relation.ReflTransGen.tail h₂ ⟨.resetMatchCursor, rfl⟩

/-- Every call on a view changes its filter by calls on the filter. -/
theorem reaches_perform (fv : FilteredView α) (r : Request α) :
    fv.filter.Reaches (fv.perform r).filter := by
  cases r with
  | handle e => exact reaches_dispatch fv e
  | setAllRows rows => exact reaches_setAllRows fv rows
  | toggleShowContext => exact reaches_toggleShowContext fv
  | applyFilter text mode => exact reaches_applyFilter fv text mode
  | _ => exact Relation.ReflTransGen.refl

/-- The filter of a view reached from a new one is reached from a new filter. -/
theorem reaches_foldl_perform (c : FilteredViewConfig α) (rs : List (Request α)) :
    (Filter.new c.hints).Reaches (rs.foldl perform (new c)).filter := by
  -- a new view sets the context flags of a new filter and refreshes its rows
  have hflags : (Filter.new c.hints).Reaches
      (((Filter.new c.hints).setContextEnabled c.startWithContext).setContextToggleAllowed
        c.canToggleContext) :=
    Relation.ReflTransGen.tail (Filter.reaches_call _ (.setContextEnabled c.startWithContext))
      ⟨.setContextToggleAllowed c.canToggleContext, rfl⟩
  have hnew : (Filter.new c.hints).Reaches (new c).filter := by
    unfold FilteredView.new
    dsimp only
    rw [filter_updateHeader]
    exact Relation.ReflTransGen.trans hflags (reaches_updateVisibleRows
      { filter := _, surface := _, allRows := c.rows, topHeader := c.topHeader,
        whenEmpty := c.whenEmpty })
  suffices hrun : ∀ fv : FilteredView α, (Filter.new c.hints).Reaches fv.filter →
      (Filter.new c.hints).Reaches (rs.foldl perform fv).filter from hrun _ hnew
  induction rs with
  | nil => exact fun _ h => h
  | cons r rs ih => exact fun fv h => ih _ (Relation.ReflTransGen.trans h (reaches_perform fv r))

/-! Stepping to a match. -/

omit [Record α] [BEq α] in
/-- A view whose viewport already shows its header is left as it is by a refresh of the
header. -/
theorem updateHeader_of_header {fv : FilteredView α} (h : fv.surface.header = [fv.header]) :
    fv.updateHeader = fv := by
  unfold updateHeader Viewport.setHeader
  rw [← h]

/-- An unfocused view answers a step event by moving the cursor, when context is on and there
is a query, and going to the match under it. -/
theorem dispatch_event (fv : FilteredView α) (s : MatchStep) (hf : fv.filter.focused = false) :
    fv.dispatch s.event =
      if !fv.filter.context || !fv.filter.hasText then (fv, [])
      else
        let fv' := { fv with filter := fv.filter.advanceMatch s }
        if fv'.filter.hasContextualMatches then
          (fv'.scrollToItem fv'.filter.currentMatchIndex,
            [Effect.matchFocused fv'.filter.currentMatchIndex])
        else (fv', []) := by
  cases s <;> simp [dispatch, MatchStep.event, hf]

/-- A step lands on the match after the cursor: the cursor moves cyclically and the effect names
that match. -/
theorem dispatch_event_of_matches {fv : FilteredView α} (s : MatchStep)
    (hf : fv.filter.focused = false) (hctx : fv.filter.context = true) (hv : fv.filter.value ≠ "")
    (hcur : fv.filter.CursorInRange) (hm : 0 < fv.filter.matchCount) :
    ∃ j, fv.filter.matchingIndexes[s.shift fv.filter.matchCount fv.filter.matchCursor]? = some j ∧
      fv.dispatch s.event =
        (({ fv with filter := { fv.filter with
            matchCursor := s.shift fv.filter.matchCount fv.filter.matchCursor } }).scrollToItem j,
          [.matchFocused j]) := by
  have hk : s.shift fv.filter.matchCount fv.filter.matchCursor < fv.filter.matchingIndexes.length := by
    cases s <;> exact Nat.mod_lt _ hm
  refine ⟨_, List.getElem?_eq_getElem hk, ?_⟩
  have ht : fv.filter.hasText = true := by simpa [Filter.hasText] using hv
  have hskip : (!fv.filter.context || !fv.filter.hasText) = false := by simp [hctx, ht]
  have hcm : ({ fv.filter with matchCursor := s.shift fv.filter.matchCount fv.filter.matchCursor } :
      Filter).hasContextualMatches = true := by
    simpa [Filter.hasContextualMatches, hctx, Filter.matchCount, ← List.length_pos_iff] using hm
  have hidx : ({ fv.filter with matchCursor := s.shift fv.filter.matchCount fv.filter.matchCursor } :
      Filter).currentMatchIndex = fv.filter.matchingIndexes[s.shift fv.filter.matchCount
        fv.filter.matchCursor] := by
    simp [Filter.currentMatchIndex, hctx, List.getElem?_eq_getElem hk]
  rw [dispatch_event fv s hf, hskip, Filter.advanceMatch_eq_shift hcur hm s]
  dsimp only
  rw [if_neg Bool.false_ne_true, if_pos hcm, hidx]

/-- Stepping through the matches of a view reached from a new one, with the query not focused.
With context on, a query and `m > 0` matches, a step forward takes the cursor `c` to
`(c + 1) % m` and a step back to `(c + m - 1) % m`, and the step reports exactly the match `j`
under the new cursor. It selects row `j` when selection is on and the window has two rows below
the header, and otherwise scrolls the viewport to row `j`; either way the header is refreshed
and nothing else of the filter changes. Without context, or without a query, a step reports
nothing and leaves the view as it is. -/
theorem matchStep_lands_on_match (c : FilteredViewConfig α) (rs : List (Request α))
    (s : MatchStep) :
    let fv := rs.foldl perform (new c)
    let r := fv.handle s.event
    fv.filter.focused = false →
      (fv.filter.context = true → fv.filter.value ≠ "" → 0 < fv.filter.matchCount →
        r.1.filter = { fv.filter with
          matchCursor := s.shift fv.filter.matchCount fv.filter.matchCursor } ∧
        ∃ j, fv.filter.matchingIndexes[s.shift fv.filter.matchCount fv.filter.matchCursor]? =
            some j ∧ r.2 = [.matchFocused j] ∧
          (fv.surface.selectionEnabled = true → 2 ≤ fv.surface.afterHeader →
            r.1.selectionIndex = j) ∧
          (fv.surface.selectionEnabled = false →
            r.1.surface = (fv.surface.scrollToIndex j).setHeader [r.1.header])) ∧
      (fv.filter.context = false ∨ fv.filter.value = "" → r = (fv, [])) := by
  intro fv r hf
  have hsync : fv.InSync := inSync_foldl_perform c rs
  have hcur : fv.filter.CursorInRange :=
    (reaches_foldl_perform c rs).cursorInRange (Filter.cursorInRange_new c.hints)
  refine ⟨fun hctx hv hm => ?_, fun hskip => ?_⟩
  · obtain ⟨j, hj, hd⟩ := dispatch_event_of_matches s hf hctx hv hcur hm
    have hr : r = (((({ fv with filter := { fv.filter with
        matchCursor := s.shift fv.filter.matchCount fv.filter.matchCursor } }).scrollToItem j)
          ).updateHeader, [.matchFocused j]) := by
      show ((fv.dispatch s.event).1.updateHeader, (fv.dispatch s.event).2) = _
      rw [hd]
    -- the match names a row, and in context mode every row is shown
    have hrow : j < fv.surface.items.size := by
      have hmem : j ∈ fv.filter.matchingIndexes := List.mem_of_getElem? hj
      obtain ⟨hlt, -⟩ := ((hsync.indexes hctx hv).2 j).1 hmem
      have hitems : fv.visibleRows = fv.allRows := by rw [hsync.rows, if_pos (Or.inr hctx)]
      show j < fv.visibleRows.size
      rw [hitems]
      exact hlt
    -- the step selects the row with selection on, and scrolls to it otherwise
    have hsurf : r.1.surface = (if fv.surface.selectionEnabled then fv.surface.setSelectedIndex j
        else fv.surface.scrollToIndex j).setHeader [r.1.header] := by
      rw [hr]
      rfl
    refine ⟨by rw [hr]; rfl, j, hj, by rw [hr], fun hsel hroom => ?_, fun hsel => ?_⟩
    · rw [FilteredView.selectionIndex, hsurf, if_pos hsel]
      show (if (fv.surface.setSelectedIndex j).selectionEnabled then
        (fv.surface.setSelectedIndex j).selected else 0) = j
      rw [(Viewport.moves_setSelectedIndex fv.surface j).selectionEnabled, if_pos hsel]
      exact Viewport.selected_setSelectedIndex hsel hroom hrow
    · rw [hsurf, if_neg (by simp [hsel])]
  · -- no step is taken, and the header shown is already the one for the filter
    have hd : fv.dispatch s.event = (fv, []) := by
      rw [dispatch_event fv s hf, if_pos]
      rcases hskip with h | h
      · simp [h]
      · simp [Filter.hasText, h]
    show ((fv.dispatch s.event).1.updateHeader, (fv.dispatch s.event).2) = (fv, [])
    rw [hd, updateHeader_of_header hsync.header]

/-- Two rows of three hold `a`; with the query `a` in context, a step forward from the first match
reports and selects the third row. -/
theorem matchStep_lands_on_match_forward :
    let c : FilteredViewConfig String :=
      { topHeader := "Header", startWithContext := true, width := 40, height := 10,
        rows := #["a1", "b", "a2"], whenEmpty := "No items" }
    let fv := [Request.applyFilter "a" .plain].foldl perform (new c)
    fv.filter.focused = false ∧ fv.filter.context = true ∧ fv.filter.value ≠ "" ∧
      0 < fv.filter.matchCount ∧ fv.surface.selectionEnabled = true ∧
      2 ≤ fv.surface.afterHeader ∧ (fv.handle MatchStep.next.event).2 = [.matchFocused 2] ∧
      (fv.handle MatchStep.next.event).1.selectionIndex = 2 := by
  intro c fv
  have hf : fv.filter.focused = false := by decide
  have hctx : fv.filter.context = true := by decide
  have hv : fv.filter.value ≠ "" := by decide
  have hm : 0 < fv.filter.matchCount := by decide
  have hsel : fv.surface.selectionEnabled = true := by decide
  have hroom : 2 ≤ fv.surface.afterHeader := by decide
  obtain ⟨-, j, hj, heff, hpick, -⟩ :=
    (matchStep_lands_on_match c [Request.applyFilter "a" .plain] .next hf).1 hctx hv hm
  have h2 : fv.filter.matchingIndexes[MatchStep.next.shift fv.filter.matchCount
      fv.filter.matchCursor]? = some 2 := by decide
  obtain rfl : j = 2 := Option.some.inj (hj.symm.trans h2)
  exact ⟨hf, hctx, hv, hm, hsel, hroom, heff, hpick hsel hroom⟩

end FilteredView

end LogBrowser
