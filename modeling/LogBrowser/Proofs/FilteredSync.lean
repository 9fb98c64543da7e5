import LogBrowser.View.Filtered
import LogBrowser.Proofs.Viewport.Frame

/-!
# A filtered view stays in sync with its filter

A filtered view keeps derived state beside its filter: the rows its viewport shows, the
indexes of the matching rows (with context on), the viewport's header, its highlight and its
selection style. Every request a caller can make keeps all of them equal to what the filter
and the rows say (`FilteredView.InSync`).

The argument is an invariant with one extra part, `Filter.Current`: while there is a query, the
compiled pattern is the one the query and the mode give. With it, whether a row passes reads
only the query and the mode (`Filter.accepts_eq_of_current`), so a request that changes
neither (focusing, a mode switch to the same mode, an edit that only moves the cursor) cannot
leave the shown rows stale. Every other change of the query or the mode is followed by
`updateVisibleRows`, which puts the rows right whatever they were before
(`RowsInSync.updateVisibleRows`).
-/

namespace LogBrowser

namespace Filter

/-- While there is a query, the compiled pattern is the one the query and the mode give. -/
def Current (f : Filter) : Prop :=
  f.value ≠ "" → f.pattern = compiled f.mode f.value

/-- Two filters with current patterns, the same query and the same mode pass the same rows. -/
theorem accepts_eq_of_current {f g : Filter} (hf : f.Current) (hg : g.Current)
    (hv : g.value = f.value) (hm : g.mode = f.mode) : g.accepts = f.accepts := by
  funext c
  unfold accepts
  by_cases he : f.value = ""
  · simp [hv, he]
  · rw [hg (hv ▸ he), hf he, hv, hm]

theorem current_recompile (f : Filter) : f.recompile.Current := fun _ => rfl

/-- An edit that the input does not report as acting leaves the text as it is. -/
theorem text_apply_of_not_responds {i : LineInput} {r : EditRequest}
    (h : responds i r = false) : (i.apply r).text = i.text := by
  cases r with
  | setCursor pos => rfl
  | insertChar c => simp [responds] at h
  | deleteTillEnd => simp [responds] at h
  | yank => simp [responds] at h
  | deleteLine =>
      have hsize : i.size = 0 := by simpa [responds] using h
      simp [LineInput.apply, hsize]
  | goToPrevChar => rfl
  | goToPrevWord => rfl
  | goToStart => rfl
  | deletePrevChar =>
      have hcursor : i.cursor = 0 := by simpa [responds] using h
      simp [LineInput.apply, LineInput.splice, hcursor, LineInput.chars, String.ofList_toList]
  | deletePrevWord =>
      have hcursor : i.cursor = 0 := by simpa [responds] using h
      simp [LineInput.apply, hcursor]
  | deleteFromStart =>
      have hcursor : i.cursor = 0 := by simpa [responds] using h
      simp [LineInput.apply, hcursor]
  | goToNextChar => rfl
  | goToNextWord => rfl
  | goToEnd => rfl
  | deleteNextChar =>
      have hend : i.size ≤ i.cursor := by simpa [responds] using h
      have hdrop : i.chars.drop (i.cursor + i.forwardStep) = [] :=
        List.drop_of_length_le (by simp only [LineInput.size] at hend; omega)
      have htake : i.chars.take i.cursor = i.chars :=
        List.take_of_length_le (by simpa [LineInput.size] using hend)
      show String.ofList (i.chars.take i.cursor ++ [] ++ i.chars.drop (i.cursor + i.forwardStep)) =
        i.text
      rw [htake, hdrop, List.append_nil, List.append_nil]
      exact String.ofList_toList
  | deleteNextWord =>
      have hend : i.size ≤ i.cursor := by simpa [responds] using h
      simp [LineInput.apply, hend]

theorem Current.edit {f : Filter} (h : f.Current) (r : EditRequest) : (f.edit r).Current := by
  unfold Filter.edit
  split
  · exact h
  split
  · exact current_recompile _
  · -- the text did not change, so the pattern compiled for it still is the current one
    rename_i hresp
    have htext : (f.input.apply r).text = f.input.text :=
      text_apply_of_not_responds (Bool.eq_false_iff.2 hresp)
    intro hv
    have hv' : f.value ≠ "" := by simpa [value, htext] using hv
    simpa [value, htext] using h hv'

/-- An edit changes the query's input and pattern, and nothing else. -/
theorem edit_eq (f : Filter) (r : EditRequest) :
    ∃ i p, f.edit r = { f with input := i, pattern := p } := by
  unfold Filter.edit
  split
  · exact ⟨f.input, f.pattern, rfl⟩
  split
  · exact ⟨_, _, rfl⟩
  · exact ⟨_, f.pattern, rfl⟩

theorem advanceMatch_eq (f : Filter) (st : MatchStep) :
    ∃ c, f.advanceMatch st = { f with matchCursor := c } := by
  cases st with
  | next =>
      simp only [advanceMatch]
      split
      · exact ⟨f.matchCursor, rfl⟩
      · exact ⟨_, rfl⟩
  | prev =>
      simp only [advanceMatch]
      split
      · exact ⟨f.matchCursor, rfl⟩
      · exact ⟨_, rfl⟩

end Filter

theorem zip_range'_cons {β : Type} (k : Nat) (b : β) (l : List β) :
    (List.range' k (b :: l).length).zip (b :: l) = (k, b) :: (List.range' (k + 1) l.length).zip l := by
  simp [List.range'_succ]

/-- The positions, counted from `k`, of the members of `l` that pass `p`. -/
theorem mem_filterMap_zip_range' {β : Type} (p : β → Bool) (l : List β) (k i : Nat) :
    i ∈ ((List.range' k l.length).zip l).filterMap (fun x => if p x.2 then some x.1 else none) ↔
      ∃ j, ∃ h : j < l.length, i = k + j ∧ p l[j] = true := by
  induction l generalizing k with
  | nil => simp
  | cons b l ih =>
      rw [zip_range'_cons]
      -- a position past the head is one of the tail's, shifted by one
      have htail : (∃ j, ∃ h : j < l.length, i = k + 1 + j ∧ p l[j] = true) ↔
          ∃ j, ∃ h : j < (b :: l).length, i = k + j ∧ 0 < j ∧ p (b :: l)[j] = true := by
        constructor
        · rintro ⟨j, hj, rfl, hp⟩
          exact ⟨j + 1, by simpa using hj, by omega, by omega, by simpa using hp⟩
        · rintro ⟨j, hj, rfl, hj0, hp⟩
          obtain ⟨j, rfl⟩ : ∃ j', j = j' + 1 := ⟨j - 1, by omega⟩
          exact ⟨j, by simpa using hj, by omega, by simpa using hp⟩
      by_cases hb : p b = true
      · simp only [List.filterMap_cons, hb, ite_true, List.mem_cons, ih, htail]
        constructor
        · rintro (rfl | ⟨j, hj, rfl, -, hp⟩)
          · exact ⟨0, by simp, by simp, by simpa using hb⟩
          · exact ⟨j, hj, rfl, hp⟩
        · rintro ⟨j, hj, rfl, hp⟩
          rcases Nat.eq_zero_or_pos j with rfl | hj0
          · exact .inl rfl
          · exact .inr ⟨j, hj, rfl, hj0, hp⟩
      · simp only [List.filterMap_cons, hb, Bool.false_eq_true, ite_false, ih, htail]
        constructor
        · rintro ⟨j, hj, rfl, -, hp⟩
          exact ⟨j, hj, rfl, hp⟩
        · rintro ⟨j, hj, rfl, hp⟩
          rcases Nat.eq_zero_or_pos j with rfl | hj0
          · exact absurd (by simpa using hp) hb
          · exact ⟨j, hj, rfl, hj0, hp⟩

/-- The positions found are increasing. -/
theorem pairwise_filterMap_zip_range' {β : Type} (p : β → Bool) (l : List β) (k : Nat) :
    (((List.range' k l.length).zip l).filterMap
      (fun x => if p x.2 then some x.1 else none)).Pairwise (· < ·) := by
  induction l generalizing k with
  | nil => simp
  | cons b l ih =>
      rw [zip_range'_cons]
      by_cases hb : p b = true
      · simp only [List.filterMap_cons, hb, ite_true]
        refine List.pairwise_cons.2 ⟨fun i hi => ?_, ih (k + 1)⟩
        obtain ⟨j, -, rfl, -⟩ := (mem_filterMap_zip_range' p l (k + 1) i).1 hi
        omega
      · simp only [List.filterMap_cons, hb, Bool.false_eq_true, ite_false]
        exact ih (k + 1)

namespace FilteredView

variable {α : Type} [Record α]

/-- `ixs` lists, in increasing order, exactly the indexes of the rows that pass the filter. -/
def ListsMatches (fv : FilteredView α) (ixs : List Nat) : Prop :=
  ixs.Pairwise (· < ·) ∧ ∀ i, i ∈ ixs ↔ ∃ h : i < fv.allRows.size, fv.passes fv.allRows[i] = true

theorem listsMatches_matchingIndexes (fv : FilteredView α) :
    fv.ListsMatches fv.matchingIndexes := by
  have hform : fv.matchingIndexes = ((List.range' 0 fv.allRows.toList.length).zip
      fv.allRows.toList).filterMap (fun x => if fv.passes x.2 then some x.1 else none) := by
    rw [Array.length_toList, ← List.range_eq_range']
    rfl
  rw [hform]
  refine ⟨pairwise_filterMap_zip_range' _ _ 0, fun i => ?_⟩
  rw [mem_filterMap_zip_range']
  constructor
  · rintro ⟨j, hj, rfl, hp⟩
    exact ⟨by simpa using hj, by simpa using hp⟩
  · rintro ⟨hi, hp⟩
    exact ⟨i, by simpa using hi, by simp, by simpa using hp⟩

variable {fv : FilteredView α}

/-- The rows shown and, with context and a query, the matches are those the filter gives. -/
structure RowsMatch (fv : FilteredView α) : Prop where
  /-- All rows without a query or with context, otherwise the passing rows in their order. -/
  rows : fv.visibleRows =
    if fv.filter.value = "" ∨ fv.filter.context = true then fv.allRows
    else fv.allRows.filter fv.passes
  /-- With context and a query, the matches are the indexes of the passing rows. -/
  indexes : fv.filter.context = true → fv.filter.value ≠ "" →
    fv.ListsMatches fv.filter.matchingIndexes

/-- The rows match, and the viewport mirrors the filter: it highlights the query, and it draws
the selection as being edited exactly while the query has focus. The pattern is current. -/
structure RowsInSync (fv : FilteredView α) : Prop extends RowsMatch fv where
  highlight : fv.surface.highlight = fv.filter.value
  editing : fv.surface.selectionStyle = .editing ↔ fv.filter.focused = true
  current : fv.filter.Current

/-- The whole derived state is in sync: the rows as above, and the header names the filter. -/
structure InSync (fv : FilteredView α) : Prop extends RowsInSync fv where
  header : fv.surface.header = [fv.header]

/-- A filter that passes the same rows, with the same query, context and matches. -/
theorem RowsMatch.withFilter (h : RowsMatch fv) (g : Filter) (hv : g.value = fv.filter.value)
    (hc : g.context = fv.filter.context) (hm : g.matchingIndexes = fv.filter.matchingIndexes)
    (ha : g.accepts = fv.filter.accepts) : RowsMatch { fv with filter := g } := by
  have hp : ({ fv with filter := g } : FilteredView α).passes = fv.passes := by
    funext r
    exact congrFun ha _
  constructor
  · rw [hp, hv, hc]
    exact h.rows
  · intro hctx hval
    rw [hm]
    unfold ListsMatches
    rw [hp]
    exact h.indexes (hc ▸ hctx) (hv ▸ hval)

theorem RowsMatch.withSurface (h : RowsMatch fv) {s : Viewport α}
    (hi : s.items = fv.surface.items) : RowsMatch { fv with surface := s } :=
  ⟨hi.trans h.rows, h.indexes⟩

theorem RowsInSync.withSurface (h : RowsInSync fv) {s : Viewport α}
    (hi : s.items = fv.surface.items) (hl : s.highlight = fv.surface.highlight)
    (hs : s.selectionStyle = fv.surface.selectionStyle) : RowsInSync { fv with surface := s } :=
  { rows := hi.trans h.rows
    indexes := h.indexes
    highlight := hl.trans h.highlight
    editing := hs ▸ h.editing
    current := h.current }

theorem RowsInSync.moves (h : RowsInSync fv) {s : Viewport α} (hm : Viewport.Moves fv.surface s) :
    RowsInSync { fv with surface := s } :=
  h.withSurface hm.items hm.highlight hm.selectionStyle

theorem InSync.withSurface (h : InSync fv) {s : Viewport α}
    (hi : s.items = fv.surface.items) (hl : s.highlight = fv.surface.highlight)
    (hs : s.selectionStyle = fv.surface.selectionStyle) (hh : s.header = fv.surface.header) :
    InSync { fv with surface := s } :=
  { toRowsInSync := h.toRowsInSync.withSurface hi hl hs
    header := hh.trans h.header }

theorem InSync.moves (h : InSync fv) {s : Viewport α} (hm : Viewport.Moves fv.surface s) :
    InSync { fv with surface := s } :=
  { toRowsInSync := h.toRowsInSync.moves hm
    header := hm.header.trans h.header }

/-- Moving the match cursor changes nothing the rows depend on. -/
theorem RowsInSync.withMatchCursor (h : RowsInSync fv) (c : Nat) :
    RowsInSync { fv with filter := { fv.filter with matchCursor := c } } :=
  { rows := h.rows
    indexes := h.indexes
    highlight := h.highlight
    editing := h.editing
    current := h.current }

theorem RowsInSync.scrollToItem (h : RowsInSync fv) (idx : Nat) :
    RowsInSync (fv.scrollToItem idx) := by
  unfold FilteredView.scrollToItem
  split
  · exact h.moves (Viewport.moves_setSelectedIndex _ _)
  · exact h.moves (Viewport.moves_scrollToIndex _ _)

/-- Refreshing the header completes the sync. -/
theorem RowsInSync.updateHeader (h : RowsInSync fv) : InSync fv.updateHeader :=
  { rows := h.rows
    indexes := h.indexes
    highlight := h.highlight
    editing := h.editing
    current := h.current
    header := rfl }

section Refresh

variable [BEq α]

/-- Refreshing the rows puts the rows and the matches right, whatever they were. -/
theorem rowsMatch_updateVisibleRows (fv : FilteredView α) : RowsMatch fv.updateVisibleRows := by
  unfold updateVisibleRows
  split
  · rename_i hboth
    have hctx : fv.filter.context = true := by simp_all
    have hs := Viewport.moves_setContent fv.surface fv.allRows
    refine ⟨?_, fun _ _ => listsMatches_matchingIndexes fv⟩
    show (fv.surface.setContent fv.allRows).items =
      if fv.filter.value = "" ∨ fv.filter.context = true then fv.allRows
      else fv.allRows.filter fv.passes
    rw [hs.items, if_pos (Or.inr hctx)]
  split
  · rename_i hboth htext
    have hctx : fv.filter.context = false := by simp_all
    have hval : fv.filter.value ≠ "" := by simpa [Filter.hasText] using htext
    have hs := Viewport.moves_setContent fv.surface (fv.allRows.filter fv.passes)
    refine ⟨?_, fun h => absurd h (by simp [hctx])⟩
    show (fv.surface.setContent (fv.allRows.filter fv.passes)).items =
      if fv.filter.value = "" ∨ fv.filter.context = true then fv.allRows
      else fv.allRows.filter fv.passes
    rw [hs.items, if_neg (by simp [hctx, hval])]
  · rename_i _ htext
    have hval : fv.filter.value = "" := by simpa [Filter.hasText] using htext
    have hs := Viewport.moves_setContent fv.surface fv.allRows
    refine ⟨?_, fun _ h => absurd hval h⟩
    show (fv.surface.setContent fv.allRows).items =
      if fv.filter.value = "" ∨ fv.filter.context = true then fv.allRows
      else fv.allRows.filter fv.passes
    rw [hs.items, if_pos (Or.inl hval)]

/-- Refreshing the rows changes the viewport only by new items and a move. -/
theorem moves_updateVisibleRows (fv : FilteredView α) :
    ∃ xs, Viewport.Moves { fv.surface with items := xs } fv.updateVisibleRows.surface := by
  unfold updateVisibleRows
  split
  · exact ⟨_, Viewport.moves_setContent _ _⟩
  split
  · exact ⟨_, Viewport.moves_setContent _ _⟩
  · exact ⟨_, Viewport.moves_setContent _ _⟩

/-- Refreshing the rows changes the filter only in its matches and their cursor. -/
theorem filter_updateVisibleRows (fv : FilteredView α) : ∃ ixs c,
    fv.updateVisibleRows.filter = { fv.filter with matchingIndexes := ixs, matchCursor := c } := by
  unfold updateVisibleRows
  split
  · exact ⟨_, _, rfl⟩
  split
  · exact ⟨fv.filter.matchingIndexes, fv.filter.matchCursor, rfl⟩
  · exact ⟨fv.filter.matchingIndexes, fv.filter.matchCursor, rfl⟩

theorem rowsInSync_updateVisibleRows (hl : fv.surface.highlight = fv.filter.value)
    (he : fv.surface.selectionStyle = .editing ↔ fv.filter.focused = true)
    (hc : fv.filter.Current) : RowsInSync fv.updateVisibleRows := by
  obtain ⟨xs, hs⟩ := moves_updateVisibleRows fv
  obtain ⟨ixs, c, hf⟩ := filter_updateVisibleRows fv
  exact
    { toRowsMatch := rowsMatch_updateVisibleRows fv
      highlight := by rw [hs.highlight, hf]; exact hl
      editing := by rw [hs.selectionStyle, hf]; exact he
      current := by rw [hf]; exact hc }

theorem rowsInSync_clearFilter (fv : FilteredView α) : RowsInSync fv.clearFilter := by
  unfold clearFilter
  apply rowsInSync_updateVisibleRows rfl
  · simp [Viewport.setSelectionStyle, Filter.blurAndClear, Filter.blur]
  · intro hv
    exact absurd rfl hv

theorem rowsInSync_afterQueryChange
    (he : fv.surface.selectionStyle = .editing ↔ fv.filter.focused = true)
    (hc : fv.filter.Current) : RowsInSync fv.afterQueryChange.1 := by
  unfold afterQueryChange
  extract_lets value fv₁
  have h₁ : RowsInSync fv₁ := rowsInSync_updateVisibleRows rfl he hc
  split
  · -- with context, the cursor goes back to the first match and the view follows it
    exact (h₁.withMatchCursor 0).scrollToItem _
  · exact h₁

/-- Editing the query keeps the view in sync: an edit that leaves the query as it is changes
nothing the rows depend on, and any other one refreshes them. -/
theorem RowsInSync.editQuery (h : RowsInSync fv) (e : ViewEvent) :
    RowsInSync (fv.editQuery e).1 := by
  cases e
  case filterInput r =>
    simp only [FilteredView.editQuery]
    obtain ⟨i, p, hg⟩ := Filter.edit_eq fv.filter r
    have hcur : (fv.filter.edit r).Current := h.current.edit r
    rw [hg] at hcur ⊢
    split
    · rename_i hv
      have ha : ({ fv.filter with input := i, pattern := p } : Filter).accepts =
          fv.filter.accepts :=
        Filter.accepts_eq_of_current h.current hcur hv rfl
      exact
        { toRowsMatch := h.toRowsMatch.withFilter _ hv rfl rfl ha
          highlight := h.highlight.trans hv.symm
          editing := h.editing
          current := hcur }
    · exact rowsInSync_afterQueryChange h.editing hcur
  -- any other event leaves the query, and so the view, as it is
  all_goals simpa [FilteredView.editQuery] using h

/-- Starting to type a query in mode `m` keeps the view in sync: the rows are refreshed when the
mode changes (`c`), and otherwise pass as before, since the recompiled pattern is the old one. -/
theorem RowsInSync.startEditing (h : RowsInSync fv) (m : FilterMode) (c : Prop) [Decidable c]
    (hc : ¬c → fv.filter.mode = m) :
    RowsInSync
      (let fv₁ := { fv with filter := (fv.filter.setMode m).focus }
       let fv₂ := if c then fv₁.updateVisibleRows else fv₁
       { fv₂ with surface := fv₂.surface.setSelectionStyle .editing }) := by
  extract_lets fv₁ fv₂
  have hcur : fv₁.filter.Current := Filter.current_recompile _
  by_cases hch : c
  · -- the mode changed: the refresh puts the rows right
    have hfv₂ : fv₂ = fv₁.updateVisibleRows := if_pos hch
    obtain ⟨xs, hs⟩ := moves_updateVisibleRows fv₁
    obtain ⟨ixs, cur, hf⟩ := filter_updateVisibleRows fv₁
    rw [hfv₂]
    exact
      { toRowsMatch := (rowsMatch_updateVisibleRows fv₁).withSurface rfl
        highlight := by
          show fv₁.updateVisibleRows.surface.highlight = fv₁.updateVisibleRows.filter.value
          rw [hs.highlight, hf]
          exact h.highlight
        editing := by
          show SelectionStyle.editing = .editing ↔ fv₁.updateVisibleRows.filter.focused = true
          rw [hf]
          exact ⟨fun _ => rfl, fun _ => rfl⟩
        current := by
          show fv₁.updateVisibleRows.filter.Current
          rw [hf]
          exact hcur }
  · -- the same mode: the recompiled pattern passes the same rows
    have hfv₂ : fv₂ = fv₁ := if_neg hch
    have ha : fv₁.filter.accepts = fv.filter.accepts :=
      Filter.accepts_eq_of_current h.current hcur rfl (hc hch).symm
    rw [hfv₂]
    exact
      { toRowsMatch := (h.toRowsMatch.withFilter fv₁.filter rfl rfl rfl ha).withSurface rfl
        highlight := h.highlight
        editing := ⟨fun _ => rfl, fun _ => rfl⟩
        current := hcur }

/-- Every event keeps the rows, the matches and the viewport in sync with the filter. -/
theorem RowsInSync.dispatch (h : RowsInSync fv) (e : ViewEvent) :
    RowsInSync (fv.dispatch e).1 := by
  unfold FilteredView.dispatch
  split
  · exact rowsInSync_clearFilter fv
  split
  · split
    · -- accepting the query blurs it and draws the selection as applied again
      exact
        { rows := h.rows
          indexes := h.indexes
          highlight := h.highlight
          editing := by simp [Viewport.setSelectionStyle, Filter.blur]
          current := h.current }
    · exact h.editQuery e
  rename_i hclear hfocus
  cases e
  case navigate n => exact h.moves (Viewport.moves_navigate _ n)
  case nextMatch =>
    simp only [ite_true]
    split
    · exact h
    obtain ⟨c, hc⟩ := Filter.advanceMatch_eq fv.filter .next
    rw [hc]
    split
    · exact (h.withMatchCursor c).scrollToItem _
    · exact h.withMatchCursor c
  case prevMatch =>
    simp only [reduceCtorEq, ite_false]
    split
    · exact h
    obtain ⟨c, hc⟩ := Filter.advanceMatch_eq fv.filter .prev
    rw [hc]
    split
    · exact (h.withMatchCursor c).scrollToItem _
    · exact h.withMatchCursor c
  case startFilter =>
    exact h.startEditing .plain _ (fun hm => by cases hmode : fv.filter.mode <;> simp_all)
  case startRegexFilter =>
    exact h.startEditing .regex _ (fun hm => by cases hmode : fv.filter.mode <;> simp_all)
  case toggleWrap =>
    have hm := Viewport.moves_setWrap fv.surface (!fv.surface.wrap)
    exact h.withSurface hm.items hm.highlight hm.selectionStyle
  all_goals exact h.editQuery _

end Refresh

/-- The calls a caller makes on a filtered view. -/
inductive Request (α : Type) where
  | handle (e : ViewEvent)
  | setAllRows (rows : Array α)
  | toggleShowContext
  | applyFilter (text : String) (mode : FilterMode)
  | setTopHeader (text : String)
  | setFocus (focused selection : Bool)
  | setDimensions (width height : Nat)
  | setSelectionIndex (idx : Nat)
  | setTopSticky (b : Bool)
  | setBottomSticky (b : Bool)
  | setMaintainSelection (b : Bool)

theorem InSync.setTopHeader (h : InSync fv) (text : String) : InSync (fv.setTopHeader text) :=
  RowsInSync.updateHeader ⟨⟨h.rows, h.indexes⟩, h.highlight, h.editing, h.current⟩

theorem InSync.setFocus (h : InSync fv) (focused selection : Bool) :
    InSync (fv.setFocus focused selection) := by
  refine (h.toRowsInSync.withSurface ?_ ?_ ?_).updateHeader
  all_goals rfl

variable [BEq α]

/-- Answers a call; the effects of an event are dropped. -/
def perform (fv : FilteredView α) : Request α → FilteredView α
  | .handle e => (fv.handle e).1
  | .setAllRows rows => fv.setAllRows rows
  | .toggleShowContext => fv.toggleShowContext
  | .applyFilter text mode => fv.applyFilter text mode
  | .setTopHeader text => fv.setTopHeader text
  | .setFocus focused selection => fv.setFocus focused selection
  | .setDimensions width height => fv.mapSurface (·.setDimensions width height)
  | .setSelectionIndex idx => fv.setSelectionIndex idx
  | .setTopSticky b => fv.mapSurface (·.setTopSticky b)
  | .setBottomSticky b => fv.mapSurface (·.setBottomSticky b)
  | .setMaintainSelection b => fv.mapSurface (·.setMaintainSelection b)

theorem InSync.handle (h : InSync fv) (e : ViewEvent) : InSync (fv.handle e).1 :=
  (h.toRowsInSync.dispatch e).updateHeader

theorem InSync.setAllRows (h : InSync fv) (rows : Array α) : InSync (fv.setAllRows rows) := by
  unfold FilteredView.setAllRows
  extract_lets fv₁ fv₂ fv₃
  have h₁ : RowsInSync fv₁ := rowsInSync_updateVisibleRows h.highlight h.editing h.current
  have h₃ : RowsInSync fv₃ := by
    simp only [fv₃]
    split
    · -- with context and a query, back to the first match
      split
      · exact (h₁.withMatchCursor 0).scrollToItem _
      · exact h₁.withMatchCursor 0
    · exact h₁
  exact h₃.updateHeader

theorem InSync.toggleShowContext (h : InSync fv) : InSync fv.toggleShowContext := by
  unfold FilteredView.toggleShowContext
  split
  · exact h
  · refine (rowsInSync_updateVisibleRows ?_ ?_ ?_).updateHeader
    · exact h.highlight
    · exact h.editing
    · exact h.current

theorem InSync.applyFilter (h : InSync fv) (text : String) (mode : FilterMode) :
    InSync (fv.applyFilter text mode) := by
  unfold FilteredView.applyFilter
  extract_lets fv₁
  have h₁ : RowsInSync fv₁ :=
    rowsInSync_updateVisibleRows rfl h.editing (Filter.current_recompile _)
  exact (h₁.withMatchCursor 0).updateHeader

/-- Every call keeps a filtered view in sync. -/
theorem InSync.perform (h : InSync fv) (r : Request α) : InSync (fv.perform r) := by
  cases r with
  | handle e => exact h.handle e
  | setAllRows rows => exact h.setAllRows rows
  | toggleShowContext => exact h.toggleShowContext
  | applyFilter text mode => exact h.applyFilter text mode
  | setTopHeader text => exact h.setTopHeader text
  | setFocus focused selection => exact h.setFocus focused selection
  | setDimensions width height =>
      have hm := Viewport.moves_setDimensions fv.surface width height
      exact h.withSurface hm.items hm.highlight hm.selectionStyle hm.header
  | setSelectionIndex idx => exact h.moves (Viewport.moves_setSelectedIndex _ idx)
  | setTopSticky b => exact h.withSurface rfl rfl rfl rfl
  | setBottomSticky b => exact h.withSurface rfl rfl rfl rfl
  | setMaintainSelection b => exact h.withSurface rfl rfl rfl rfl

/-- A new view starts in sync. -/
theorem inSync_new (c : FilteredViewConfig α) : InSync (new c) := by
  unfold FilteredView.new
  extract_lets filter surface₀ surface₁ surface fv
  have hd := Viewport.moves_setDimensions surface₀ c.width c.height
  have hw := Viewport.moves_setWrap (surface₀.setDimensions c.width c.height |>.setSelectionEnabled
    c.startSelectionEnabled) c.startWrap
  refine (rowsInSync_updateVisibleRows ?_ ?_ ?_).updateHeader
  · show surface₁.highlight = ""
    rw [hw.highlight]
    exact hd.highlight
  · simp [fv, surface, Viewport.setSelectionStyle, filter, Filter.new,
      Filter.setContextEnabled, Filter.setContextToggleAllowed]
  · intro hv
    exact absurd rfl hv

/-- A filtered view stays in sync with its filter. From its creation on, after any sequence
of events (in any mode, focused or not), row replacements, context toggles, programmatic
queries, header changes, focus changes, resizes, selections and changes of the sticky and
maintain flags: the rows shown are all rows when there is no query or context is on, and the
rows that pass the filter, in order, otherwise; with context and a query the filter's matches
are exactly the increasing indexes of the rows that pass; the viewport's header is the one line
`top header, a space, the filter's label`; its highlight is the query; and it draws the selection
as being edited exactly while the query has focus. -/
theorem inSync_foldl_perform (c : FilteredViewConfig α) (rs : List (Request α)) :
    InSync (rs.foldl perform (new c)) := by
  -- the invariant holds at the start and every call keeps it
  suffices hrun : ∀ fv : FilteredView α, InSync fv → InSync (rs.foldl perform fv) from
    hrun _ (inSync_new c)
  induction rs with
  | nil => exact fun _ h => h
  | cons r rs ih => exact fun fv h => ih _ (h.perform r)

end FilteredView

end LogBrowser
