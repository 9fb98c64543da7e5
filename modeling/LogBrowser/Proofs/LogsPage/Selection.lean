import LogBrowser.Proofs.LogsPage.Ledger

/-!
# The selection stays on its line

A logs page keeps its view stuck to the end where new lines appear: the bottom when it reads
ascending, the top when it reads descending, and it maintains the selection everywhere else
(`LogsPage.SticksToOrder`, kept by every call). When a call gives the view new rows, the view
places the selection by the rules of `Viewport.FollowsSelection`: on the new last row at a
sticky bottom, on the first row at a sticky top, and otherwise on the row of the line that was
selected, found by the entries' own equality, which compares number, instant and text and not
the rendered columns (`selection_follows_log`).

The calls that give new rows without moving the selection elsewhere by design are those of
`Request.Refreshes`. In context mode with a query, replacing the rows goes to the first match
instead, so that case is left out.
-/

namespace LogBrowser

open Viewport

namespace LogEntry

/-- Entries are equal when their number, instant and text are. -/
theorem beq_iff {a b : LogEntry} :
    (a == b) = true ↔ a.seq = b.seq ∧ a.timestamp = b.timestamp ∧ a.text = b.text := by
  show (a.seq == b.seq && a.timestamp == b.timestamp && a.text == b.text) = true ↔ _
  simp [and_assoc]

instance : ReflBEq LogEntry where
  rfl := beq_iff.2 ⟨rfl, rfl, rfl⟩

end LogEntry

namespace FilteredView

variable {α : Type} [Record α] [BEq α] (fv : FilteredView α)

/-! Where the view's calls leave the selection. -/

theorem followsSelection_updateVisibleRows :
    FollowsSelection fv.surface fv.updateVisibleRows.surface := by
  unfold updateVisibleRows
  split
  · exact followsSelection_setContent _ _
  split <;> exact followsSelection_setContent _ _

/-- Replacing the rows places the selection by the rules, unless context mode with a query sends
it to the first match. -/
theorem followsSelection_setAllRows (rows : Array α)
    (hq : ¬(fv.filter.context = true ∧ fv.filter.value ≠ "")) :
    FollowsSelection fv.surface (fv.setAllRows rows).surface := by
  unfold setAllRows
  dsimp only
  split
  · -- the refresh keeps the context and the query, so this is the case left out
    rename_i hcond
    simp only [Filter.hasText, filter_context_updateVisibleRows, filter_value_updateVisibleRows,
      Bool.and_eq_true, Bool.not_eq_true', String.isEmpty_eq_false_iff] at hcond
    exact absurd ⟨hcond.1, by simpa using hcond.2⟩ hq
  · exact (followsSelection_updateVisibleRows { fv with allRows := rows }).of_same_right
      (sameSelection_setHeader _ _)

variable [ReflBEq α]

theorem followsSelection_toggleShowContext :
    FollowsSelection fv.surface fv.toggleShowContext.surface := by
  unfold toggleShowContext
  split
  · exact (SameSelection.refl _).followsSelection
  · exact (followsSelection_updateVisibleRows
      { fv with filter := fv.filter.setContextEnabled !fv.filter.context }).of_same_right
      (sameSelection_setHeader _ _)

/-- Without context mode, an edit of the query at most refreshes the rows. -/
theorem followsSelection_editQuery (e : ViewEvent) (hc : fv.filter.context = false) :
    FollowsSelection fv.surface (fv.editQuery e).1.surface := by
  have hedit : ∀ fv' : FilteredView α, fv'.surface = fv.surface → fv'.filter.context = false →
      FollowsSelection fv.surface (if fv'.filter.value = fv.filter.value then (fv', [])
        else fv'.afterQueryChange).1.surface := by
    intro fv' hs hc'
    split
    · rw [hs]
      exact (SameSelection.refl _).followsSelection
    · unfold afterQueryChange
      dsimp only
      rw [if_neg (by rw [filter_context_updateVisibleRows]; simp [hc'])]
      exact (followsSelection_updateVisibleRows _).of_same_left
        (hs ▸ sameSelection_setHighlight _ _)
  unfold editQuery
  cases e
  case filterInput r => exact hedit _ rfl ((Filter.context_edit _ r).trans hc)
  all_goals exact hedit _ rfl hc

/-- Starting to type a query refreshes the rows at most, when the mode changes. -/
theorem followsSelection_startEditing (m : FilterMode) (c : Prop) [Decidable c] :
    FollowsSelection fv.surface
      (let fv₁ := { fv with filter := (fv.filter.setMode m).focus }
       let fv₂ := if c then fv₁.updateVisibleRows else fv₁
       { fv₂ with surface := fv₂.surface.setSelectionStyle .editing }).surface := by
  extract_lets fv₁ fv₂
  refine FollowsSelection.of_same_right ?_ (sameSelection_setSelectionStyle _ _)
  by_cases hch : c
  · rw [show fv₂ = fv₁.updateVisibleRows from if_pos hch]
    exact followsSelection_updateVisibleRows fv₁
  · rw [show fv₂ = fv₁ from if_neg hch]
    exact (SameSelection.refl _).followsSelection

/-- Without context mode, an edit of the query, clearing it or starting to type one places the
selection by the rules. -/
theorem followsSelection_handle (e : ViewEvent)
    (he : e = .clear ∨ e = .startFilter ∨ e = .startRegexFilter ∨ ∃ r, e = .filterInput r)
    (hc : fv.filter.context = false) :
    FollowsSelection fv.surface (fv.handle e).1.surface := by
  show FollowsSelection fv.surface (fv.dispatch e).1.updateHeader.surface
  refine FollowsSelection.of_same_right ?_ (sameSelection_setHeader _ _)
  unfold dispatch
  split
  · -- clearing forgets the query and refreshes the rows
    show FollowsSelection fv.surface fv.clearFilter.surface
    exact (followsSelection_updateVisibleRows
      { fv with filter := fv.filter.blurAndClear,
                surface := (fv.surface.setHighlight "").setSelectionStyle .applied }).of_same_left
      ((sameSelection_setHighlight fv.surface "").trans (sameSelection_setSelectionStyle _ .applied))
  split
  · split
    · rename_i hacc
      rcases he with rfl | rfl | rfl | ⟨r, rfl⟩ <;> cases hacc
    · exact followsSelection_editQuery fv e hc
  rcases he with rfl | rfl | rfl | ⟨r, rfl⟩
  · contradiction
  · exact followsSelection_startEditing fv .plain _
  · exact followsSelection_startEditing fv .regex _
  · exact followsSelection_editQuery fv _ hc

end FilteredView

namespace LogsPage

/-- The view sticks to the end where new lines appear in the store's order, and maintains its
selection elsewhere. -/
def SticksToOrder (p : LogsPage) : Prop :=
  p.view.surface.stickiness = (!p.store.ascending, p.store.ascending, true)

theorem sticksToOrder_new (o : PageOptions) : SticksToOrder (new o) := by
  simp [SticksToOrder, new, followOrder, FilteredView.mapSurface, FilteredView.setFocus,
    FilteredView.updateHeader, Viewport.stickiness, Viewport.setTopSticky, Viewport.setBottomSticky,
    Viewport.setMaintainSelection, Viewport.setSelectionEnabled, Viewport.setFocused,
    Viewport.setHeader, SortedStore.empty]

section Sticks

variable {p : LogsPage}

theorem SticksToOrder.withView (h : SticksToOrder p) {v : FilteredView LogEntry}
    (hv : v.surface.stickiness = p.view.surface.stickiness) : SticksToOrder { p with view := v } :=
  hv.trans h

theorem SticksToOrder.refreshRows (h : SticksToOrder p) : SticksToOrder p.refreshRows :=
  h.withView (FilteredView.stickiness_setAllRows _ _)

theorem SticksToOrder.mapEntries (h : SticksToOrder p) (f : LogEntry → LogEntry) :
    SticksToOrder (p.mapEntries f) := by
  have h₀ : SticksToOrder { p with store := p.store.replaceAll (p.store.snapshot.map f) } := by
    unfold SticksToOrder
    rw [SortedStore.ascending_replaceAll]
    exact h
  exact h₀.refreshRows

theorem SticksToOrder.append (h : SticksToOrder p) (ls : List LogLine) :
    SticksToOrder (p.append ls) := by
  unfold LogsPage.append
  split
  · exact h
  split
  · exact h
  · obtain ⟨hv, -, -, hasc⟩ := fileLines_frame p ls
    have h₀ : SticksToOrder (p.fileLines ls) := by
      unfold SticksToOrder
      rw [hv, hasc]
      exact h
    exact h₀.refreshRows

/-- Every call keeps the view stuck to the end where new lines appear. -/
theorem SticksToOrder.perform (h : SticksToOrder p) (r : Request) :
    SticksToOrder (p.perform r) := by
  cases r with
  | append ls => exact h.append ls
  | clear =>
      have h₀ : SticksToOrder { p with store := p.store.removeAll, held := [] } := h
      exact h₀.refreshRows
  | markSourceEnded src => exact h.mapEntries _
  | cycleTimestamps => exact (show SticksToOrder { p with timestamps := p.timestamps.next } from h).mapEntries _
  | cycleSources => exact (show SticksToOrder { p with sources := p.sources.next } from h).mapEntries _
  | reverseOrder =>
      -- the order flips and the view follows it to the other end
      let p₀ := followOrder { p with store := p.store.toggleDirection }
      have h₀ : SticksToOrder p₀ := by
        have hm : p.view.surface.maintainSelection = true := congrArg (fun t => t.2.2) h
        simp [p₀, SticksToOrder, followOrder, SortedStore.toggleDirection, Viewport.stickiness,
          FilteredView.mapSurface, Viewport.setTopSticky, Viewport.setBottomSticky, hm]
      have h₁ : SticksToOrder
          { p₀ with view := p₀.view.setTopHeader (orderHeader p₀.store.ascending) } :=
        h₀.withView rfl
      exact h₁.refreshRows
  | toggleContext => exact h.withView (FilteredView.stickiness_toggleShowContext p.view)
  | toggleWrap => exact h.withView (FilteredView.stickiness_handle p.view .toggleWrap)
  | togglePause =>
      show SticksToOrder p.togglePause.1
      unfold LogsPage.togglePause
      split
      · exact (show SticksToOrder { p with paused := false, held := [] } from h).append p.held
      · exact h
  | scrollUpByOne => exact h.withView (Viewport.stickiness_setSelectedIndex _ _)
  | scrollDownByOne => exact h.withView (Viewport.stickiness_setSelectedIndex _ _)
  | setDimensions w ht => exact h.withView (Viewport.stickiness_setDimensions _ _ _)
  | applyFilter text regex =>
      exact h.withView (FilteredView.stickiness_applyFilter p.view text _)
  | handle e => exact h.withView (FilteredView.stickiness_handle p.view e)

theorem sticksToOrder_foldl_perform (o : PageOptions) (rs : List Request) :
    SticksToOrder (rs.foldl perform (new o)) := by
  -- the run from any page that sticks to its order
  suffices h : ∀ p : LogsPage, SticksToOrder p → SticksToOrder (rs.foldl perform p) from
    h _ (sticksToOrder_new o)
  induction rs with
  | nil => exact fun _ h => h
  | cons r rs ih => exact fun p h => ih _ (h.perform r)

end Sticks

/-- The calls that give the view new rows and leave the selection to the rules of new content:
merging lines while running or on resuming, restyling, flagging a source that ended, switching
context mode, and, out of context mode, editing, clearing or starting a query. -/
def Request.Refreshes (p : LogsPage) : Request → Prop
  | .append _ => p.paused = false
  | .togglePause => p.paused = true
  | .cycleTimestamps | .cycleSources | .markSourceEnded _ | .toggleContext => True
  | .handle (.filterInput _) | .handle .clear | .handle .startFilter | .handle .startRegexFilter =>
      p.view.filter.context = false
  | _ => False

section Follows

variable {p : LogsPage} (hq : ¬(p.view.filter.context = true ∧ p.view.filter.value ≠ ""))
include hq

theorem followsSelection_mapEntries (f : LogEntry → LogEntry) :
    FollowsSelection p.view.surface (p.mapEntries f).view.surface :=
  FilteredView.followsSelection_setAllRows p.view _ hq

theorem followsSelection_append (hp : p.paused = false) (ls : List LogLine) :
    FollowsSelection p.view.surface (p.append ls).view.surface := by
  unfold LogsPage.append
  split
  · exact (SameSelection.refl _).followsSelection
  rw [if_neg (by simp [hp])]
  -- filing the lines leaves the view as it was, and the refresh hands it the new rows
  obtain ⟨hv, -, -, -⟩ := fileLines_frame p ls
  show FollowsSelection p.view.surface ((p.fileLines ls).view.setAllRows _).surface
  rw [hv]
  exact FilteredView.followsSelection_setAllRows p.view _ hq

/-- A call that refreshes the rows places the selection by the rules of new content. -/
theorem followsSelection_perform (r : Request) (hr : r.Refreshes p) :
    FollowsSelection p.view.surface (p.perform r).view.surface := by
  cases r with
  | append ls => exact followsSelection_append hq hr ls
  | togglePause =>
      -- resuming merges the held lines as one batch
      show FollowsSelection p.view.surface p.togglePause.1.view.surface
      unfold LogsPage.togglePause
      rw [if_pos (show p.paused = true from hr)]
      exact @followsSelection_append { p with paused := false, held := [] } hq rfl p.held
  | cycleTimestamps => exact followsSelection_mapEntries hq _
  | cycleSources => exact followsSelection_mapEntries hq _
  | markSourceEnded src => exact followsSelection_mapEntries hq _
  | toggleContext => exact FilteredView.followsSelection_toggleShowContext p.view
  | handle e =>
      cases e with
      | filterInput r =>
          exact FilteredView.followsSelection_handle p.view _ (.inr (.inr (.inr ⟨r, rfl⟩))) hr
      | clear => exact FilteredView.followsSelection_handle p.view _ (.inl rfl) hr
      | startFilter => exact FilteredView.followsSelection_handle p.view _ (.inr (.inl rfl)) hr
      | startRegexFilter =>
          exact FilteredView.followsSelection_handle p.view _ (.inr (.inr (.inl rfl))) hr
      | _ => exact absurd hr id
  | _ => exact absurd hr id

end Follows

theorem selection_eq_some {fv : FilteredView LogEntry} {x : LogEntry} (h : fv.selection = some x) :
    fv.surface.selectionEnabled = true ∧ fv.surface.items[fv.surface.selected]? = some x := by
  unfold FilteredView.selection Viewport.selectedItem at h
  split at h
  · exact ⟨by assumption, h⟩
  · exact absurd h (by simp)

theorem selectionIndex_of_enabled {fv : FilteredView LogEntry}
    (he : fv.surface.selectionEnabled = true) : fv.selectionIndex = fv.surface.selected := by
  simp [FilteredView.selectionIndex, Viewport.selectedIndex, he]

theorem SticksToOrder.flags {p : LogsPage} (h : SticksToOrder p) :
    p.view.surface.topSticky = !p.store.ascending ∧ p.view.surface.bottomSticky = p.store.ascending ∧
      p.view.surface.maintainSelection = true := by
  simpa [SticksToOrder, Viewport.stickiness] using h

/-- On a page stuck to its order, a change of the view that places the selection by the rules of
new content keeps a selected line `S` that is still shown: on the last row when the page reads
ascending and `S` was last, on the first row when it reads descending and `S` was first, and on
`S` otherwise. -/
theorem SticksToOrder.keeps_line {p p' : LogsPage} {S : LogEntry} (hst : SticksToOrder p)
    (hf : FollowsSelection p.view.surface p'.view.surface) (hS : p.selected = some S)
    (hin : ∃ e ∈ p'.view.visibleRows, e.seq = S.seq ∧ e.timestamp = S.timestamp ∧ e.text = S.text) :
    (p.store.ascending = true → p.view.selectionIndex + 1 = p.view.visibleRows.size →
        p'.view.selectionIndex + 1 = p'.view.visibleRows.size) ∧
      (p.store.ascending = false → p.view.selectionIndex = 0 → p'.view.selectionIndex = 0) ∧
      (¬(p.store.ascending = true ∧ p.view.selectionIndex + 1 = p.view.visibleRows.size) →
        ¬(p.store.ascending = false ∧ p.view.selectionIndex = 0) →
        ∃ e, p'.selected = some e ∧ e.seq = S.seq ∧ e.timestamp = S.timestamp ∧ e.text = S.text) := by
  obtain ⟨he, hx⟩ := selection_eq_some hS
  obtain ⟨ht, hb, hm⟩ := hst.flags
  have he' : p'.view.surface.selectionEnabled = true := hf.selectionEnabled.trans he
  -- a row equal to `S` is shown afterwards
  obtain ⟨y, hy, hyS⟩ := hin
  have hin' : ∃ y ∈ p'.view.surface.items, (y == S) = true := ⟨y, hy, LogEntry.beq_iff.2 hyS⟩
  have hpos' : 0 < p'.view.surface.items.size := Array.size_pos_of_mem hy
  have hpos : 0 < p.view.surface.items.size :=
    Nat.lt_of_le_of_lt (Nat.zero_le _) (Array.getElem?_eq_some_iff.1 hx).1
  rw [selectionIndex_of_enabled he, selectionIndex_of_enabled he']
  refine ⟨fun hasc hlast => ?_, fun hasc h0 => ?_, fun hnlast hnfirst => ?_⟩
  · -- ascending: the bottom is sticky and the top is not
    exact hf.bottom he (by rw [ht, hasc]; rfl) (hb.trans hasc) hlast hpos'
  · -- descending: the top is sticky
    exact hf.top he (by rw [ht, hasc]; rfl) hpos h0
  · -- elsewhere the old line is looked for among the new rows
    have hnt : ¬(p.view.surface.topSticky = true ∧ p.view.surface.selected = 0) := by
      rintro ⟨htop, h0⟩
      exact hnfirst ⟨by simpa [ht] using htop, h0⟩
    have hnb : ¬(p.view.surface.bottomSticky = true ∧
        p.view.surface.selected + 1 = p.view.surface.items.size) := by
      rintro ⟨hbot, hlast⟩
      exact hnlast ⟨hb.symm.trans hbot, hlast⟩
    obtain ⟨z, hz, hzS⟩ := hf.keeps he hm hnt hnb S hx hin'
    refine ⟨z, ?_, LogEntry.beq_iff.1 hzS⟩
    show Viewport.selectedItem p'.view.surface = some z
    simp [Viewport.selectedItem, he', hz]

/-- On the logs page the selection stays on its line as the rows change, except at the end where
new lines appear. Take a page reached by any calls, with a line `S` selected and not in context
mode with a query, and a call that gives the view new rows. If a row equal to `S` (in number,
instant and text) is shown afterwards, then: reading ascending with `S` on the last row, the last
row is selected; reading descending with `S` on the first row, the first row is selected; and
otherwise the line selected is `S`. -/
theorem selection_follows_log (o : PageOptions) (rs : List Request) (r : Request) (S : LogEntry) :
    let p := rs.foldl perform (new o)
    let p' := p.perform r
    p.selected = some S → ¬(p.view.filter.context = true ∧ p.view.filter.value ≠ "") →
      r.Refreshes p →
      (∃ e ∈ p'.view.visibleRows, e.seq = S.seq ∧ e.timestamp = S.timestamp ∧ e.text = S.text) →
      (p.store.ascending = true → p.view.selectionIndex + 1 = p.view.visibleRows.size →
          p'.view.selectionIndex + 1 = p'.view.visibleRows.size) ∧
        (p.store.ascending = false → p.view.selectionIndex = 0 → p'.view.selectionIndex = 0) ∧
        (¬(p.store.ascending = true ∧ p.view.selectionIndex + 1 = p.view.visibleRows.size) →
          ¬(p.store.ascending = false ∧ p.view.selectionIndex = 0) →
          ∃ e, p'.selected = some e ∧ e.seq = S.seq ∧ e.timestamp = S.timestamp ∧ e.text = S.text) := by
  intro p p' hS hq hr hin
  -- every run sticks to its order, and the call places the selection by the rules
  have hst : SticksToOrder p := sticksToOrder_foldl_perform o rs
  have hf : FollowsSelection p.view.surface p'.view.surface := followsSelection_perform hq r hr
  exact hst.keeps_line hf hS hin

/-- Two lines merged out of order, the earlier of them then selected, and a line earlier still
merged after them: the page reads ascending and the selection is on neither end, so it stays on
its line, which moves to the second row. -/
theorem selection_follows_log_earlier_line :
    let line (s : Nat) (x : String) : LogLine :=
      { source := SourceName.stdin, timestamp := ⟨0, s, 0⟩, text := x }
    let rs := [Request.append [line 2 "a", line 1 "b"], .scrollUpByOne]
    let r := Request.append [line 0 "c"]
    let p := rs.foldl perform (new {})
    let p' := p.perform r
    let S := p.selected.getD default
    p.selected = some S ∧ ¬(p.view.filter.context = true ∧ p.view.filter.value ≠ "") ∧
      r.Refreshes p ∧
      (∃ e ∈ p'.view.visibleRows, e.seq = S.seq ∧ e.timestamp = S.timestamp ∧ e.text = S.text) ∧
      ((p.store.ascending = true → p.view.selectionIndex + 1 = p.view.visibleRows.size →
          p'.view.selectionIndex + 1 = p'.view.visibleRows.size) ∧
        (p.store.ascending = false → p.view.selectionIndex = 0 → p'.view.selectionIndex = 0) ∧
        (¬(p.store.ascending = true ∧ p.view.selectionIndex + 1 = p.view.visibleRows.size) →
          ¬(p.store.ascending = false ∧ p.view.selectionIndex = 0) →
          ∃ e, p'.selected = some e ∧ e.seq = S.seq ∧ e.timestamp = S.timestamp ∧
            e.text = S.text)) := by
  intro line rs r p p' S
  have hsome : p.selected.isSome = true := by decide +kernel
  have hS : p.selected = some S := (Option.getD_of_ne_none (Option.isSome_iff_ne_none.1 hsome) _).symm
  have hq : ¬(p.view.filter.context = true ∧ p.view.filter.value ≠ "") := by decide +kernel
  have hr : r.Refreshes p := show p.paused = false by decide +kernel
  -- a row of the page afterwards is the selected line
  have hany : p'.view.visibleRows.any (fun e => e.seq == S.seq && e.timestamp == S.timestamp &&
      e.text == S.text) = true := by
    decide +kernel
  have hin : ∃ e ∈ p'.view.visibleRows, e.seq = S.seq ∧ e.timestamp = S.timestamp ∧
      e.text = S.text := by
    obtain ⟨e, he, hP⟩ := Array.any_eq_true'.1 hany
    exact ⟨e, he, by simpa [and_assoc] using hP⟩
  exact ⟨hS, hq, hr, hin, selection_follows_log {} rs r S hS hq hr hin⟩

end LogsPage

end LogBrowser
