import LogBrowser.Proofs.LogsPage.Selection
import LogBrowser.Proofs.MatchFocus

/-!
# Reversing the reading order

`reverseOrder` flips the store's direction, sticks the view to the other end, renames the top
header and hands the view the snapshot, which is now the old one reversed. With an empty query
the rows shown come back reversed and the stickiness swapped.

The selection is then placed by the rules of new content (`Viewport.FollowsSelection`), and
those test the new stickiness against the old selected index. A line selected on the row that
becomes the sticky end, the first row of a page reading ascending or the last of one reading
descending (the oldest line either way), keeps its index, which now holds the newest line
(`Ledger.selectionIndex_reverseOrder`). Any other selected line stays selected: it is among the
new rows, and the store's keys, which are distinct, tell it apart from every other line
(`Ledger.selected_reverseOrder`). `reverseOrder_keeps_selection` gathers these for every run.
-/

namespace LogBrowser

open LogBrowser.Time Viewport

namespace LogsPage

/-- The store's records are told apart by their keys. -/
theorem Files.eq_of_key_eq {s : SortedStore (Instant × Nat) LogEntry} {base : Nat}
    {merged : List LogLine} (h : Files s base merged) {a b : LogEntry} (ha : a ∈ s.records)
    (hb : b ∈ s.records) (hk : a.key = b.key) : a = b := by
  let _ := LogEntry.keyOrder
  have hnd : (s.records.map LogEntry.key).Nodup :=
    List.pairwise_map.2 ((pairwise_key_lt_iff.1 h.sorted).imp ne_of_lt)
  exact List.inj_on_of_nodup_map hnd ha hb hk

/-- The view a reversed page hands its rows to: the old view stuck to the other end, under the
new header. -/
def reversingView (p : LogsPage) : FilteredView LogEntry :=
  (p.view.mapSurface fun s => (s.setTopSticky p.store.ascending).setBottomSticky
    !p.store.ascending).setTopHeader (orderHeader !p.store.ascending)

theorem reverseOrder_eq (p : LogsPage) :
    p.reverseOrder =
      { p with
        store := p.store.toggleDirection
        view := p.reversingView.setAllRows p.store.snapshot.reverse.toArray } := by
  rw [← SortedStore.snapshot_toggleDirection]
  simp [reverseOrder, followOrder, refreshRows, reversingView, SortedStore.toggleDirection]

/-- Before it gets the rows, the view keeps the old items and selection, with the stickiness
swapped. -/
theorem surface_reversingView (p : LogsPage) :
    let s := p.reversingView.surface
    s.items = p.view.surface.items ∧ s.selected = p.view.surface.selected ∧
      s.selectionEnabled = p.view.surface.selectionEnabled ∧
      s.maintainSelection = p.view.surface.maintainSelection ∧
      s.topSticky = p.store.ascending ∧ s.bottomSticky = !p.store.ascending := by
  simp [reversingView, FilteredView.setTopHeader, FilteredView.updateHeader,
    FilteredView.mapSurface, Viewport.setHeader, Viewport.setTopSticky, Viewport.setBottomSticky]

theorem filter_reversingView (p : LogsPage) : p.reversingView.filter = p.view.filter := rfl

/-- With an empty query, handing over rows leaves the query alone. -/
theorem filter_setAllRows_of_empty {fv : FilteredView LogEntry} (hv : fv.filter.value = "")
    (rows : Array LogEntry) : (fv.setAllRows rows).filter = fv.filter := by
  have hv₀ : ({ fv with allRows := rows } : FilteredView LogEntry).filter.value = "" := hv
  unfold FilteredView.setAllRows
  dsimp only
  rw [if_neg (by rw [FilteredView.filter_updateVisibleRows_of_empty hv₀]; simp [Filter.hasText, hv])]
  exact FilteredView.filter_updateVisibleRows_of_empty hv₀

section Reverse

variable {p : LogsPage} {base : Nat} {merged : List LogLine}

/-- With an empty query the rows shown are lines of the store. -/
theorem Ledger.mem_records (h : Ledger p base merged) (hv : p.view.filter.value = "")
    {e : LogEntry} (he : e ∈ p.view.surface.items) : e ∈ p.store.records := by
  have hrow : e ∈ p.view.allRows.toList := by
    rw [← h.visibleRows_eq hv]
    exact Array.mem_toList_iff.2 he
  rw [h.rows] at hrow
  unfold SortedStore.snapshot at hrow
  split at hrow
  · exact hrow
  · exact List.mem_reverse.1 hrow

theorem filter_reverseOrder (hv : p.view.filter.value = "") :
    p.reverseOrder.view.filter = p.view.filter := by
  rw [reverseOrder_eq]
  dsimp only
  rw [filter_setAllRows_of_empty (by rw [filter_reversingView]; exact hv), filter_reversingView]

/-- With an empty query, reversing shows the rows in reverse. -/
theorem Ledger.visibleRows_reverseOrder (h : Ledger p base merged) (hv : p.view.filter.value = "") :
    p.reverseOrder.view.visibleRows = p.view.visibleRows.reverse := by
  have hv' : p.reverseOrder.view.filter.value = "" := by rw [filter_reverseOrder hv, hv]
  have h' := h.reverseOrder
  rw [h'.visibleRows_eq hv', h.visibleRows_eq hv]
  apply Array.toList_inj.1
  rw [h'.rows, Array.toList_reverse, h.rows]
  exact SortedStore.snapshot_toggleDirection _

/-- With an empty query, reversing places the selection by the rules of new content, from the
old view stuck to the other end. -/
theorem followsSelection_reverseOrder (hv : p.view.filter.value = "") :
    FollowsSelection p.reversingView.surface p.reverseOrder.view.surface := by
  rw [reverseOrder_eq]
  exact FilteredView.followsSelection_setAllRows _ _ (by rw [filter_reversingView, hv]; simp)

/-- The rows come back as many as they were. -/
theorem Ledger.size_reverseOrder (h : Ledger p base merged) (hv : p.view.filter.value = "") :
    p.reverseOrder.view.surface.items.size = p.view.surface.items.size := by
  show p.reverseOrder.view.visibleRows.size = p.view.visibleRows.size
  rw [h.visibleRows_reverseOrder hv, Array.size_reverse]

/-- A page that sticks to its reading order swaps its top and bottom stickiness on a reversal. -/
theorem SticksToOrder.sticky_reverseOrder (h : SticksToOrder p) :
    p.reverseOrder.view.surface.topSticky = p.view.surface.bottomSticky ∧
      p.reverseOrder.view.surface.bottomSticky = p.view.surface.topSticky := by
  have h' : SticksToOrder p.reverseOrder := h.perform .reverseOrder
  obtain ⟨ht, hb, -⟩ := h.flags
  obtain ⟨ht', hb', -⟩ := h'.flags
  have hasc : p.reverseOrder.store.ascending = !p.store.ascending := rfl
  exact ⟨by rw [ht', hasc, hb, Bool.not_not], by rw [hb', hasc, ht]⟩

/-! Where the selection goes, with a line `S` selected. -/

variable {S : LogEntry} (hv : p.view.filter.value = "") (hS : p.selected = some S)
include hv hS

theorem selectionEnabled_reverseOrder : p.reverseOrder.view.surface.selectionEnabled = true :=
  (followsSelection_reverseOrder hv).selectionEnabled.trans
    ((surface_reversingView p).2.2.1.trans (selection_eq_some hS).1)

/-- A line on the row that becomes the sticky end keeps its index: the first row of a page
reading ascending, the last of one reading descending. -/
theorem Ledger.selectionIndex_reverseOrder (h : Ledger p base merged)
    (hend : p.store.ascending = true ∧ p.view.selectionIndex = 0 ∨
      p.store.ascending = false ∧ p.view.selectionIndex + 1 = p.view.visibleRows.size) :
    p.reverseOrder.view.selectionIndex = p.view.selectionIndex := by
  obtain ⟨hitems, hsel, hen, -, htop, hbot⟩ := surface_reversingView p
  have hf := followsSelection_reverseOrder hv
  obtain ⟨he, hx⟩ := selection_eq_some hS
  have hpos : 0 < p.view.surface.items.size :=
    Nat.lt_of_le_of_lt (Nat.zero_le _) (Array.getElem?_eq_some_iff.1 hx).1
  have hsize := h.size_reverseOrder hv
  rw [selectionIndex_of_enabled he] at hend ⊢
  rw [selectionIndex_of_enabled (selectionEnabled_reverseOrder hv hS)]
  rcases hend with ⟨hasc, h0⟩ | ⟨hasc, hlast⟩
  · -- ascending with the first row selected: the new top is sticky and holds it
    rw [hf.top (hen.trans he) (htop.trans hasc) (hitems ▸ hpos) (hsel.trans h0), h0]
  · -- descending with the last row selected: the new bottom is sticky and holds it
    have hlast' := hf.bottom (hen.trans he) (by rw [htop, hasc]) (by rw [hbot, hasc]; rfl)
      (by rw [hsel, hitems]; exact hlast) (by rw [hsize]; exact hpos)
    rw [hsize] at hlast'
    exact Nat.add_right_cancel (hlast'.trans hlast.symm)

/-- A line elsewhere stays selected: it is among the reversed rows, and the line the view finds
there has its key, so it is the line itself. -/
theorem Ledger.selected_reverseOrder (h : Ledger p base merged) (hst : SticksToOrder p)
    (hnfirst : ¬(p.store.ascending = true ∧ p.view.selectionIndex = 0))
    (hnlast : ¬(p.store.ascending = false ∧ p.view.selectionIndex + 1 = p.view.visibleRows.size)) :
    p.reverseOrder.selected = some S := by
  obtain ⟨hitems, hsel, hen, hmain, htop, hbot⟩ := surface_reversingView p
  have hf := followsSelection_reverseOrder hv
  obtain ⟨he, hx⟩ := selection_eq_some hS
  rw [selectionIndex_of_enabled he] at hnfirst hnlast
  -- neither sticky end of the view before the rows holds the selection
  have hnt : ¬(p.reversingView.surface.topSticky = true ∧ p.reversingView.surface.selected = 0) := by
    rintro ⟨htop₀, h0⟩
    exact hnfirst ⟨htop.symm.trans htop₀, hsel.symm.trans h0⟩
  have hnb : ¬(p.reversingView.surface.bottomSticky = true ∧
      p.reversingView.surface.selected + 1 = p.reversingView.surface.items.size) := by
    rintro ⟨hbot₀, hlast⟩
    refine hnlast ⟨by simpa [hbot] using hbot₀, ?_⟩
    show p.view.surface.selected + 1 = p.view.surface.items.size
    rw [← hsel, ← hitems]
    exact hlast
  have hSmem : S ∈ p.view.surface.items := Array.mem_of_getElem? hx
  have hin : ∃ y ∈ p.reverseOrder.view.surface.items, (y == S) = true := by
    refine ⟨S, ?_, LogEntry.beq_iff.2 ⟨rfl, rfl, rfl⟩⟩
    show S ∈ p.reverseOrder.view.visibleRows
    rw [h.visibleRows_reverseOrder hv, Array.mem_reverse]
    exact hSmem
  obtain ⟨z, hz, hzS⟩ := hf.keeps (hen.trans he) (hmain.trans hst.flags.2.2) hnt hnb S
    (by rw [hsel, hitems]; exact hx) hin
  -- the line found has the key of `S`, and both are lines of the store
  have hv' : p.reverseOrder.view.filter.value = "" := by rw [filter_reverseOrder hv, hv]
  have hzS' := LogEntry.beq_iff.1 hzS
  have hzeq : z = S := h.files.eq_of_key_eq
    (h.reverseOrder.mem_records hv' (Array.mem_of_getElem? hz))
    (h.mem_records hv hSmem)
    (by simp [LogEntry.key, hzS'.1, hzS'.2.1])
  show Viewport.selectedItem p.reverseOrder.view.surface = some S
  rw [Viewport.selectedItem, if_pos (selectionEnabled_reverseOrder hv hS), ← hzeq]
  exact hz

end Reverse

/-- Reversing the reading order of a page reached by any calls, with an empty query and a line
`S` selected: the direction flips, the top and bottom stickiness swap, and the rows shown come
back reversed. If `S` was on the row that becomes the sticky end (the first row of a page
reading ascending, the last row of one reading descending), the selected index stays, and now
holds the other end's line; otherwise `S` stays selected. -/
theorem reverseOrder_keeps_selection (o : PageOptions) (rs : List Request) (S : LogEntry) :
    let p := rs.foldl perform (new o)
    let p' := p.reverseOrder
    p.view.filter.value = "" → p.selected = some S →
      p'.store.ascending = !p.store.ascending ∧
        p'.view.surface.topSticky = p.view.surface.bottomSticky ∧
        p'.view.surface.bottomSticky = p.view.surface.topSticky ∧
        p'.view.visibleRows = p.view.visibleRows.reverse ∧
        ((p.store.ascending = true ∧ p.view.selectionIndex = 0 ∨
            p.store.ascending = false ∧ p.view.selectionIndex + 1 = p.view.visibleRows.size) →
          p'.view.selectionIndex = p.view.selectionIndex) ∧
        (¬(p.store.ascending = true ∧ p.view.selectionIndex = 0) →
          ¬(p.store.ascending = false ∧ p.view.selectionIndex + 1 = p.view.visibleRows.size) →
          p'.selected = some S) := by
  intro p p' hv hS
  -- every run keeps the ledger and sticks to its order, and so does the reversal
  obtain ⟨base, merged, hl, -⟩ := (ledger_new o).foldl_perform rs
  have hst : SticksToOrder p := sticksToOrder_foldl_perform o rs
  obtain ⟨htop, hbot⟩ := hst.sticky_reverseOrder
  exact ⟨rfl, htop, hbot, hl.visibleRows_reverseOrder hv, hl.selectionIndex_reverseOrder hv hS,
    hl.selected_reverseOrder hv hS hst⟩

/-- Three lines in time order, the second of them selected: reversing keeps it selected. -/
theorem reverseOrder_keeps_selection_middle :
    let line (s : Nat) (x : String) : LogLine :=
      { source := SourceName.stdin, timestamp := ⟨0, s, 0⟩, text := x }
    let rs := [Request.append [line 1 "a", line 2 "b", line 3 "c"], .handle (.navigate .top),
      .handle (.navigate .down)]
    let p := rs.foldl perform (new {})
    let p' := p.reverseOrder
    let S := p.selected.getD default
    p.view.filter.value = "" ∧ p.selected = some S ∧
      (p'.store.ascending = !p.store.ascending ∧
        p'.view.surface.topSticky = p.view.surface.bottomSticky ∧
        p'.view.surface.bottomSticky = p.view.surface.topSticky ∧
        p'.view.visibleRows = p.view.visibleRows.reverse ∧
        ((p.store.ascending = true ∧ p.view.selectionIndex = 0 ∨
            p.store.ascending = false ∧ p.view.selectionIndex + 1 = p.view.visibleRows.size) →
          p'.view.selectionIndex = p.view.selectionIndex) ∧
        (¬(p.store.ascending = true ∧ p.view.selectionIndex = 0) →
          ¬(p.store.ascending = false ∧ p.view.selectionIndex + 1 = p.view.visibleRows.size) →
          p'.selected = some S)) := by
  intro line rs p p' S
  have hv : p.view.filter.value = "" := by decide +kernel
  have hsome : p.selected.isSome = true := by decide +kernel
  have hS : p.selected = some S := (Option.getD_of_ne_none (Option.isSome_iff_ne_none.1 hsome) _).symm
  exact ⟨hv, hS, reverseOrder_keeps_selection {} rs S hv hS⟩

/-- Three lines in time order, the oldest of them selected: reversing selects the newest. -/
theorem reverseOrder_moves_oldest_selection :
    let line (s : Nat) (x : String) : LogLine :=
      { source := SourceName.stdin, timestamp := ⟨0, s, 0⟩, text := x }
    let p := [Request.append [line 1 "a", line 2 "b", line 3 "c"], .handle (.navigate .top)].foldl
      perform (new {})
    let p' := p.reverseOrder
    p.view.filter.value = "" ∧ p.selected.map (·.text) = some "a" ∧
      p'.selected.map (·.text) = some "c" := by
  decide +kernel

end LogsPage

end LogBrowser
