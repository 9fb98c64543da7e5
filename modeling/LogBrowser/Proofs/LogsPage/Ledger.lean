import LogBrowser.Logs.Page
import LogBrowser.Proofs.Store
import LogBrowser.Proofs.FilteredFrame
import Mathlib.Data.Prod.Lex

/-!
# The logs page accounts for every line

A logs page numbers the lines it files by arrival and keeps them in a sorted store under the key
(instant, number); lines that arrive while it is paused wait in a list and are numbered when the
page resumes. This module follows the lines a caller hands over since the last clear: the page
keeps all of them, the filed ones in the store and the rest waiting, and never files a line twice
or loses one.

The store's side is `LogsPage.Files`: the store holds the filed lines once each, the `i`-th of
them numbered `base + i`, in strictly increasing key order. Filing a line gives it the next
number, which no entry holds yet, so insertion adds it without replacing anything
(`SortedStore.insertSorted_perm_of_fresh`); a restyle files every entry again under its own key.
The page's side is `LogsPage.Ledger`, which adds that the view holds the store's snapshot and is
in sync with its filter. Every call keeps the ledger (`Ledger.perform`), so after any run the
store's lines are the filed lines sorted stably by instant, that is by instant and then by
arrival (`arrivals_sorted_by_time`).

Keys and instants are compared by their own `compare`; read as lexicographic tuples they form
linear orders, which carry the order lemmas; `LogEntry.keyOrder` lets the store's lemmas about
sorted insertion speak of the page's keys.
-/

namespace LogBrowser

open LogBrowser.Time

namespace Time.Instant

/-- An instant as a tuple compared lexicographically: day, second, nanosecond. -/
def rank (t : Instant) : Int ×ₗ (Nat ×ₗ Nat) := toLex (t.day, toLex (t.second, t.nano))

theorem rank_injective : Function.Injective rank := by
  rintro ⟨d, s, n⟩ ⟨d', s', n'⟩ h
  simp only [rank, toLex_inj, Prod.mk.injEq] at h
  obtain ⟨rfl, rfl, rfl⟩ := h
  rfl

theorem isLE_compare_iff (a b : Instant) : (compare a b).isLE ↔ a.rank ≤ b.rank := by
  show (compare a.rank b.rank).isLE ↔ a.rank ≤ b.rank
  exact Ordering.isLE_iff_ne_gt.trans compare_le_iff_le

theorem compare_lt_iff (a b : Instant) : compare a b = .lt ↔ a.rank < b.rank := by
  show compare a.rank b.rank = .lt ↔ a.rank < b.rank
  exact compare_lt_iff_lt

theorem isLE_compare_trans {a b c : Instant} (hab : (compare a b).isLE) (hbc : (compare b c).isLE) :
    (compare a c).isLE :=
  (isLE_compare_iff a c).2 (le_trans ((isLE_compare_iff a b).1 hab) ((isLE_compare_iff b c).1 hbc))

theorem isLE_compare_total (a b : Instant) : (compare a b).isLE || (compare b a).isLE := by
  rcases le_total a.rank b.rank with h | h
  · simp [(isLE_compare_iff a b).2 h]
  · simp [(isLE_compare_iff b a).2 h]

end Time.Instant

namespace LogEntry

/-- A key as a tuple compared lexicographically: the instant's rank, then the arrival number. -/
def keyRank (k : Instant × Nat) : (Int ×ₗ (Nat ×ₗ Nat)) ×ₗ Nat := toLex (k.1.rank, k.2)

theorem keyRank_injective : Function.Injective keyRank := by
  rintro ⟨t, n⟩ ⟨t', n'⟩ h
  simp only [keyRank, toLex_inj, Prod.mk.injEq] at h
  rw [Instant.rank_injective h.1, h.2]

/-- Keys in order, compared as `compare` compares them. -/
abbrev keyOrder : LinearOrder (Instant × Nat) :=
  LinearOrder.liftWithOrd' keyRank keyRank_injective fun _ _ => rfl

/-- A key comes first when its instant does, or at the same instant when it arrived first. -/
theorem compare_key_lt_iff {a b : Instant × Nat} :
    compare a b = .lt ↔ compare a.1 b.1 = .lt ∨ (a.1 = b.1 ∧ a.2 < b.2) := by
  show compare (keyRank a) (keyRank b) = .lt ↔ compare a.1.rank b.1.rank = .lt ∨ _
  rw [compare_lt_iff_lt, keyRank, keyRank, Prod.Lex.toLex_lt_toLex, compare_lt_iff_lt,
    Instant.rank_injective.eq_iff]

/-- The line an entry was filed from. -/
def line (e : LogEntry) : LogLine := { source := e.source, timestamp := e.timestamp, text := e.text }

/-- An entry's line with its arrival number. -/
def tag (e : LogEntry) : LogLine × Nat := (e.line, e.seq)

@[simp] theorem tag_restyle (e : LogEntry) (ts : TimestampFormat) (src : SourceFormat) :
    (e.restyle ts src).tag = e.tag := rfl

@[simp] theorem key_restyle (e : LogEntry) (ts : TimestampFormat) (src : SourceFormat) :
    (e.restyle ts src).key = e.key := rfl

theorem key_eq_of_tag_eq {e e' : LogEntry} (h : e.tag = e'.tag) : e.key = e'.key := by
  simp only [tag, line, Prod.mk.injEq, LogLine.mk.injEq] at h
  simp [key, h.1.2.1, h.2]

end LogEntry

namespace LogsPage

/-- Lines in time order: `a` comes no later than `b`. -/
def notAfter (a b : LogLine) : Bool := (compare a.timestamp b.timestamp).isLE

theorem notAfter_trans (a b c : LogLine) (hab : notAfter a b) (hbc : notAfter b c) :
    notAfter a c :=
  Instant.isLE_compare_trans hab hbc

theorem notAfter_total (a b : LogLine) : notAfter a b || notAfter b a :=
  Instant.isLE_compare_total a.timestamp b.timestamp

/-- The store holds the lines `merged`, the `i`-th of them as the one entry numbered `base + i`,
in strictly increasing key order. -/
structure Files (s : SortedStore (Instant × Nat) LogEntry) (base : Nat) (merged : List LogLine) :
    Prop where
  key : s.key = LogEntry.key
  sorted : s.records.Pairwise fun a b => compare a.key b.key = .lt
  tags : (s.records.map LogEntry.tag).Perm (merged.zipIdx base)

section Files

variable {s : SortedStore (Instant × Nat) LogEntry} {base : Nat} {merged : List LogLine}

/-- Sorted by the keys' `compare` is sorted by the key order. -/
theorem pairwise_key_lt_iff {l : List LogEntry} :
    (l.Pairwise fun a b => compare a.key b.key = .lt) ↔
      l.Pairwise fun a b => LogEntry.keyOrder.lt a.key b.key := by
  let _ := LogEntry.keyOrder
  exact ⟨fun h => h.imp compare_lt_iff_lt.1, fun h => h.imp compare_lt_iff_lt.2⟩

theorem files_removeAll (hk : s.key = LogEntry.key) (n : Nat) : Files s.removeAll n [] :=
  ⟨hk, by simp, by simp⟩

theorem Files.toggleDirection (h : Files s base merged) : Files s.toggleDirection base merged :=
  ⟨h.key, h.sorted, h.tags⟩

/-- Every entry is numbered in `[base, base + merged.length)` and records the line at its
place. -/
theorem Files.getElem?_seq {e : LogEntry} (h : Files s base merged) (he : e ∈ s.records) :
    base ≤ e.seq ∧ merged[e.seq - base]? = some e.line := by
  have hmem : e.tag ∈ merged.zipIdx base := h.tags.subset (List.mem_map_of_mem he)
  exact List.mk_mem_zipIdx_iff_le_and_getElem?_sub.1 hmem

theorem Files.seq_lt {e : LogEntry} (h : Files s base merged) (he : e ∈ s.records) :
    e.seq < base + merged.length := by
  obtain ⟨hle, hline⟩ := h.getElem?_seq he
  have hlt : e.seq - base < merged.length := (List.getElem?_eq_some_iff.1 hline).1
  omega

/-- Filing a line under the next number adds it and replaces nothing. -/
theorem Files.insert (h : Files s base merged) {e : LogEntry} {l : LogLine}
    (he : e.tag = (l, base + merged.length)) : Files (s.insert e).1 base (merged ++ [l]) := by
  let _ := LogEntry.keyOrder
  have hseq : e.seq = base + merged.length := congrArg Prod.snd he
  -- every entry held has a smaller number, so a different key
  have hfresh : ∀ w ∈ s.records, s.key w ≠ s.key e := by
    intro w hw hkey
    have hlt := h.seq_lt hw
    rw [h.key] at hkey
    have : w.seq = e.seq := congrArg Prod.snd hkey
    omega
  have hperm : (s.insert e).1.records.Perm (e :: s.records) :=
    SortedStore.insertSorted_perm_of_fresh hfresh
  have hsorted : s.records.Pairwise fun a b => s.key a < s.key b := by
    rw [h.key]
    exact pairwise_key_lt_iff.1 h.sorted
  refine ⟨h.key, ?_, ?_⟩
  · rw [pairwise_key_lt_iff, ← h.key]
    exact SortedStore.insertSorted_sorted hsorted
  · rw [List.zipIdx_append]
    calc ((s.insert e).1.records.map LogEntry.tag).Perm ((e :: s.records).map LogEntry.tag) :=
          hperm.map _
      _ = (l, base + merged.length) :: s.records.map LogEntry.tag := by simp [he]
      List.Perm _ ((l, base + merged.length) :: merged.zipIdx base) := h.tags.cons _
      List.Perm _ (merged.zipIdx base ++ [l].zipIdx (base + merged.length)) := by
          simpa using (List.perm_append_singleton _ _).symm

/-- Filing every entry again, changed in nothing that its tag records, keeps what the store
files. -/
theorem Files.replaceAll (h : Files s base merged) (f : LogEntry → LogEntry)
    (hf : ∀ e, (f e).tag = e.tag) : Files (s.replaceAll (s.snapshot.map f)) base merged := by
  let _ := LogEntry.keyOrder
  have hfkey : ∀ e, (f e).key = e.key := fun e => LogEntry.key_eq_of_tag_eq (hf e)
  have hrecords : s.records.Pairwise fun a b => a.key ≠ b.key :=
    (pairwise_key_lt_iff.1 h.sorted).imp ne_of_lt
  -- the snapshot lists the records once each, in one direction or the other
  have hsnap : s.snapshot.Perm s.records := by
    unfold SortedStore.snapshot
    split
    · exact List.Perm.refl _
    · exact List.reverse_perm _
  have hdistinct : (s.snapshot.map f).Pairwise fun a b => s.removeAll.key a ≠ s.removeAll.key b := by
    show (s.snapshot.map f).Pairwise fun a b => s.key a ≠ s.key b
    rw [h.key, List.pairwise_map]
    have hs : s.snapshot.Pairwise fun a b => a.key ≠ b.key := by
      unfold SortedStore.snapshot
      split
      · exact hrecords
      · exact List.pairwise_reverse.2 (hrecords.imp Ne.symm)
    exact hs.imp fun hne => by rwa [hfkey, hfkey]
  obtain ⟨hperm, hsorted, hkey⟩ :=
    @SortedStore.extend_perm_of_fresh _ _ _ s.removeAll _ (by simp) hdistinct (by simp)
  refine ⟨hkey.trans h.key, ?_, ?_⟩
  · rw [pairwise_key_lt_iff, ← h.key]
    exact hsorted
  · have htags : (s.snapshot.map f).map LogEntry.tag = s.snapshot.map LogEntry.tag := by
      rw [List.map_map]
      exact List.map_congr_left fun e _ => hf e
    calc ((s.replaceAll (s.snapshot.map f)).records.map LogEntry.tag).Perm
          ((s.snapshot.map f).map LogEntry.tag) := by
          simpa [SortedStore.replaceAll] using hperm.map LogEntry.tag
      _ = s.snapshot.map LogEntry.tag := htags
      List.Perm _ (s.records.map LogEntry.tag) := hsnap.map _
      List.Perm _ (merged.zipIdx base) := h.tags

theorem eq_of_mem_zipIdx_of_snd_eq {α : Type} {l : List α} {n : Nat} {a b : α × Nat}
    (ha : a ∈ l.zipIdx n) (hb : b ∈ l.zipIdx n) (h : a.2 = b.2) : a = b := by
  have ha' := (List.mem_zipIdx_iff_le_and_getElem?_sub.1 ha).2
  have hb' := (List.mem_zipIdx_iff_le_and_getElem?_sub.1 hb).2
  rw [h, hb'] at ha'
  exact Prod.ext (Option.some.inj ha').symm h

/-- Sorting a list numbered from `n`, ties broken by number, and dropping the numbers sorts the
list stably. -/
theorem map_fst_mergeSort_zipIdx {α : Type} (le : α → α → Bool) (l : List α) (n : Nat) :
    ((l.zipIdx n).mergeSort (List.zipIdxLE le)).map Prod.fst = l.mergeSort le := by
  have hshift : l.zipIdx n = l.zipIdx.map (Prod.map id (· + n)) := by
    rw [List.map_snd_add_zipIdx_eq_zipIdx, Nat.add_zero]
  -- moving every number by `n` changes no comparison
  have hmap : (l.zipIdx.mergeSort (List.zipIdxLE le)).map (Prod.map id (· + n)) =
      (l.zipIdx.map (Prod.map id (· + n))).mergeSort (List.zipIdxLE le) :=
    List.map_mergeSort fun a _ b _ => by simp [List.zipIdxLE]
  rw [hshift, ← hmap, List.map_map]
  exact List.mergeSort_zipIdx

theorem snd_eq_of_zipIdxLE {α : Type} {le : α → α → Bool} {a b : α × Nat}
    (hab : List.zipIdxLE le a b = true) (hba : List.zipIdxLE le b a = true) : a.2 = b.2 := by
  unfold List.zipIdxLE at hab hba
  cases h₁ : le a.1 b.1 <;> cases h₂ : le b.1 a.1 <;> simp only [h₁, h₂] at hab hba <;>
    simp at hab hba
  omega

/-- An entry whose key comes first comes first among the lines sorted by time, ties broken by
number. -/
theorem zipIdxLE_tag_of_key_lt {a b : LogEntry} (h : compare a.key b.key = .lt) :
    List.zipIdxLE notAfter a.tag b.tag = true := by
  rcases LogEntry.compare_key_lt_iff.1 h with hlt | ⟨heq, hseq⟩
  · -- an earlier instant
    have hrank := (Instant.compare_lt_iff _ _).1 hlt
    have hab : notAfter a.line b.line = true :=
      (Instant.isLE_compare_iff _ _).2 (le_of_lt hrank)
    have hba : notAfter b.line a.line = false := by
      rw [← Bool.not_eq_true]
      exact fun hle => absurd ((Instant.isLE_compare_iff _ _).1 hle) (not_le_of_gt hrank)
    simp [List.zipIdxLE, LogEntry.tag, hab, hba]
  · -- the same instant, and an earlier number
    have hle : notAfter a.line b.line = true := by
      simp only [LogEntry.key] at heq
      exact (Instant.isLE_compare_iff _ _).2 (by simp [LogEntry.line, heq])
    have hle' : notAfter b.line a.line = true := by
      simp only [LogEntry.key] at heq
      exact (Instant.isLE_compare_iff _ _).2 (by simp [LogEntry.line, heq])
    simp only [LogEntry.key] at hseq
    simp [List.zipIdxLE, LogEntry.tag, hle, hle', le_of_lt hseq]

/-- The filed lines, read in key order, are the lines sorted stably by time: by instant, and at
one instant in the order they were filed. -/
theorem Files.lines_eq_mergeSort (h : Files s base merged) :
    s.records.map LogEntry.line = merged.mergeSort notAfter := by
  have htrans := List.zipIdxLE_trans notAfter_trans
  have htotal := List.zipIdxLE_total notAfter_total
  have hT : (s.records.map LogEntry.tag).Pairwise fun a b => List.zipIdxLE notAfter a b :=
    List.pairwise_map.2 (h.sorted.imp zipIdxLE_tag_of_key_lt)
  have hM := List.pairwise_mergeSort htrans htotal (merged.zipIdx base)
  have hsorted : ((merged.zipIdx base).mergeSort (List.zipIdxLE notAfter)).Perm
      (merged.zipIdx base) :=
    List.mergeSort_perm _ _
  -- both sides list the numbered lines, sorted by time and then by number
  have heq : s.records.map LogEntry.tag = (merged.zipIdx base).mergeSort (List.zipIdxLE notAfter) := by
    refine (h.tags.trans hsorted.symm).eq_of_pairwise ?_ hT hM
    intro a b ha hb hab hba
    exact eq_of_mem_zipIdx_of_snd_eq (h.tags.subset ha) (hsorted.subset hb)
      (snd_eq_of_zipIdxLE hab hba)
  calc s.records.map LogEntry.line = (s.records.map LogEntry.tag).map Prod.fst := by
        simp only [List.map_map]
        rfl
    _ = ((merged.zipIdx base).mergeSort (List.zipIdxLE notAfter)).map Prod.fst := by rw [heq]
    _ = merged.mergeSort notAfter := map_fst_mergeSort_zipIdx notAfter merged base

theorem Files.size_eq (h : Files s base merged) : s.size = merged.length := by
  simpa [SortedStore.size] using h.tags.length_eq

/-- The snapshot reads the sorted lines in the store's direction. -/
theorem Files.snapshot_lines (h : Files s base merged) :
    s.snapshot.map LogEntry.line =
      if s.ascending then merged.mergeSort notAfter else (merged.mergeSort notAfter).reverse := by
  unfold SortedStore.snapshot
  split
  · exact h.lines_eq_mergeSort
  · rw [List.map_reverse, h.lines_eq_mergeSort]

end Files

/-- What a caller can do to a logs page. -/
inductive Request where
  | append (lines : List LogLine)
  | clear
  | markSourceEnded (src : SourceName)
  | cycleTimestamps
  | cycleSources
  | reverseOrder
  | toggleContext
  | toggleWrap
  | togglePause
  | scrollUpByOne
  | scrollDownByOne
  | setDimensions (width height : Nat)
  | applyFilter (text : String) (regex : Bool)
  | handle (e : ViewEvent)

/-- Answers a call; what a call returns besides the page is dropped. -/
def perform (p : LogsPage) : Request → LogsPage
  | .append lines => p.append lines
  | .clear => p.clear
  | .markSourceEnded src => p.markSourceEnded src
  | .cycleTimestamps => p.cycleTimestamps
  | .cycleSources => p.cycleSources
  | .reverseOrder => p.reverseOrder
  | .toggleContext => p.toggleContext
  | .toggleWrap => p.toggleWrap.1
  | .togglePause => p.togglePause.1
  | .scrollUpByOne => p.scrollUpByOne
  | .scrollDownByOne => p.scrollDownByOne
  | .setDimensions width height => p.setDimensions width height
  | .applyFilter text regex => p.applyFilter text regex
  | .handle e => (p.handle e).1

/-- The lines handed to `append` since the last clear, after one more call. -/
def Request.passed (lines : List LogLine) : Request → List LogLine
  | .append more => lines ++ more
  | .clear => []
  | _ => lines

/-- A page accounts for the lines `merged`, filed under the numbers from `base` on: its store
files them, the next number follows them, the view holds the store's snapshot and is in sync with
its filter, and lines wait only while the page is paused. -/
structure Ledger (p : LogsPage) (base : Nat) (merged : List LogLine) : Prop where
  files : Files p.store base merged
  nextSeq : p.nextSeq = base + merged.length
  rows : p.view.allRows.toList = p.store.snapshot
  running : p.paused = false → p.held = []
  inSync : p.view.InSync

section Ledger

variable {p : LogsPage} {base : Nat} {merged : List LogLine}

theorem inSync_followOrder (h : p.view.InSync) : (followOrder p).view.InSync :=
  (h.perform (.setTopSticky !p.store.ascending)).perform (.setBottomSticky p.store.ascending)

theorem ledger_new (o : PageOptions) : Ledger (new o) 0 [] := by
  refine ⟨⟨rfl, List.Pairwise.nil, List.Perm.nil⟩, rfl, ?_, fun _ => rfl, ?_⟩
  · simp [new, followOrder, FilteredView.new, FilteredView.mapSurface, FilteredView.setFocus,
      FilteredView.updateHeader, SortedStore.snapshot, SortedStore.empty]
  · -- a new view is in sync, and so it stays under the flags the page sets
    unfold new
    dsimp only
    apply inSync_followOrder
    exact ((FilteredView.inSync_new _).perform (.setMaintainSelection true)).perform
      (.setFocus true true)

/-- Handing the view the snapshot completes the ledger of a store that files the lines. -/
theorem ledger_refreshRows (hf : Files p.store base merged) (hn : p.nextSeq = base + merged.length)
    (hr : p.paused = false → p.held = []) (hv : p.view.InSync) :
    Ledger p.refreshRows base merged :=
  ⟨hf, hn, by simp [refreshRows, FilteredView.allRows_setAllRows], hr, hv.setAllRows _⟩

/-- A change of the view alone that keeps its rows and its sync keeps the ledger. -/
theorem Ledger.withView (h : Ledger p base merged) {v : FilteredView LogEntry}
    (hrows : v.allRows = p.view.allRows) (hv : v.InSync) :
    Ledger { p with view := v } base merged :=
  ⟨h.files, h.nextSeq, by rw [← h.rows, hrows], h.running, hv⟩

/-- Filing lines changes only the store, in its entries, and the next number. -/
theorem fileLines_frame (p : LogsPage) (ls : List LogLine) :
    (p.fileLines ls).view = p.view ∧ (p.fileLines ls).held = p.held ∧
      (p.fileLines ls).paused = p.paused ∧ (p.fileLines ls).store.ascending = p.store.ascending := by
  induction ls generalizing p with
  | nil => exact ⟨rfl, rfl, rfl, rfl⟩
  | cons l ls ih => exact ih _

/-- Filing lines numbers them on from the next number, one after another. -/
theorem files_fileLines (hf : Files p.store base merged) (hn : p.nextSeq = base + merged.length)
    (ls : List LogLine) :
    Files (p.fileLines ls).store base (merged ++ ls) ∧
      (p.fileLines ls).nextSeq = base + (merged ++ ls).length := by
  induction ls generalizing p merged with
  | nil => exact ⟨by simpa [fileLines] using hf, by simpa [fileLines] using hn⟩
  | cons l ls ih =>
      -- the first line takes the next number, and the rest are filed after it
      let e : LogEntry :=
        ({ seq := p.nextSeq, timestamp := l.timestamp, text := l.text, source := l.source } :
          LogEntry).restyle p.timestamps p.sources
      have he : e.tag = (l, base + merged.length) := by
        rw [← hn]
        rfl
      have hn₁ : p.nextSeq + 1 = base + (merged ++ [l]).length := by
        rw [List.length_append, hn]
        rfl
      have h₁ := @ih { p with store := (p.store.insert e).1, nextSeq := p.nextSeq + 1 }
        (merged ++ [l]) (hf.insert he) hn₁
      rw [List.append_assoc, List.singleton_append] at h₁
      exact h₁

theorem Ledger.append_of_running (h : Ledger p base merged) (hp : p.paused = false)
    (ls : List LogLine) : Ledger (p.append ls) base (merged ++ ls) ∧ (p.append ls).held = [] := by
  have hheld := h.running hp
  unfold append
  split
  · rename_i hempty
    rw [List.isEmpty_iff.1 hempty, List.append_nil]
    exact ⟨h, hheld⟩
  · rw [if_neg (by simp [hp])]
    obtain ⟨hf, hn⟩ := files_fileLines h.files h.nextSeq ls
    obtain ⟨hv, hh, -, -⟩ := fileLines_frame p ls
    refine ⟨ledger_refreshRows hf hn (fun _ => hh.trans hheld) (hv ▸ h.inSync), ?_⟩
    exact hh.trans hheld

theorem Ledger.append_of_paused (h : Ledger p base merged) (hp : p.paused = true)
    (ls : List LogLine) : Ledger (p.append ls) base merged ∧ (p.append ls).held = p.held ++ ls := by
  unfold append
  split
  · rename_i hempty
    rw [List.isEmpty_iff.1 hempty, List.append_nil]
    exact ⟨h, rfl⟩
  · exact ⟨⟨h.files, h.nextSeq, h.rows, fun hr => by simp [hp] at hr, h.inSync⟩, rfl⟩

/-- Clearing drops every line; the numbers go on from where they were. -/
theorem Ledger.clear (h : Ledger p base merged) : Ledger p.clear p.nextSeq [] ∧ p.clear.held = [] :=
  ⟨ledger_refreshRows (files_removeAll h.files.key _) rfl (fun _ => rfl) h.inSync, rfl⟩

/-- Rewriting every entry in a way that keeps its tag keeps the ledger. -/
theorem Ledger.mapEntries (h : Ledger p base merged) (f : LogEntry → LogEntry)
    (hf : ∀ e, (f e).tag = e.tag) : Ledger (p.mapEntries f) base merged :=
  ledger_refreshRows (h.files.replaceAll f hf) h.nextSeq h.running h.inSync

theorem Ledger.markSourceEnded (h : Ledger p base merged) (src : SourceName) :
    Ledger (p.markSourceEnded src) base merged := by
  refine h.mapEntries _ fun e => ?_
  split <;> rfl

theorem Ledger.restyleAll (h : Ledger p base merged) : Ledger p.restyleAll base merged :=
  h.mapEntries _ fun e => LogEntry.tag_restyle e _ _

theorem Ledger.reverseOrder (h : Ledger p base merged) : Ledger p.reverseOrder base merged := by
  refine ledger_refreshRows h.files.toggleDirection h.nextSeq h.running ?_
  exact (@inSync_followOrder { p with store := p.store.toggleDirection } h.inSync).setTopHeader _

theorem Ledger.togglePause (h : Ledger p base merged) :
    (p.paused = true → Ledger p.togglePause.1 base (merged ++ p.held) ∧ p.togglePause.1.held = []) ∧
      (p.paused = false → Ledger p.togglePause.1 base merged ∧ p.togglePause.1.held = p.held) := by
  constructor
  · intro hp
    -- resuming files the waiting lines as one batch
    have h₀ : Ledger { p with paused := false, held := [] } base merged :=
      ⟨h.files, h.nextSeq, h.rows, fun _ => rfl, h.inSync⟩
    simp only [LogsPage.togglePause, hp, if_true]
    exact h₀.append_of_running rfl p.held
  · intro hp
    rw [LogsPage.togglePause, if_neg (by simp [hp])]
    exact ⟨⟨h.files, h.nextSeq, h.rows, fun hr => by simp at hr, h.inSync⟩, rfl⟩

/-- A call that the view answers alone keeps the ledger, unless it replaces the view's rows. -/
theorem Ledger.performView (h : Ledger p base merged) (r : FilteredView.Request LogEntry)
    (hr : ∀ rows, r ≠ .setAllRows rows) :
    Ledger { p with view := p.view.perform r } base merged :=
  h.withView (FilteredView.allRows_perform _ r hr) (h.inSync.perform r)

/-- One call keeps a ledger: the lines passed to the page are those it files and those it holds. -/
theorem Ledger.perform (h : Ledger p base merged) (r : Request) :
    ∃ base' merged', Ledger (p.perform r) base' merged' ∧
      r.passed (merged ++ p.held) = merged' ++ (p.perform r).held := by
  cases r with
  | append ls =>
      cases hp : p.paused
      · obtain ⟨h', hheld⟩ := h.append_of_running hp ls
        refine ⟨base, merged ++ ls, h', ?_⟩
        simp [Request.passed, LogsPage.perform, hheld, h.running hp]
      · obtain ⟨h', hheld⟩ := h.append_of_paused hp ls
        exact ⟨base, merged, h', by simp [Request.passed, LogsPage.perform, hheld]⟩
  | clear => exact ⟨p.nextSeq, [], h.clear.1, by simp [Request.passed, LogsPage.perform, h.clear.2]⟩
  | markSourceEnded src =>
      exact ⟨base, merged, h.markSourceEnded src, rfl⟩
  | cycleTimestamps =>
      -- the format is not part of the ledger
      have h₀ : Ledger { p with timestamps := p.timestamps.next } base merged :=
        ⟨h.files, h.nextSeq, h.rows, h.running, h.inSync⟩
      exact ⟨base, merged, h₀.restyleAll, rfl⟩
  | cycleSources =>
      have h₀ : Ledger { p with sources := p.sources.next } base merged :=
        ⟨h.files, h.nextSeq, h.rows, h.running, h.inSync⟩
      exact ⟨base, merged, h₀.restyleAll, rfl⟩
  | reverseOrder => exact ⟨base, merged, h.reverseOrder, rfl⟩
  | togglePause =>
      cases hp : p.paused
      · obtain ⟨h', hheld⟩ := h.togglePause.2 hp
        exact ⟨base, merged, h', by rw [LogsPage.perform, hheld]; rfl⟩
      · obtain ⟨h', hheld⟩ := h.togglePause.1 hp
        exact ⟨base, merged ++ p.held, h', by simp [Request.passed, LogsPage.perform, hheld]⟩
  | toggleContext => exact ⟨base, merged, h.performView .toggleShowContext (by simp), rfl⟩
  | toggleWrap => exact ⟨base, merged, h.performView (.handle .toggleWrap) (by simp), rfl⟩
  | scrollUpByOne =>
      exact ⟨base, merged, h.performView (.setSelectionIndex _) (by simp), rfl⟩
  | scrollDownByOne =>
      exact ⟨base, merged, h.performView (.setSelectionIndex _) (by simp), rfl⟩
  | setDimensions w ht => exact ⟨base, merged, h.performView (.setDimensions w ht) (by simp), rfl⟩
  | applyFilter text regex =>
      exact ⟨base, merged, h.performView (.applyFilter text _) (by simp), rfl⟩
  | handle e => exact ⟨base, merged, h.performView (.handle e) (by simp), rfl⟩

theorem Ledger.foldl_perform (h : Ledger p base merged) (rs : List Request) :
    ∃ base' merged', Ledger (rs.foldl LogsPage.perform p) base' merged' ∧
      rs.foldl Request.passed (merged ++ p.held) = merged' ++ (rs.foldl LogsPage.perform p).held := by
  induction rs generalizing p base merged with
  | nil => exact ⟨base, merged, h, rfl⟩
  | cons r rs ih =>
      obtain ⟨base₁, merged₁, h₁, hpassed⟩ := h.perform r
      obtain ⟨base', merged', h', hpassed'⟩ := ih h₁
      refine ⟨base', merged', h', ?_⟩
      rw [List.foldl_cons, List.foldl_cons, hpassed, hpassed']

theorem Ledger.visibleRows_eq (h : Ledger p base merged) (hv : p.view.filter.value = "") :
    p.view.visibleRows = p.view.allRows := by
  rw [h.inSync.rows, if_pos (Or.inl hv)]

end Ledger

/-- A page never loses, repeats or misorders a line. After any run of calls on a new page, take
the lines handed to the page since it was last cleared: the store and the held lines count each
of them once; the held lines are the latest of them, and lines are held only while the page is
paused; the view's rows are the store's snapshot, and all of them are shown while the query is
empty; and the snapshot lists the lines not held sorted by instant, lines of one instant in the
order they came, reversed when the page reads descending. -/
theorem arrivals_sorted_by_time (o : PageOptions) (rs : List Request) :
    let p := rs.foldl perform (new o)
    let passed := rs.foldl Request.passed []
    let merged := passed.take (passed.length - p.held.length)
    p.store.size + p.held.length = passed.length ∧
      passed = merged ++ p.held ∧
      (p.paused = false → p.held = []) ∧
      p.view.allRows.toList = p.store.snapshot ∧
      (p.view.filter.value = "" → p.view.visibleRows = p.view.allRows) ∧
      p.store.snapshot.map LogEntry.line =
        if p.store.ascending then merged.mergeSort notAfter
        else (merged.mergeSort notAfter).reverse := by
  intro p passed merged
  obtain ⟨base, filed, h, hpassed⟩ := (ledger_new o).foldl_perform rs
  -- the lines passed are those filed followed by those held
  have hpassed : passed = filed ++ p.held := hpassed
  have hmerged : merged = filed := by simp [merged, hpassed]
  rw [hmerged]
  refine ⟨?_, hpassed, h.running, h.rows, h.visibleRows_eq, h.files.snapshot_lines⟩
  rw [h.files.size_eq, hpassed, List.length_append]

end LogsPage

end LogBrowser
