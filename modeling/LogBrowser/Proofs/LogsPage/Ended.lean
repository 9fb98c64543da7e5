import LogBrowser.Proofs.LogsPage.Ledger

/-!
# Ended sources stay marked

Flagging a source as ended marks every entry of that source the store holds, and renders each
anew, so that its shown source carries the ` [ended]` suffix. This module follows such a mark
through every later call. Two facts carry it:

* every entry is rendered in the formats in force (`LogsPage.Styled`): filing renders the new
  entry, and a change of format, or of the ended flag, renders all of them again;
* every entry of the source numbered below the page's count at the time of the mark stays
  flagged (`LogsPage.EndedBelow`): no call clears the flag, and lines filed later take higher
  numbers.

Together they give that such an entry shows its source with the suffix, or shows no source at
all (`EndedBelow.shownSource`). Lines the page holds back while paused are not in the store when
the mark is made; they are filed, unflagged and numbered above the count, when the page resumes.
-/

namespace LogBrowser

namespace LogEntry

@[simp] theorem restyle_restyle (e : LogEntry) (ts : TimestampFormat) (src : SourceFormat) :
    (e.restyle ts src).restyle ts src = e.restyle ts src := rfl

@[simp] theorem seq_restyle (e : LogEntry) (ts : TimestampFormat) (src : SourceFormat) :
    (e.restyle ts src).seq = e.seq := rfl

@[simp] theorem source_restyle (e : LogEntry) (ts : TimestampFormat) (src : SourceFormat) :
    (e.restyle ts src).source = e.source := rfl

@[simp] theorem ended_restyle (e : LogEntry) (ts : TimestampFormat) (src : SourceFormat) :
    (e.restyle ts src).ended = e.ended := rfl

end LogEntry

namespace SourceFormat

/-- An ended source is shown with the suffix, or not shown at all. -/
theorem render_ended (f : SourceFormat) (name : SourceName) :
    f.render name true = "" ∨ ∃ label, f.render name true = label ++ " [ended]" := by
  -- whatever the label, the suffix follows it exactly when it is not empty
  have hlabel : ∀ label : String,
      (if (true && !label.isEmpty) = true then label ++ " [ended]" else label) = "" ∨
        ∃ l, (if (true && !label.isEmpty) = true then label ++ " [ended]" else label) =
          l ++ " [ended]" := by
    intro label
    split
    · exact Or.inr ⟨label, rfl⟩
    · rename_i hempty
      left
      simpa using hempty
  cases f
  · exact hlabel name.short
  · exact hlabel ""
  · exact hlabel name.full

end SourceFormat

namespace SortedStore

variable {κ α : Type} [Ord κ] {key : α → κ}

theorem mem_insertSorted {v w : α} {l : List α} (h : w ∈ (insertSorted key v l).1) :
    w = v ∨ w ∈ l := by
  induction l with
  | nil => simpa [insertSorted] using h
  | cons u us ih =>
      unfold insertSorted at h
      split at h
      · simpa using h
      · rcases List.mem_cons.1 h with rfl | hw
        · exact Or.inl rfl
        · exact Or.inr (List.mem_cons_of_mem u hw)
      · rcases List.mem_cons.1 h with rfl | hw
        · exact Or.inr List.mem_cons_self
        · rcases ih hw with rfl | hw
          · exact Or.inl rfl
          · exact Or.inr (List.mem_cons_of_mem u hw)

/-- A store extended by records holds only its records and those. -/
theorem mem_extend {s : SortedStore κ α} {vs : List α} {w : α} (h : w ∈ (s.extend vs).records) :
    w ∈ s.records ∨ w ∈ vs := by
  induction vs generalizing s with
  | nil => exact Or.inl h
  | cons v vs ih =>
      rcases ih h with hw | hw
      · rcases mem_insertSorted hw with rfl | hw
        · exact Or.inr List.mem_cons_self
        · exact Or.inl hw
      · exact Or.inr (List.mem_cons_of_mem v hw)

theorem mem_replaceAll {s : SortedStore κ α} {vs : List α} {w : α}
    (h : w ∈ (s.replaceAll vs).records) : w ∈ vs := by
  rcases mem_extend h with hw | hw
  · simp [removeAll] at hw
  · exact hw

omit [Ord κ] in
theorem mem_snapshot {s : SortedStore κ α} {w : α} : w ∈ s.snapshot ↔ w ∈ s.records := by
  unfold snapshot
  split
  · exact Iff.rfl
  · exact List.mem_reverse

end SortedStore

namespace LogsPage

/-- Every entry is rendered in the formats in force. -/
def Styled (p : LogsPage) : Prop :=
  ∀ e ∈ p.store.records, e.restyle p.timestamps p.sources = e

/-- The entries of source `s` numbered below `n` are flagged as ended, and `n` is a number the
page has given out. -/
structure EndedBelow (s : SourceName) (n : Nat) (p : LogsPage) : Prop where
  le_nextSeq : n ≤ p.nextSeq
  ended : ∀ e ∈ p.store.records, e.source = s → e.seq < n → e.ended = true

/-! What the calls do to the entries. -/

/-- Filing lines keeps the formats and the entries held, and adds entries rendered in the
formats, numbered from the page's count on. -/
theorem fileLines_records (p : LogsPage) (ls : List LogLine) :
    (p.fileLines ls).timestamps = p.timestamps ∧ (p.fileLines ls).sources = p.sources ∧
      p.nextSeq ≤ (p.fileLines ls).nextSeq ∧
      ∀ e ∈ (p.fileLines ls).store.records,
        e ∈ p.store.records ∨ p.nextSeq ≤ e.seq ∧ e.restyle p.timestamps p.sources = e := by
  induction ls generalizing p with
  | nil => exact ⟨rfl, rfl, Nat.le_refl _, fun e he => Or.inl he⟩
  | cons l ls ih =>
      let e₀ : LogEntry :=
        ({ seq := p.nextSeq, timestamp := l.timestamp, text := l.text, source := l.source } :
          LogEntry).restyle p.timestamps p.sources
      obtain ⟨hts, hsrc, hseq, hmem⟩ :=
        ih { p with store := (p.store.insert e₀).1, nextSeq := p.nextSeq + 1 }
      refine ⟨hts, hsrc, Nat.le_trans (Nat.le_succ _) hseq, fun e he => ?_⟩
      -- an entry is the first line's, or it was held before, or it is filed after the first
      rcases hmem e he with he | ⟨hle, hst⟩
      · rcases SortedStore.mem_insertSorted he with rfl | he
        · exact Or.inr ⟨Nat.le_refl _, LogEntry.restyle_restyle _ _ _⟩
        · exact Or.inl he
      · exact Or.inr ⟨Nat.le_trans (Nat.le_succ _) hle, hst⟩

/-- Refiling changed entries holds only the changed entries. -/
theorem mem_mapEntries {p : LogsPage} {f : LogEntry → LogEntry} {e : LogEntry}
    (he : e ∈ (p.mapEntries f).store.records) : ∃ e' ∈ p.store.records, e = f e' := by
  have hmem : e ∈ p.store.snapshot.map f := SortedStore.mem_replaceAll he
  obtain ⟨e', he', rfl⟩ := List.mem_map.1 hmem
  exact ⟨e', SortedStore.mem_snapshot.1 he', rfl⟩

/-! Every entry is rendered in the formats in force. -/

section Styled

variable {p : LogsPage}

theorem styled_new (o : PageOptions) : Styled (new o) := by
  intro e he
  simp [new, followOrder, SortedStore.empty] at he

theorem Styled.withView (h : Styled p) (v : FilteredView LogEntry) : Styled { p with view := v } :=
  h

theorem Styled.fileLines (h : Styled p) (ls : List LogLine) : Styled (p.fileLines ls) := by
  obtain ⟨hts, hsrc, -, hmem⟩ := fileLines_records p ls
  intro e he
  rw [hts, hsrc]
  rcases hmem e he with he | ⟨-, hst⟩
  · exact h e he
  · exact hst

theorem Styled.append (h : Styled p) (ls : List LogLine) : Styled (p.append ls) := by
  unfold LogsPage.append
  split
  · exact h
  split
  · exact h
  · exact (h.fileLines ls).withView _

/-- Changing the entries keeps them rendered when every change renders what it changes. -/
theorem styled_mapEntries (p : LogsPage) {f : LogEntry → LogEntry}
    (hf : ∀ e ∈ p.store.records, (f e).restyle p.timestamps p.sources = f e) :
    Styled (p.mapEntries f) := by
  intro e he
  obtain ⟨e', he', rfl⟩ := mem_mapEntries he
  exact hf e' he'

theorem Styled.markSourceEnded (h : Styled p) (src : SourceName) :
    Styled (p.markSourceEnded src) := by
  refine styled_mapEntries p fun e he => ?_
  split
  · exact LogEntry.restyle_restyle _ _ _
  · exact h e he

theorem styled_restyleAll (p : LogsPage) : Styled p.restyleAll :=
  styled_mapEntries p fun _ _ => LogEntry.restyle_restyle _ _ _

theorem Styled.togglePause (h : Styled p) : Styled p.togglePause.1 := by
  unfold LogsPage.togglePause
  split
  · exact (show Styled { p with paused := false, held := [] } from h).append p.held
  · exact h

/-- Every call keeps the entries rendered in the formats in force. -/
theorem Styled.perform (h : Styled p) (r : Request) : Styled (p.perform r) := by
  cases r with
  | append ls => exact h.append ls
  | clear =>
      intro e he
      simp [LogsPage.perform, LogsPage.clear, refreshRows, SortedStore.removeAll] at he
  | markSourceEnded src => exact h.markSourceEnded src
  | cycleTimestamps => exact styled_restyleAll _
  | cycleSources => exact styled_restyleAll _
  | reverseOrder => exact h
  | togglePause => exact h.togglePause
  | _ => exact h

theorem styled_foldl_perform (o : PageOptions) (rs : List Request) :
    Styled (rs.foldl perform (new o)) := by
  -- the run from any page whose entries are rendered in its formats
  suffices h : ∀ p : LogsPage, Styled p → Styled (rs.foldl perform p) from h _ (styled_new o)
  induction rs with
  | nil => exact fun _ h => h
  | cons r rs ih => exact fun p h => ih _ (h.perform r)

end Styled

/-! The entries of a source that has ended stay flagged. -/

section Ended

variable {s : SourceName} {n : Nat} {p : LogsPage}

/-- Flagging a source marks every entry of it the page holds. -/
theorem endedBelow_markSourceEnded (p : LogsPage) (s : SourceName) :
    EndedBelow s p.nextSeq (p.markSourceEnded s) := by
  refine ⟨Nat.le_refl _, fun e he hs _ => ?_⟩
  obtain ⟨e', -, rfl⟩ := mem_mapEntries he
  by_cases h : e'.source = s
  · simp [h]
  · simp [h] at hs

/-- A call that keeps the entries and gives out no number keeps the flags. -/
theorem EndedBelow.of_records {q : LogsPage} (h : EndedBelow s n p)
    (hr : q.store.records = p.store.records) (hn : p.nextSeq ≤ q.nextSeq) : EndedBelow s n q :=
  ⟨Nat.le_trans h.le_nextSeq hn, fun e he => h.ended e (hr ▸ he)⟩

theorem EndedBelow.fileLines (h : EndedBelow s n p) (ls : List LogLine) :
    EndedBelow s n (p.fileLines ls) := by
  obtain ⟨-, -, hseq, hmem⟩ := fileLines_records p ls
  refine ⟨Nat.le_trans h.le_nextSeq hseq, fun e he hs hlt => ?_⟩
  -- the lines filed now are numbered from the count on, so none of them is below `n`
  rcases hmem e he with he | ⟨hle, -⟩
  · exact h.ended e he hs hlt
  · have := h.le_nextSeq
    omega

theorem EndedBelow.append (h : EndedBelow s n p) (ls : List LogLine) :
    EndedBelow s n (p.append ls) := by
  unfold LogsPage.append
  split
  · exact h
  split
  · exact h.of_records rfl (Nat.le_refl _)
  · exact (h.fileLines ls).of_records rfl (Nat.le_refl _)

/-- Changing the entries keeps the flags when no change clears one. -/
theorem EndedBelow.mapEntries (h : EndedBelow s n p) {f : LogEntry → LogEntry}
    (hf : ∀ e, (f e).source = e.source ∧ (f e).seq = e.seq ∧ (e.ended = true → (f e).ended = true)) :
    EndedBelow s n (p.mapEntries f) := by
  refine ⟨h.le_nextSeq, fun e he hs hlt => ?_⟩
  obtain ⟨e', he', rfl⟩ := mem_mapEntries he
  obtain ⟨hsrc, hseq, hend⟩ := hf e'
  exact hend (h.ended e' he' (hsrc ▸ hs) (hseq ▸ hlt))

theorem EndedBelow.togglePause (h : EndedBelow s n p) : EndedBelow s n p.togglePause.1 := by
  unfold LogsPage.togglePause
  split
  · have h₀ : EndedBelow s n { p with paused := false, held := [] } :=
      h.of_records rfl (Nat.le_refl _)
    exact h₀.append p.held
  · exact h.of_records rfl (Nat.le_refl _)

/-- No call clears the flag of an entry, and no call gives out a number twice. -/
theorem EndedBelow.perform (h : EndedBelow s n p) (r : Request) : EndedBelow s n (p.perform r) := by
  cases r with
  | append ls => exact h.append ls
  | clear =>
      refine ⟨h.le_nextSeq, fun e he => ?_⟩
      simp [LogsPage.perform, LogsPage.clear, refreshRows, SortedStore.removeAll] at he
  | markSourceEnded src =>
      refine h.mapEntries fun e => ?_
      split <;> simp_all
  | cycleTimestamps =>
      have h₀ : EndedBelow s n { p with timestamps := p.timestamps.next } :=
        h.of_records rfl (Nat.le_refl _)
      refine h₀.mapEntries fun e => ?_
      exact ⟨rfl, rfl, id⟩
  | cycleSources =>
      have h₀ : EndedBelow s n { p with sources := p.sources.next } :=
        h.of_records rfl (Nat.le_refl _)
      refine h₀.mapEntries fun e => ?_
      exact ⟨rfl, rfl, id⟩
  | togglePause => exact h.togglePause
  | _ => exact h.of_records rfl (Nat.le_refl _)

theorem EndedBelow.foldl_perform (h : EndedBelow s n p) (rs : List Request) :
    EndedBelow s n (rs.foldl LogsPage.perform p) := by
  induction rs generalizing p with
  | nil => exact h
  | cons r rs ih => exact ih (h.perform r)

/-- An entry flagged as ended and rendered in the formats in force shows its source with the
suffix, or shows no source. -/
theorem EndedBelow.shownSource (h : EndedBelow s n p) (hst : Styled p) {e : LogEntry}
    (he : e ∈ p.store.records) (hs : e.source = s) (hlt : e.seq < n) :
    e.shownSource = "" ∨ ∃ label, e.shownSource = label ++ " [ended]" := by
  have hshown : e.shownSource = p.sources.render e.source e.ended :=
    (congrArg LogEntry.shownSource (hst e he)).symm
  rw [hshown, h.ended e he hs hlt]
  exact SourceFormat.render_ended _ _

end Ended

end LogsPage

end LogBrowser
