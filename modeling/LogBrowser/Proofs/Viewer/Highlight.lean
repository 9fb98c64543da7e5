import LogBrowser.Viewer.LogView
import Mathlib.Data.List.Chain

/-!
# Highlighted occurrences

A row is drawn with every occurrence of the highlighted text laid over it in the highlight style.
`Text.markOccurrences` cuts the row's characters at the occurrences of the needle, found from left
to right without overlapping, each search resuming after the previous occurrence, and marks the
occurrences; `highlightedLine` styles the marked pieces with the highlight over the base style and
the others with the base style.

The pieces concatenate to the row. The marked ones are the needle, at exactly the positions that
`Text.occurrences` lists. An unmarked piece is never empty, holds no occurrence, and stands only
before an occurrence or at the end, so two never meet. An empty row gives one empty piece, and an
empty needle the whole row as one piece (`highlightedLine_partitions`).

While the row is cut, the characters passed over since the last occurrence are kept, reversed.
None of them starts an occurrence, not even one running on into the rest of the row
(`NoneStarts`), and that is what keeps every unmarked piece free of the needle.
-/

namespace LogBrowser

namespace Text

/-- The positions of the marked pieces, the first piece starting at `pos`. -/
def markedStarts (pos : Nat) : List (List Char × Bool) → List Nat
  | [] => []
  | (cs, marked) :: ps => (if marked then [pos] else []) ++ markedStarts (pos + cs.length) ps

/-- Pieces that cut the row `text` at the occurrences of `needle`: they concatenate to the row,
the marked ones are the needle at the occurrences, the unmarked ones hold no occurrence and are
empty only for an empty row, and an unmarked piece is followed only by a marked one. -/
structure CutAt (needle text : List Char) (ps : List (List Char × Bool)) : Prop where
  flatten_eq : (ps.map Prod.fst).flatten = text
  starts_eq : markedStarts 0 ps = occurrences text needle
  marked : ∀ p ∈ ps, p.2 = true → p.1 = needle
  unmarked : ∀ p ∈ ps, p.2 = false → (p.1 ≠ [] ∨ text = []) ∧ isInfix needle p.1 = false
  apart : ps.IsChain fun a b => a.2 = false → b.2 = true

/-- No occurrence of the needle starts among the characters passed over (`pending`, reversed),
not even one that runs on into the rest `cs`. -/
def NoneStarts (needle pending cs : List Char) : Prop :=
  ∀ i < pending.length, ¬needle <+: pending.reverse.drop i ++ cs

section Marks

variable {needle : List Char}

/-- The search for a needle finds exactly the runs of the row. -/
theorem isInfix_eq_true_iff (hay : List Char) : isInfix needle hay = true ↔ needle <:+: hay := by
  induction hay with
  | nil => simp [isInfix, List.infix_nil]
  | cons c hay ih =>
      simp only [isInfix, Bool.or_eq_true, List.isPrefixOf_iff_prefix, ih]
      exact List.infix_cons_iff.symm

/-- A needle found at the front of the rest is followed by what it leaves. -/
theorem append_drop_of_found {c : Char} {cs : List Char}
    (h : (decide (needle ≠ []) && needle.isPrefixOf (c :: cs)) = true) :
    needle ++ (c :: cs).drop needle.length = c :: cs := by
  simp only [Bool.and_eq_true, List.isPrefixOf_iff_prefix] at h
  exact List.prefix_iff_eq_append.1 h.2

theorem noneStarts_nil (needle cs : List Char) : NoneStarts needle [] cs :=
  fun i hi => absurd hi (Nat.not_lt_zero i)

/-- Passing over a character that starts no occurrence keeps the passed characters clear. -/
theorem NoneStarts.cons {pending : List Char} {c : Char} {cs : List Char}
    (h : NoneStarts needle pending (c :: cs)) (hc : ¬needle <+: c :: cs) :
    NoneStarts needle (c :: pending) cs := by
  intro i hi
  rw [List.length_cons] at hi
  rw [List.reverse_cons]
  rcases Nat.lt_or_ge i pending.length with hlt | hge
  · rw [List.drop_append_of_le_length (by rw [List.length_reverse]; omega), List.append_assoc]
    exact h i hlt
  · -- the last character passed over is `c` itself
    rw [show i = pending.reverse.length by rw [List.length_reverse]; omega, List.drop_left]
    exact hc

/-- Characters from which no occurrence starts contain none. -/
theorem isInfix_eq_false (hne : needle ≠ []) {l rest : List Char}
    (h : ∀ i < l.length, ¬needle <+: l.drop i ++ rest) : isInfix needle l = false := by
  induction l with
  | nil => simpa [isInfix] using hne
  | cons c l ih =>
      have hfirst : needle.isPrefixOf (c :: l) = false := by
        rw [Bool.eq_false_iff, ne_eq, List.isPrefixOf_iff_prefix]
        exact fun hp => h 0 (Nat.zero_lt_succ _) (hp.trans (List.prefix_append _ _))
      have hrest : isInfix needle l = false :=
        ih fun i hi => h (i + 1) (Nat.succ_lt_succ hi)
      simp [isInfix, hfirst, hrest]

theorem flatten_markFrom (pending cs : List Char) :
    ((markFrom needle pending cs).map Prod.fst).flatten = pending.reverse ++ cs := by
  fun_induction markFrom needle pending cs with
  | case1 pending hp => simp [List.isEmpty_iff.1 hp]
  | case2 pending hp => simp
  | case3 pending c cs hm ih =>
      have hfound := append_drop_of_found hm
      split
      · rename_i hpe
        simp [List.isEmpty_iff.1 hpe, ih, hfound]
      · simp [ih, hfound]
  | case4 pending c cs hm ih =>
      rw [ih]
      simp

/-- The marked pieces are the needle. -/
theorem fst_eq_of_mem_markFrom {pending cs : List Char} {p : List Char × Bool}
    (hp : p ∈ markFrom needle pending cs) (hm : p.2 = true) : p.1 = needle := by
  fun_induction markFrom needle pending cs with
  | case1 pending hpe => simp at hp
  | case2 pending hpe =>
      rw [List.mem_singleton.1 hp] at hm
      simp at hm
  | case3 pending c cs hfound ih =>
      rcases List.mem_append.1 hp with hp | hp
      · split at hp
        · simp at hp
        · rw [List.mem_singleton.1 hp] at hm
          simp at hm
      · rcases List.mem_cons.1 hp with rfl | hp
        · rfl
        · exact ih hp
  | case4 pending c cs hfound ih => exact ih hp

/-- The marked pieces stand exactly at the occurrences, counted from the passed characters. -/
theorem markedStarts_markFrom (pending cs : List Char) :
    ∀ pos, markedStarts pos (markFrom needle pending cs) =
      occurrencesFrom needle (pos + pending.length) cs := by
  fun_induction markFrom needle pending cs with
  | case1 pending hp => intro pos; simp [markedStarts, occurrencesFrom]
  | case2 pending hp => intro pos; simp [markedStarts, occurrencesFrom]
  | case3 pending c cs hfound ih =>
      intro pos
      rw [occurrencesFrom, if_pos hfound]
      split
      · rename_i hpe
        rw [List.isEmpty_iff.1 hpe]
        simp [markedStarts, ih]
      · simp [markedStarts, ih, Nat.add_assoc]
  | case4 pending c cs hfound ih =>
      intro pos
      rw [occurrencesFrom, if_neg hfound, ih]
      simp [Nat.add_assoc]

/-- An unmarked piece is never empty and holds no occurrence. -/
theorem unmarked_of_mem_markFrom (hne : needle ≠ []) {pending cs : List Char}
    (hclear : NoneStarts needle pending cs) {p : List Char × Bool}
    (hp : p ∈ markFrom needle pending cs) (hm : p.2 = false) :
    p.1 ≠ [] ∧ isInfix needle p.1 = false := by
  fun_induction markFrom needle pending cs with
  | case1 pending hpe => simp at hp
  | case2 pending hpe =>
      rw [List.mem_singleton] at hp
      subst hp
      refine ⟨by simpa using hpe, @isInfix_eq_false _ hne _ [] fun i hi => ?_⟩
      rw [List.length_reverse] at hi
      exact hclear i hi
  | case3 pending c cs hfound ih =>
      rcases List.mem_append.1 hp with hp | hp
      · split at hp
        · simp at hp
        · -- the characters passed over before the occurrence
          rename_i hpe
          rw [List.mem_singleton.1 hp]
          refine ⟨by simpa using hpe, @isInfix_eq_false _ hne _ (c :: cs) fun i hi => ?_⟩
          rw [List.length_reverse] at hi
          exact hclear i hi
      · rcases List.mem_cons.1 hp with rfl | hp
        · simp at hm
        · exact ih (noneStarts_nil _ _) hp
  | case4 pending c cs hfound ih =>
      refine ih (hclear.cons fun hpre => hfound ?_) hp
      simp only [Bool.and_eq_true, decide_eq_true_eq, List.isPrefixOf_iff_prefix]
      exact ⟨hne, hpre⟩

/-- An unmarked piece is followed by a marked one, if by anything. -/
theorem isChain_markFrom (pending cs : List Char) :
    (markFrom needle pending cs).IsChain fun a b => a.2 = false → b.2 = true := by
  fun_induction markFrom needle pending cs with
  | case1 pending hp => exact List.isChain_nil
  | case2 pending hp => exact List.isChain_singleton _
  | case3 pending c cs hfound ih =>
      have hocc : ((needle, true) :: markFrom needle [] ((c :: cs).drop needle.length)).IsChain
          fun a b => a.2 = false → b.2 = true :=
        List.isChain_cons.2 ⟨fun _ _ h => absurd h (by simp), ih⟩
      split
      · exact hocc
      · exact List.isChain_cons_cons.2 ⟨fun _ => rfl, hocc⟩
  | case4 pending c cs hfound ih => exact ih

/-- With a needle, an empty row is one empty piece, and any other row is cut as it is read. -/
theorem markOccurrences_of_ne_nil (hne : needle ≠ []) (text : List Char) :
    markOccurrences text needle = if text = [] then [([], false)] else markFrom needle [] text := by
  unfold markOccurrences
  rw [if_neg (by simpa using hne)]
  split
  · -- nothing is cut only from an empty row
    rename_i hnil
    have hflat := @flatten_markFrom needle [] text
    rw [hnil] at hflat
    rw [if_pos (by simpa using hflat.symm)]
  · rename_i hcut
    rw [if_neg]
    rintro rfl
    exact hcut (by simp [markFrom])

/-- Marking the occurrences of a needle cuts the row at them. -/
theorem cutAt_markOccurrences (hne : needle ≠ []) (text : List Char) :
    CutAt needle text (markOccurrences text needle) := by
  rw [markOccurrences_of_ne_nil hne]
  split
  · rename_i ht
    subst ht
    refine ⟨rfl, by simp [markedStarts, occurrences, occurrencesFrom], by simp, ?_,
      List.isChain_singleton _⟩
    intro p hp _
    rw [List.mem_singleton.1 hp]
    exact ⟨Or.inr rfl, by simpa [isInfix] using hne⟩
  · exact ⟨by simpa using @flatten_markFrom needle [] text,
      markedStarts_markFrom [] text 0,
      fun _ hp hm => fst_eq_of_mem_markFrom hp hm,
      fun _ hp hm => (unmarked_of_mem_markFrom hne (noneStarts_nil _ _) hp hm).imp_left Or.inl,
      isChain_markFrom [] text⟩

end Marks

end Text

open Display

/-- The positions of the spans in style `st`, the first span starting at `pos`. -/
def styledStarts (st : Style) (pos : Nat) : List Span → List Nat
  | [] => []
  | s :: ss => (if s.style = st then [pos] else []) ++ styledStarts st (pos + s.text.length) ss

/-- A piece of a row as drawn: the highlight laid over the base style when it is marked. -/
def pieceSpan (base highlight : Style) (p : List Char × Bool) : Span :=
  { text := String.ofList p.1, style := if p.2 then base.patch highlight else base }

section Spans

variable (base highlight : Style)

theorem spans_highlightedLine (text needle : String) :
    (highlightedLine text needle base highlight).spans =
      (Text.markOccurrences text.toList needle.toList).map (pieceSpan base highlight) := rfl

theorem join_map_pieceSpan (ps : List (List Char × Bool)) :
    String.join ((ps.map (pieceSpan base highlight)).map (·.text)) =
      String.ofList (ps.map Prod.fst).flatten := by
  apply String.ext
  simp [String.toList_join, pieceSpan, List.flatMap_map, List.flatten_eq_flatMap]

/-- With a highlight that shows, a piece is drawn highlighted exactly when it is marked. -/
theorem style_pieceSpan_eq_patch_iff (hshow : base.patch highlight ≠ base)
    (p : List Char × Bool) :
    (pieceSpan base highlight p).style = base.patch highlight ↔ p.2 = true := by
  obtain ⟨cs, marked⟩ := p
  cases marked <;> simp [pieceSpan, Ne.symm hshow]

/-- With a highlight that shows, a piece is drawn in the base style exactly when it is
unmarked. -/
theorem style_pieceSpan_eq_base_iff (hshow : base.patch highlight ≠ base)
    (p : List Char × Bool) : (pieceSpan base highlight p).style = base ↔ p.2 = false := by
  obtain ⟨cs, marked⟩ := p
  cases marked <;> simp [pieceSpan, hshow]

/-- With a highlight that shows, the highlighted spans stand where the marked pieces do. -/
theorem styledStarts_map_pieceSpan (hshow : base.patch highlight ≠ base) (pos : Nat)
    (ps : List (List Char × Bool)) :
    styledStarts (base.patch highlight) pos (ps.map (pieceSpan base highlight)) =
      Text.markedStarts pos ps := by
  induction ps generalizing pos with
  | nil => rfl
  | cons p ps ih =>
      obtain ⟨cs, marked⟩ := p
      cases marked <;> simp [styledStarts, Text.markedStarts, pieceSpan, ih, Ne.symm hshow]

end Spans

/-- Highlighting a needle in a row cuts the row into spans. With an empty needle the row is one
span in the base style. Otherwise, with a highlight that shows over the base style, the spans
concatenate to the row; the highlighted spans are the needle, standing exactly at its
occurrences found from left to right without overlapping; every other span is in the base style
and holds no occurrence; no span is empty unless the row is, which is then one empty span; and
no two spans in the base style meet. -/
theorem highlightedLine_partitions (text needle : String) (base highlight : Style) :
    let spans := (highlightedLine text needle base highlight).spans
    (needle = "" → spans = [{ text := text, style := base }]) ∧
      (needle ≠ "" → base.patch highlight ≠ base →
        String.join (spans.map (·.text)) = text ∧
        styledStarts (base.patch highlight) 0 spans = Text.occurrences text.toList needle.toList ∧
        (∀ s ∈ spans, s.style = base.patch highlight → s.text = needle) ∧
        (∀ s ∈ spans, s.style ≠ base.patch highlight →
          s.style = base ∧ ¬needle.toList <:+: s.text.toList) ∧
        (text = "" → spans = [{ text := "", style := base }]) ∧
        (text ≠ "" → ∀ s ∈ spans, s.text ≠ "") ∧
        spans.IsChain fun a b => a.style = base → b.style ≠ base) := by
  intro spans
  refine ⟨fun h => ?_, fun hne hshow => ?_⟩
  · -- an empty needle leaves the row whole
    subst h
    simp [spans, spans_highlightedLine, Text.markOccurrences, pieceSpan]
  have hn : needle.toList ≠ [] := by simpa using hne
  have hcut := Text.cutAt_markOccurrences hn text.toList
  have hspans : spans = (Text.markOccurrences text.toList needle.toList).map
      (pieceSpan base highlight) := rfl
  -- each span is drawn from a piece, highlighted exactly when the piece is marked
  have hfrom : ∀ s ∈ spans, ∃ p ∈ Text.markOccurrences text.toList needle.toList,
      pieceSpan base highlight p = s := fun s hs => List.mem_map.1 (hspans ▸ hs)
  have hmarked := style_pieceSpan_eq_patch_iff base highlight hshow
  have hplain := style_pieceSpan_eq_base_iff base highlight hshow
  refine ⟨?_, ?_, ?_, ?_, ?_, ?_, ?_⟩
  · rw [hspans, join_map_pieceSpan, hcut.flatten_eq, String.ofList_toList]
  · rw [hspans, styledStarts_map_pieceSpan _ _ hshow, hcut.starts_eq]
  · intro s hs hst
    obtain ⟨p, hp, rfl⟩ := hfrom s hs
    have hneedle := hcut.marked p hp ((hmarked p).1 hst)
    simp [pieceSpan, hneedle]
  · intro s hs hst
    obtain ⟨p, hp, rfl⟩ := hfrom s hs
    have hm : p.2 = false := by simpa using mt (hmarked p).2 hst
    refine ⟨(hplain p).2 hm, ?_⟩
    rw [← Text.isInfix_eq_true_iff, pieceSpan, String.toList_ofList, (hcut.unmarked p hp hm).2]
    exact Bool.false_ne_true
  · intro ht
    rw [hspans, Text.markOccurrences_of_ne_nil hn, if_pos (by simpa using ht)]
    simp [pieceSpan]
  · intro ht s hs
    obtain ⟨p, hp, rfl⟩ := hfrom s hs
    have htl : text.toList ≠ [] := by simpa using ht
    cases hm : p.2 with
    | true => simpa [pieceSpan, hcut.marked p hp hm] using hn
    | false =>
        have hne' := (hcut.unmarked p hp hm).1.resolve_right htl
        simpa [pieceSpan] using hne'
  · rw [hspans, List.isChain_map]
    refine hcut.apart.imp fun a b hab ha hb => ?_
    have hbm := hab ((hplain a).1 ha)
    exact hshow (((hmarked b).2 hbm).symm.trans hb)

/-- A needle at both ends of the row, on a yellow background over the plain style. -/
theorem highlightedLine_partitions_both_ends :
    let highlight : Style := { bg := some (.rgb 255 255 0) }
    let spans := (highlightedLine "GET /a GET" "GET" {} highlight).spans
    "GET" ≠ "" ∧ Style.patch {} highlight ≠ {} ∧
      String.join (spans.map (·.text)) = "GET /a GET" ∧
      styledStarts (Style.patch {} highlight) 0 spans =
        Text.occurrences "GET /a GET".toList "GET".toList ∧
      (∀ s ∈ spans, s.style = Style.patch {} highlight → s.text = "GET") ∧
      (∀ s ∈ spans, s.style ≠ Style.patch {} highlight →
        s.style = {} ∧ ¬"GET".toList <:+: s.text.toList) ∧
      ("GET /a GET" = "" → spans = [{ text := "", style := {} }]) ∧
      ("GET /a GET" ≠ "" → ∀ s ∈ spans, s.text ≠ "") ∧
      spans.IsChain fun a b => a.style = {} → b.style ≠ {} := by
  intro highlight spans
  have hne : "GET" ≠ "" := by decide
  have hshow : Style.patch {} highlight ≠ {} := by decide
  exact ⟨hne, hshow, (highlightedLine_partitions "GET /a GET" "GET" {} highlight).2 hne hshow⟩

example : ((highlightedLine "GET /a GET" "GET" {} { bg := some (.rgb 255 255 0) }).spans.map
    (·.text)) = ["GET", " /a ", "GET"] := by decide +kernel

end LogBrowser
