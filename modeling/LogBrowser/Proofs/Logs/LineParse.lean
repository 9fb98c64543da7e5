import LogBrowser.Logs.Entry
import LogBrowser.Logs.Line
import LogBrowser.Proofs.Time.Rfc3339
import Mathlib.Data.List.TakeDrop
import Mathlib.Data.List.TakeWhile

/-!
# Reading the timestamp in front of a log line

`parseLine` drops the line end, cuts the line at its first blank and reads the part before it as
an RFC 3339 timestamp. This module shows that the cut finds the timestamp a writer put in front:
a timestamp with no blank in it, then blank space and any text, is read as its instant and the
text after the blanks (`parseLine_timestamp_append`); a line that is only the timestamp has no
text (`parseLine_timestamp`). The page's own full rendering of an instant is such a timestamp, so
a line that starts with it is read back as the instant cut to milliseconds. A line whose first
word is not a timestamp keeps all its text and gets the instant it arrived at
(`parseLine_of_rejected`).

The line end is made of blanks, so dropping it changes neither the first word
(`takeWhile_notBlank_dropLineEnd`) nor anything before the last non-blank character
(`dropLineEnd_append_cons`).
-/

namespace LogBrowser

open LogBrowser.Time LogBrowser.Unicode

theorem isBlank_of_lineEnd {c : Char} (h : (c = '\n' || c = '\r') = true) : isBlank c = true := by
  simp only [Bool.or_eq_true, decide_eq_true_eq] at h
  rcases h with rfl | rfl <;> decide

theorem not_lineEnd_of_not_blank {c : Char} (h : isBlank c = false) :
    (c = '\n' || c = '\r') = false := by
  rw [Bool.eq_false_iff]
  intro hl
  rw [isBlank_of_lineEnd hl] at h
  exact Bool.noConfusion h

theorem isBlank_of_isDigit {c : Char} (h : c.isDigit = true) : isBlank c = false := by
  simp only [Char.isDigit, Bool.and_eq_true, decide_eq_true_eq] at h
  have h1 : 48 ≤ c.toNat := h.1
  have h2 : c.toNat ≤ 57 := h.2
  simp only [isBlank, Bool.or_eq_false_iff, Bool.and_eq_false_iff, decide_eq_false_iff_not,
    beq_eq_false_iff_ne, ne_eq]
  omega

/-- The rendering with milliseconds holds no blank: digits and the separators `-T:.+`. -/
theorem toMillisText_not_blank {t : Instant} (hy : 0 ≤ t.date.1 ∧ t.date.1 ≤ 9999) :
    ∀ c ∈ t.toMillisText.toList, isBlank c = false := by
  intro c hc
  rcases Instant.toMillisText_chars hy hc with hd | hs
  · exact isBlank_of_isDigit hd
  · simp only [List.mem_cons, List.not_mem_nil, or_false] at hs
    rcases hs with rfl | rfl | rfl | rfl | rfl <;> decide

section LineEnd

/-- The line end of two lists: that of the second, or when the second is all line end, that of
the first. -/
theorem dropLineEnd_append (xs ys : List Char) :
    dropLineEnd (xs ++ ys) =
      if dropLineEnd ys = [] then dropLineEnd xs else xs ++ dropLineEnd ys := by
  unfold dropLineEnd
  rw [List.reverse_append, List.dropWhile_append]
  by_cases h : (ys.reverse.dropWhile fun c => c = '\n' || c = '\r') = []
  · simp [h]
  · simp [h, List.isEmpty_iff]

theorem dropLineEnd_cons {c : Char} (hc : (c = '\n' || c = '\r') = false) (rest : List Char) :
    dropLineEnd (c :: rest) = c :: dropLineEnd rest := by
  have hc1 : dropLineEnd [c] = [c] := by
    simp [dropLineEnd, List.dropWhile_cons_of_neg, hc]
  rw [← List.singleton_append, dropLineEnd_append, hc1]
  split <;> simp_all

/-- Only the line end after the last character that is not one is dropped. -/
theorem dropLineEnd_append_cons {c : Char} (hc : (c = '\n' || c = '\r') = false)
    (cs rest : List Char) : dropLineEnd (cs ++ c :: rest) = cs ++ c :: dropLineEnd rest := by
  rw [dropLineEnd_append, dropLineEnd_cons hc, if_neg (List.cons_ne_nil _ _)]

theorem dropLineEnd_of_not_blank {cs : List Char} (h : ∀ c ∈ cs, isBlank c = false) :
    dropLineEnd cs = cs := by
  induction cs with
  | nil => rfl
  | cons c cs ih =>
    rw [dropLineEnd_cons (not_lineEnd_of_not_blank (h c List.mem_cons_self)),
      ih fun d hd => h d (List.mem_cons_of_mem c hd)]

/-- The leading run of non-blanks stops at a blank that follows it. -/
theorem takeWhile_notBlank_append {D E : List Char} (hE : ∀ c ∈ E.head?, isBlank c = true) :
    (D ++ E).takeWhile (fun c => !isBlank c) = D.takeWhile (fun c => !isBlank c) := by
  induction D with
  | nil =>
    cases E with
    | nil => rfl
    | cons e E => simp [hE e rfl]
  | cons d D ih => simp [List.takeWhile_cons, ih]

/-- Dropping the line end leaves the first word as it was: the line end is blank. -/
theorem takeWhile_notBlank_dropLineEnd (cs : List Char) :
    (dropLineEnd cs).takeWhile (fun c => !isBlank c) = cs.takeWhile (fun c => !isBlank c) := by
  have hsplit : dropLineEnd cs ++
      (cs.reverse.takeWhile fun c => c = '\n' || c = '\r').reverse = cs := by
    rw [dropLineEnd, ← List.reverse_append, List.takeWhile_append_dropWhile, List.reverse_reverse]
  have hE : ∀ c ∈ ((cs.reverse.takeWhile fun c => c = '\n' || c = '\r').reverse).head?,
      isBlank c = true := by
    intro c hc
    have hmem := List.mem_reverse.1 (List.mem_of_mem_head? hc)
    have hl := List.mem_takeWhile_imp hmem
    exact isBlank_of_lineEnd hl
  conv_rhs => rw [← hsplit]
  rw [takeWhile_notBlank_append hE]

end LineEnd

section Split

/-- A line cut at its first blank. -/
theorem span_notBlank_append {w rest : List Char} {c : Char} (hw : ∀ d ∈ w, isBlank d = false)
    (hc : isBlank c = true) : (w ++ c :: rest).span (fun d => !isBlank d) = (w, c :: rest) := by
  have hpos : ∀ d ∈ w, (!isBlank d) = true := fun d hd => by simp [hw d hd]
  rw [List.span_eq_takeWhile_dropWhile, List.takeWhile_append_of_pos hpos,
    List.dropWhile_append_of_pos hpos, List.takeWhile_cons_of_neg (by simp [hc]),
    List.dropWhile_cons_of_neg (by simp [hc]), List.append_nil]

theorem span_notBlank_of_not_blank {w : List Char} (hw : ∀ d ∈ w, isBlank d = false) :
    w.span (fun d => !isBlank d) = (w, []) := by
  have hpos : ∀ d ∈ w, (!isBlank d) = true := fun d hd => by simp [hw d hd]
  rw [List.span_eq_takeWhile_dropWhile, List.takeWhile_eq_self_iff.2 hpos,
    List.dropWhile_eq_nil_iff.2 hpos]

end Split

/-- A timestamp with no blank in it, then a blank and any text: the line is read as the instant
and the text after the blanks, without its line end. -/
theorem parseLine_timestamp_append {h : String} {t : Instant} (hp : parseRfc3339 h = .ok t)
    (hb : ∀ c ∈ h.toList, isBlank c = false) (s : String) (now : Instant) :
    parseLine (h ++ " " ++ s) now = (t, String.ofList (trimBlankStart (dropLineEnd s.toList))) := by
  have hl : (h ++ " " ++ s).toList = h.toList ++ ' ' :: s.toList := by
    simp [String.toList_append]
  simp only [parseLine, hl, dropLineEnd_append_cons (c := ' ') (by decide),
    span_notBlank_append (c := ' ') hb (by decide), String.ofList_toList, hp]

/-- A line that is only a timestamp is read as its instant with no text. -/
theorem parseLine_timestamp {h : String} {t : Instant} (hp : parseRfc3339 h = .ok t)
    (hb : ∀ c ∈ h.toList, isBlank c = false) (now : Instant) : parseLine h now = (t, "") := by
  simp only [parseLine, dropLineEnd_of_not_blank hb, span_notBlank_of_not_blank hb,
    String.ofList_toList, hp]

/-- A line whose first word is not a timestamp keeps its text, without the line end, and gets
`now`. -/
theorem parseLine_of_rejected {raw : String} {now : Instant}
    (hrej : ∃ e, parseRfc3339 (String.ofList (raw.toList.takeWhile fun c => !isBlank c)) = .error e) :
    parseLine raw now = (now, String.ofList (dropLineEnd raw.toList)) := by
  obtain ⟨e, he⟩ := hrej
  rw [← takeWhile_notBlank_dropLineEnd] at he
  -- the candidate is the first word when the line holds a blank, and the whole line otherwise,
  -- which is then its own first word
  simp only [parseLine, List.span_eq_takeWhile_dropWhile]
  cases hdrop : (dropLineEnd raw.toList).dropWhile (fun c => !isBlank c) with
  | cons b rest => simp only [he]
  | nil =>
    have hall : (dropLineEnd raw.toList).takeWhile (fun c => !isBlank c) =
        dropLineEnd raw.toList := by
      simpa [hdrop] using
        (List.takeWhile_append_dropWhile (p := fun c => !isBlank c) (l := dropLineEnd raw.toList))
    rw [hall] at he
    simp only [he]

/-- A line is read back to the instant of the timestamp in front and the text after the blanks
that follow it, or to that instant and no text when the line is only the timestamp. The page's
own full rendering of an instant is such a timestamp, read back as the instant cut to
milliseconds. A line whose first word is not a timestamp gets `now` and keeps its text. -/
theorem parseLine_reads_leading_timestamp :
    (∀ (h s : String) (t now : Instant), parseRfc3339 h = .ok t →
      (∀ c ∈ h.toList, isBlank c = false) →
      parseLine (h ++ " " ++ s) now = (t, String.ofList (trimBlankStart (dropLineEnd s.toList))) ∧
        parseLine h now = (t, "")) ∧
    (∀ (t : Instant) (s : String) (now : Instant), t.Valid → 0 ≤ t.date.1 ∧ t.date.1 ≤ 9999 →
      parseLine (TimestampFormat.full.render t ++ " " ++ s) now =
          (t.toMillis, String.ofList (trimBlankStart (dropLineEnd s.toList))) ∧
        parseLine (TimestampFormat.full.render t) now = (t.toMillis, "")) ∧
    (∀ (raw : String) (now : Instant),
      (∃ e, parseRfc3339 (String.ofList (raw.toList.takeWhile fun c => !isBlank c)) = .error e) →
      parseLine raw now = (now, String.ofList (dropLineEnd raw.toList))) := by
  refine ⟨fun h s t now hp hb => ⟨parseLine_timestamp_append hp hb s now,
    parseLine_timestamp hp hb now⟩, fun t s now ht hy => ?_,
    fun raw now hrej => parseLine_of_rejected hrej⟩
  -- the full rendering parses back and has no blank in it
  have hp := Instant.parseRfc3339_toMillisText ht hy
  have hb := toMillisText_not_blank hy
  exact ⟨parseLine_timestamp_append hp hb s now, parseLine_timestamp hp hb now⟩

theorem parseLine_reads_health_check :
    parseLine ("2024-03-02T10:20:30Z" ++ " " ++ "GET /health 200\n") ⟨0, 0, 0⟩ =
        (⟨19784, 37230, 0⟩, "GET /health 200") ∧
      parseLine (TimestampFormat.full.render ⟨19784, 37230, 1500000⟩ ++ " " ++ "ok") ⟨0, 0, 0⟩ =
        (⟨19784, 37230, 1000000⟩, "ok") ∧
      parseLine "2024-13-45 not a date\r\n" ⟨0, 0, 0⟩ = (⟨0, 0, 0⟩, "2024-13-45 not a date") := by
  refine ⟨?_, ?_, ?_⟩
  · rw [(parseLine_reads_leading_timestamp.1 "2024-03-02T10:20:30Z" "GET /health 200\n"
      ⟨19784, 37230, 0⟩ ⟨0, 0, 0⟩ rfl (by simp [isBlank])).1]
    decide
  · rw [(parseLine_reads_leading_timestamp.2.1 ⟨19784, 37230, 1500000⟩ "ok" ⟨0, 0, 0⟩
      ⟨by decide, by decide, by decide⟩ (by decide)).1]
    decide
  · rw [parseLine_reads_leading_timestamp.2.2 "2024-13-45 not a date\r\n" ⟨0, 0, 0⟩ ⟨_, rfl⟩]
    decide

end LogBrowser
