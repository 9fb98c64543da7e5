import LogBrowser.Proofs.FilteredSync
import Mathlib.Logic.Function.Iterate

/-!
# The match cursor moves cyclically over the matches

A filter keeps the indexes of the rows that match in context and a cursor over them. Whatever a
caller does to a filter, the cursor stands on a match, or at zero when there is none
(`Filter.CursorInRange`). Replacing the matches keeps the cursor, pulled back onto the last match
when the list got shorter, and clearing the query drops the matches with the cursor.

With the cursor in range, a step forward is `c ↦ (c + 1) % m` and a step back is
`c ↦ (c + m - 1) % m` over `m` matches (`advanceMatch_next_eq`, `advanceMatch_prev_eq`): the two
undo each other, and `m` steps in one direction come back to the same filter. The index of the
current match is then a match, and the label's `(i/n, …)` counts the matches and places the
cursor among them, so `1 ≤ i ≤ n`. Reading `i` and `n` back off the label rests on their digits
being cut apart by the `/`.
-/

namespace LogBrowser

namespace Filter

/-- The calls a caller makes on a filter. -/
inductive Request where
  | setText (t : String)
  | setMode (m : FilterMode)
  | edit (r : EditRequest)
  | focus
  | blur
  | blurAndClear
  | setContextEnabled (b : Bool)
  | setContextToggleAllowed (b : Bool)
  | setMatchingIndexes (ixs : List Nat)
  | resetMatchCursor
  | advanceMatch (s : MatchStep)

/-- Answers a call. -/
def perform (f : Filter) : Request → Filter
  | .setText t => f.setText t
  | .setMode m => f.setMode m
  | .edit r => f.edit r
  | .focus => f.focus
  | .blur => f.blur
  | .blurAndClear => f.blurAndClear
  | .setContextEnabled b => f.setContextEnabled b
  | .setContextToggleAllowed b => f.setContextToggleAllowed b
  | .setMatchingIndexes ixs => f.setMatchingIndexes ixs
  | .resetMatchCursor => f.resetMatchCursor
  | .advanceMatch s => f.advanceMatch s

/-- The cursor stands on a match, or at zero when there is none. -/
structure CursorInRange (f : Filter) : Prop where
  zero_of_nil : f.matchingIndexes = [] → f.matchCursor = 0
  lt_of_ne_nil : f.matchingIndexes ≠ [] → f.matchCursor < f.matchCount

variable {f : Filter}

theorem CursorInRange.lt (h : f.CursorInRange) (hm : 0 < f.matchCount) :
    f.matchCursor < f.matchCount :=
  h.lt_of_ne_nil (List.ne_nil_of_length_pos hm)

/-- A filter with the same matches and the same cursor has its cursor in range too. -/
theorem CursorInRange.of_eq {g : Filter} (h : f.CursorInRange)
    (hm : g.matchingIndexes = f.matchingIndexes) (hc : g.matchCursor = f.matchCursor) :
    g.CursorInRange := by
  refine ⟨fun hn => ?_, fun hn => ?_⟩
  · rw [hc]
    exact h.zero_of_nil (hm ▸ hn)
  · rw [hc, matchCount, hm]
    exact h.lt_of_ne_nil (hm ▸ hn)

theorem cursorInRange_new (hints : FilterHints) : (new hints).CursorInRange :=
  ⟨fun _ => rfl, fun h => absurd rfl h⟩

/-- Over `m` matches, a step back after a step forward lands where it started. -/
theorem succ_mod_add_pred_mod {c m : Nat} (hc : c < m) : ((c + 1) % m + m - 1) % m = c := by
  rcases Nat.lt_or_ge (c + 1) m with hlt | hge
  · rw [Nat.mod_eq_of_lt hlt, show c + 1 + m - 1 = c + m by omega, Nat.add_mod_right,
      Nat.mod_eq_of_lt hc]
  · rw [show c + 1 = m by omega, Nat.mod_self, Nat.zero_add,
      Nat.mod_eq_of_lt (show m - 1 < m by omega)]
    omega

/-- Over `m` matches, a step forward after a step back lands where it started. -/
theorem pred_mod_add_succ_mod {c m : Nat} (hc : c < m) : ((c + m - 1) % m + 1) % m = c := by
  rcases Nat.eq_zero_or_pos c with h0 | hpos
  · subst h0
    rw [Nat.zero_add, Nat.mod_eq_of_lt (show m - 1 < m by omega),
      Nat.sub_add_cancel (show 1 ≤ m by omega), Nat.mod_self]
  · rw [show c + m - 1 = c - 1 + m by omega, Nat.add_mod_right,
      Nat.mod_eq_of_lt (show c - 1 < m by omega), Nat.sub_add_cancel hpos, Nat.mod_eq_of_lt hc]

/-- A step forward over `m` matches moves the cursor from `c` to `(c + 1) % m`. -/
theorem advanceMatch_next_eq (h : f.CursorInRange) (hm : 0 < f.matchCount) :
    f.advanceMatch .next = { f with matchCursor := (f.matchCursor + 1) % f.matchCount } := by
  have hlt := h.lt hm
  simp only [advanceMatch, matchCount] at hm hlt ⊢
  rw [if_neg (by omega)]
  congr 1
  split
  · rw [show f.matchCursor + 1 = f.matchingIndexes.length by omega, Nat.mod_self]
  · rw [Nat.mod_eq_of_lt (show f.matchCursor + 1 < f.matchingIndexes.length by omega)]

/-- A step back over `m` matches moves the cursor from `c` to `(c + m - 1) % m`. -/
theorem advanceMatch_prev_eq (h : f.CursorInRange) (hm : 0 < f.matchCount) :
    f.advanceMatch .prev =
      { f with matchCursor := (f.matchCursor + f.matchCount - 1) % f.matchCount } := by
  have hlt := h.lt hm
  simp only [advanceMatch, matchCount] at hm hlt ⊢
  rw [if_neg (by omega)]
  congr 1
  split
  · -- the defensive branch for a cursor past the end is never taken
    rename_i hwrap
    have h0 : f.matchCursor = 0 := by simp at hwrap; omega
    rw [h0, Nat.zero_add,
      Nat.mod_eq_of_lt (show f.matchingIndexes.length - 1 < f.matchingIndexes.length by omega)]
  · rename_i hwrap
    have hpos : 0 < f.matchCursor := by simp at hwrap; omega
    rw [show f.matchCursor + f.matchingIndexes.length - 1 =
      f.matchCursor - 1 + f.matchingIndexes.length by omega, Nat.add_mod_right,
      Nat.mod_eq_of_lt (show f.matchCursor - 1 < f.matchingIndexes.length by omega)]

/-- A filter whose cursor is moved to a place below the number of matches. -/
theorem cursorInRange_withCursor (f : Filter) (c : Nat) (hc : c < f.matchCount) :
    ({ f with matchCursor := c } : Filter).CursorInRange :=
  ⟨fun hn => by simp only at hn; simp [matchCount, hn] at hc, fun _ => hc⟩

theorem CursorInRange.advanceMatch (h : f.CursorInRange) (s : MatchStep) :
    (f.advanceMatch s).CursorInRange := by
  rcases Nat.eq_zero_or_pos f.matchCount with hm | hm
  · -- without matches a step changes nothing
    have hnil : f.matchingIndexes.length = 0 := hm
    cases s <;> simpa [Filter.advanceMatch, hnil] using h
  · cases s with
    | next =>
        rw [advanceMatch_next_eq h hm]
        exact cursorInRange_withCursor f _ (Nat.mod_lt _ hm)
    | prev =>
        rw [advanceMatch_prev_eq h hm]
        exact cursorInRange_withCursor f _ (Nat.mod_lt _ hm)

theorem cursorInRange_setMatchingIndexes (f : Filter) (ixs : List Nat) :
    (f.setMatchingIndexes ixs).CursorInRange := by
  refine ⟨fun hn => ?_, fun hn => ?_⟩
  · simp only [setMatchingIndexes] at hn ⊢
    simp [hn]
  · simp only [setMatchingIndexes, matchCount] at hn ⊢
    have hpos : 0 < ixs.length := List.length_pos_iff.2 hn
    simp only [List.isEmpty_iff, hn, if_false]
    omega

theorem cursorInRange_resetMatchCursor (f : Filter) : f.resetMatchCursor.CursorInRange :=
  ⟨fun _ => rfl, fun hn => List.length_pos_iff.2 hn⟩

/-- Every call keeps the cursor in range. -/
theorem CursorInRange.perform (h : f.CursorInRange) (r : Request) :
    (f.perform r).CursorInRange := by
  cases r with
  | setText t => exact h.of_eq rfl rfl
  | setMode m => exact h.of_eq rfl rfl
  | edit r =>
      obtain ⟨i, p, he⟩ := edit_eq f r
      simp only [Filter.perform, he]
      exact h.of_eq rfl rfl
  | focus => exact h.of_eq rfl rfl
  | blur => exact h.of_eq rfl rfl
  | blurAndClear => exact ⟨fun _ => rfl, fun hn => absurd rfl hn⟩
  | setContextEnabled b => exact h.of_eq rfl rfl
  | setContextToggleAllowed b => exact h.of_eq rfl rfl
  | setMatchingIndexes ixs => exact cursorInRange_setMatchingIndexes f ixs
  | resetMatchCursor => exact cursorInRange_resetMatchCursor f
  | advanceMatch s => exact h.advanceMatch s

theorem CursorInRange.foldl_perform (h : f.CursorInRange) (rs : List Request) :
    (rs.foldl Filter.perform f).CursorInRange := by
  induction rs generalizing f with
  | nil => exact h
  | cons r rs ih => exact ih (h.perform r)

section Cycle

variable (h : f.CursorInRange) (hm : 0 < f.matchCount)
include h hm

/-- A step back undoes a step forward. -/
theorem advanceMatch_next_prev : (f.advanceMatch .next).advanceMatch .prev = f := by
  have h₁ := cursorInRange_withCursor f _ (Nat.mod_lt (f.matchCursor + 1) hm)
  rw [advanceMatch_next_eq h hm, advanceMatch_prev_eq h₁ hm]
  show { f with matchCursor := ((f.matchCursor + 1) % f.matchCount + f.matchCount - 1) %
    f.matchCount } = f
  rw [succ_mod_add_pred_mod (h.lt hm)]

/-- A step forward undoes a step back. -/
theorem advanceMatch_prev_next : (f.advanceMatch .prev).advanceMatch .next = f := by
  have h₁ := cursorInRange_withCursor f _
    (Nat.mod_lt (f.matchCursor + f.matchCount - 1) hm)
  rw [advanceMatch_prev_eq h hm, advanceMatch_next_eq h₁ hm]
  show { f with matchCursor := ((f.matchCursor + f.matchCount - 1) % f.matchCount + 1) %
    f.matchCount } = f
  rw [pred_mod_add_succ_mod (h.lt hm)]

/-- `k` steps forward move the cursor from `c` to `(c + k) % m`. -/
theorem iterate_advanceMatch_next (k : Nat) :
    (fun g : Filter => g.advanceMatch .next)^[k] f =
      { f with matchCursor := (f.matchCursor + k) % f.matchCount } := by
  induction k with
  | zero => simp [Nat.mod_eq_of_lt (h.lt hm)]
  | succ k ih =>
      rw [Function.iterate_succ_apply', ih,
        advanceMatch_next_eq (cursorInRange_withCursor f _ (Nat.mod_lt _ hm)) hm]
      simp only [matchCount, Nat.mod_add_mod, Nat.add_assoc]

/-- `k` steps back move the cursor from `c` to `(c + k (m - 1)) % m`. -/
theorem iterate_advanceMatch_prev (k : Nat) :
    (fun g : Filter => g.advanceMatch .prev)^[k] f =
      { f with matchCursor := (f.matchCursor + k * (f.matchCount - 1)) % f.matchCount } := by
  induction k with
  | zero => simp [Nat.mod_eq_of_lt (h.lt hm)]
  | succ k ih =>
      rw [Function.iterate_succ_apply', ih,
        advanceMatch_prev_eq (cursorInRange_withCursor f _ (Nat.mod_lt _ hm)) hm]
      have hstep : f.matchCursor + k * (f.matchCount - 1) + f.matchCount - 1 =
          f.matchCursor + (k + 1) * (f.matchCount - 1) := by
        rw [Nat.succ_mul]
        omega
      show { f with matchCursor := ((f.matchCursor + k * (f.matchCount - 1)) % f.matchCount +
          f.matchCount - 1) % f.matchCount } =
        { f with matchCursor := (f.matchCursor + (k + 1) * (f.matchCount - 1)) % f.matchCount }
      rw [Nat.add_sub_assoc hm, Nat.mod_add_mod, ← Nat.add_sub_assoc hm, hstep]

/-- `m` steps in one direction come back to the same filter. -/
theorem iterate_advanceMatch_matchCount :
    (fun g : Filter => g.advanceMatch .next)^[f.matchCount] f = f ∧
      (fun g : Filter => g.advanceMatch .prev)^[f.matchCount] f = f := by
  have hlt := h.lt hm
  constructor
  · rw [iterate_advanceMatch_next h hm, Nat.add_mod_right, Nat.mod_eq_of_lt hlt]
  · rw [iterate_advanceMatch_prev h hm, Nat.add_mul_mod_self_left,
      Nat.mod_eq_of_lt hlt]

end Cycle

/-- With matches in context, the current match is one of them. -/
theorem CursorInRange.currentMatchIndex_mem (h : f.CursorInRange)
    (hc : f.hasContextualMatches = true) : f.currentMatchIndex ∈ f.matchingIndexes := by
  simp only [hasContextualMatches, Bool.and_eq_true, Bool.not_eq_true', List.isEmpty_eq_false_iff]
    at hc
  obtain ⟨hctx, hne⟩ := hc
  have hlt : f.matchCursor < f.matchingIndexes.length := h.lt_of_ne_nil hne
  simp [currentMatchIndex, hctx, List.getElem?_eq_getElem hlt]

/-- Two runs of decimal digits, each followed by a character that is not a digit, are cut at the
same place. -/
theorem eq_of_digits_append_cons {d₁ d₂ r₁ r₂ : List Char} {x : Char}
    (h₁ : ∀ c ∈ d₁, c.isDigit = true) (h₂ : ∀ c ∈ d₂, c.isDigit = true) (hx : x.isDigit = false)
    (h : d₁ ++ x :: r₁ = d₂ ++ x :: r₂) : d₁ = d₂ ∧ r₁ = r₂ := by
  induction d₁ generalizing d₂ with
  | nil =>
      cases d₂ with
      | nil => simpa using h
      | cons c d₂ =>
          -- the separator would be a digit of the second run
          have hxc : x = c := (List.cons.inj h).1
          have hc := h₂ c List.mem_cons_self
          simp [← hxc, hx] at hc
  | cons c d₁ ih =>
      cases d₂ with
      | nil =>
          have hxc : c = x := (List.cons.inj h).1
          have hc := h₁ c List.mem_cons_self
          simp [hxc, hx] at hc
      | cons e d₂ =>
          rw [List.cons_append, List.cons_append] at h
          obtain ⟨rfl, htail⟩ := List.cons.inj h
          obtain ⟨rfl, rfl⟩ := ih (fun c hc => h₁ c (List.mem_cons_of_mem _ hc))
            (fun c hc => h₂ c (List.mem_cons_of_mem _ hc)) htail
          exact ⟨rfl, rfl⟩

theorem isDigit_of_mem_toDigits_ten {n : Nat} {c : Char} (h : c ∈ Nat.toDigits 10 n) :
    c.isDigit = true :=
  Nat.isDigit_of_mem_toDigits (by decide) (by decide) h

/-- A number is read back from its decimal digits. -/
theorem toDigits_ten_injective : Function.Injective (Nat.toDigits 10) := fun a b h => by
  rw [← @Nat.ofDigitChars_ten_toDigits a, h, Nat.ofDigitChars_ten_toDigits]

/-- A number's digits followed by `/`, a number's digits and `, ` give back both numbers. -/
theorem eq_of_position_chars {i n j m : Nat} {s t : List Char}
    (h : Nat.toDigits 10 i ++ '/' :: (Nat.toDigits 10 n ++ ',' :: ' ' :: s) =
      Nat.toDigits 10 j ++ '/' :: (Nat.toDigits 10 m ++ ',' :: ' ' :: t)) : i = j ∧ n = m := by
  obtain ⟨hi, hrest⟩ := eq_of_digits_append_cons (fun c hc => isDigit_of_mem_toDigits_ten hc)
    (fun c hc => isDigit_of_mem_toDigits_ten hc) (by decide) h
  obtain ⟨hn, -⟩ := eq_of_digits_append_cons (fun c hc => isDigit_of_mem_toDigits_ten hc)
    (fun c hc => isDigit_of_mem_toDigits_ten hc) (by decide) hrest
  exact ⟨toDigits_ten_injective hi, toDigits_ten_injective hn⟩

/-- A text that opens with a character other than a digit does not open with a number. -/
theorem cons_ne_toDigits_append {c : Char} (hc : c.isDigit = false) (l r : List Char) (n : Nat) :
    c :: l ≠ Nat.toDigits 10 n ++ r := by
  obtain ⟨d, ds, hd⟩ := List.exists_cons_of_ne_nil (@Nat.toDigits_ne_nil n 10)
  have hdig : d.isDigit = true := isDigit_of_mem_toDigits_ten (hd ▸ List.mem_cons_self)
  rw [hd, List.cons_append]
  intro h
  rw [(List.cons.inj h).1, hdig] at hc
  exact Bool.noConfusion hc

/-- A label suffix that opens with `(i/n, ` puts the cursor at `i` among `n` matches shown in
context. -/
theorem position_of_label_suffix {i n : Nat} {t : String}
    (h : f.label.suffix = "(" ++ toString i ++ "/" ++ toString n ++ ", " ++ t) :
    i = f.matchCursor + 1 ∧ n = f.matchCount ∧ f.context = true ∧ f.matchCount ≠ 0 := by
  have hl := congrArg String.toList h
  unfold label at hl
  split at hl
  · -- without a query there is no suffix
    split at hl <;> simp at hl
  · simp only at hl
    split at hl
    · simp at hl
      exact absurd hl (cons_ne_toDigits_append (by decide) _ _ i)
    split at hl
    · simp at hl
      exact absurd hl (cons_ne_toDigits_append (by decide) _ _ i)
    rename_i hctx hcount
    have hctx' : f.context = true := by simpa using hctx
    split at hl
    · simp at hl
      obtain ⟨hi, hn⟩ := eq_of_position_chars hl
      exact ⟨hi.symm, hn.symm, hctx', hcount⟩
    · simp at hl
      obtain ⟨hi, hn⟩ := eq_of_position_chars hl
      exact ⟨hi.symm, hn.symm, hctx', hcount⟩

/-- The match cursor stays in range and moves cyclically. After any run of calls from a new
filter: the cursor is zero when there are no matches and below their number `m` otherwise; with
`m > 0` a step forward takes the cursor `c` to `(c + 1) % m` and a step back to `(c + m - 1) % m`,
the two undo each other, and `m` steps either way return to the same filter; with matches in
context the current match index is one of the matches; and a label suffix that reads `(i/n, …)`
has `n = m` and `1 ≤ i ≤ n`. -/
theorem cursor_cycles_over_matches (hints : FilterHints) (rs : List Request) :
    let f := rs.foldl perform (new hints)
    (f.matchingIndexes = [] → f.matchCursor = 0) ∧
      (f.matchingIndexes ≠ [] → f.matchCursor < f.matchCount) ∧
      (0 < f.matchCount →
        (f.advanceMatch .next).matchCursor = (f.matchCursor + 1) % f.matchCount ∧
        (f.advanceMatch .prev).matchCursor =
          (f.matchCursor + f.matchCount - 1) % f.matchCount ∧
        (f.advanceMatch .next).advanceMatch .prev = f ∧
        (f.advanceMatch .prev).advanceMatch .next = f ∧
        (fun g : Filter => g.advanceMatch .next)^[f.matchCount] f = f ∧
        (fun g : Filter => g.advanceMatch .prev)^[f.matchCount] f = f) ∧
      (f.hasContextualMatches = true → f.currentMatchIndex ∈ f.matchingIndexes) ∧
      ∀ i n t, f.label.suffix = "(" ++ toString i ++ "/" ++ toString n ++ ", " ++ t →
        n = f.matchCount ∧ 1 ≤ i ∧ i ≤ n := by
  intro f
  have h : f.CursorInRange := (cursorInRange_new hints).foldl_perform rs
  refine ⟨h.zero_of_nil, h.lt_of_ne_nil, fun hm => ?_, h.currentMatchIndex_mem, ?_⟩
  · obtain ⟨hnext, hprev⟩ := iterate_advanceMatch_matchCount h hm
    refine ⟨by rw [advanceMatch_next_eq h hm], by rw [advanceMatch_prev_eq h hm],
      advanceMatch_next_prev h hm, advanceMatch_prev_next h hm, hnext, hprev⟩
  · intro i n t hs
    obtain ⟨hi, hn, -, hcount⟩ := position_of_label_suffix hs
    have hlt : f.matchCursor < f.matchCount := h.lt (Nat.pos_of_ne_zero hcount)
    exact ⟨hn, by omega, by omega⟩

end Filter

end LogBrowser
