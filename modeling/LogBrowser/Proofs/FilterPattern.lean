import LogBrowser.Proofs.MatchCursor
import LogBrowser.Filter.Label

/-!
# The compiled pattern follows the query

A filter keeps the pattern compiled from its query beside the query, a cache of the query and the
mode. Setting the query or the mode compiles it again, and so does an edit whenever the input
reports that it acted, which every edit that changes the text does. Clearing the query drops the
pattern without compiling the empty query. So in every filter reached from a new one the pattern
is the one the query and the mode give, except that without a query it may be missing
(`Filter.PatternFollows`).

With a query, what the filter accepts, whether it holds a valid pattern and how its label reads
depend on the query and the mode alone (`pattern_follows_query`): the cache is never stale where
it is read. Without a query every row passes, but a filter cleared in pattern mode reports no
valid pattern, although the empty pattern compiles (`blurAndClear_forgets_valid_pattern`).
-/

namespace LogBrowser

open LogBrowser.Pattern LogBrowser.Text

namespace Pattern

/-- The empty pattern compiles. Its shape is read off the equation of `Shape.ofNode`, which the
kernel does not unfold, and the size check then runs. -/
theorem Regex.compiles_empty : ∃ r, Regex.compile? "" = .ok r := by
  have hread : readPattern "" = .ok .empty := rfl
  have hfits : (Shape.ofNode .empty).fits = true := by
    rw [Shape.ofNode]
    decide +kernel
  unfold Regex.compile?
  rw [hread]
  simp only [bind, Except.bind, hfits, Bool.not_true, Bool.false_eq_true, if_false]
  exact ⟨_, rfl⟩

end Pattern

namespace Filter

/-- What a query accepts, read off the query and the mode alone: every row without a query; in
pattern mode a pattern that compiles must match somewhere in the row; otherwise the query must
occur in it. -/
def acceptsQuery (mode : FilterMode) (text row : String) : Bool :=
  if text = "" then true
  else match mode, Regex.compile? text with
    | .regex, .ok r => r.isMatch row
    | _, _ => containsText row text

/-- The pattern is the one the query and the mode give, or missing without a query. -/
def PatternFollows (f : Filter) : Prop :=
  f.pattern = compiled f.mode f.value ∨ (f.value = "" ∧ f.pattern = none)

variable {f : Filter}

theorem patternFollows_new (hints : FilterHints) : (new hints).PatternFollows := Or.inl rfl

theorem patternFollows_recompile (f : Filter) : f.recompile.PatternFollows := Or.inl rfl

/-- What `PatternFollows` reads is the query, the mode and the pattern. -/
theorem PatternFollows.of_eq {g : Filter} (h : f.PatternFollows) (hv : g.value = f.value)
    (hm : g.mode = f.mode) (hp : g.pattern = f.pattern) : g.PatternFollows := by
  unfold PatternFollows
  rw [hv, hm, hp]
  exact h

/-- An edit the input does not report as acting keeps the text, so the old pattern still
follows it. -/
theorem PatternFollows.edit (h : f.PatternFollows) (r : EditRequest) :
    (f.edit r).PatternFollows := by
  unfold Filter.edit
  split
  · exact h
  split
  · exact patternFollows_recompile _
  · rename_i hresp
    exact h.of_eq (text_apply_of_not_responds (Bool.eq_false_iff.2 hresp)) rfl rfl

theorem PatternFollows.perform (h : f.PatternFollows) (r : Request) :
    (f.perform r).PatternFollows := by
  cases r with
  | setText t => exact patternFollows_recompile _
  | setMode m => exact patternFollows_recompile _
  | edit r => exact h.edit r
  | blurAndClear => exact Or.inr ⟨rfl, rfl⟩
  | advanceMatch s =>
      obtain ⟨c, hc⟩ := advanceMatch_eq f s
      show (f.advanceMatch s).PatternFollows
      rw [hc]
      exact h.of_eq rfl rfl rfl
  -- the others leave the text, the mode and the pattern; a blur only moves the cursor
  | _ => exact h.of_eq rfl rfl rfl

theorem patternFollows_foldl_perform (hints : FilterHints) (rs : List Request) :
    (rs.foldl perform (new hints)).PatternFollows := by
  suffices hrun : ∀ f : Filter, f.PatternFollows → (rs.foldl perform f).PatternFollows from
    hrun _ (patternFollows_new hints)
  induction rs with
  | nil => exact fun _ h => h
  | cons r rs ih => exact fun f h => ih _ (h.perform r)

/-- With a query, the pattern is the compiled one. -/
theorem PatternFollows.eq_compiled (h : f.PatternFollows) (hv : f.value ≠ "") :
    f.pattern = compiled f.mode f.value :=
  h.resolve_right fun h' => hv h'.1

/-- The query compiles in pattern mode exactly when the compiler accepts it. -/
theorem compiled_isSome_iff (mode : FilterMode) (text : String) :
    (compiled mode text).isSome = true ↔ mode = .regex ∧ ∃ r, Regex.compile? text = .ok r := by
  cases mode with
  | plain => simp [compiled]
  | regex =>
      unfold compiled
      cases Regex.compile? text <;> simp

theorem PatternFollows.accepts (h : f.PatternFollows) (row : String) :
    f.accepts row = acceptsQuery f.mode f.value row := by
  unfold Filter.accepts acceptsQuery
  by_cases hv : f.value = ""
  · simp [hv]
  · have hempty : f.value.isEmpty = false := by simpa [String.isEmpty_iff] using hv
    rw [if_neg (by simp [hempty]), if_neg hv, h.eq_compiled hv]
    -- the compiled pattern is used exactly when the mode is a pattern and it compiles
    cases f.mode with
    | plain => rfl
    | regex =>
        unfold compiled
        cases Regex.compile? f.value <;> rfl

/-- A pattern that is present is the compiled query: the mode is a pattern and it compiles. -/
theorem PatternFollows.compiles_of_hasValidRegex (h : f.PatternFollows)
    (hvalid : f.hasValidRegex = true) : f.mode = .regex ∧ ∃ r, Regex.compile? f.value = .ok r := by
  rcases h with hp | ⟨-, hp⟩
  · rw [← compiled_isSome_iff, ← hp]
    exact hvalid
  · simp [hasValidRegex, hp] at hvalid

theorem PatternFollows.hasValidRegex_iff (h : f.PatternFollows) (hv : f.value ≠ "") :
    f.hasValidRegex = true ↔ f.mode = .regex ∧ ∃ r, Regex.compile? f.value = .ok r := by
  rw [← compiled_isSome_iff, ← h.eq_compiled hv]
  rfl

/-- With a query, the label calls the query an invalid pattern exactly when it is read as a
pattern and does not compile. -/
theorem PatternFollows.labelPrefix_invalid_iff (h : f.PatternFollows) (hv : f.value ≠ "") :
    f.label.labelPrefix = "invalid regex: " ↔
      f.mode = .regex ∧ ¬∃ r, Regex.compile? f.value = .ok r := by
  have hempty : f.value.isEmpty = false := by simpa [String.isEmpty_iff] using hv
  have hvalid := h.hasValidRegex_iff hv
  unfold label
  rw [if_neg (by simp [hempty])]
  dsimp only
  unfold hasValidRegex at hvalid
  cases hm : f.mode <;> cases hp : f.pattern.isSome <;> simp_all

/-- The compiled pattern never goes stale where it is read. In every filter reached from a new
one by any calls: every row passes without a query, and otherwise a row passes exactly when a
query read as a pattern that compiles matches somewhere in it, or, read as plain text or not
compiling, occurs in it; a valid pattern is held only in pattern mode for a query that compiles,
and with a query exactly then; and with a query the label reads `invalid regex: ` exactly when
the query is read as a pattern and does not compile. -/
theorem pattern_follows_query (hints : FilterHints) (rs : List Request) :
    let f := rs.foldl perform (new hints)
    (∀ row, f.accepts row = acceptsQuery f.mode f.value row) ∧
      (f.hasValidRegex = true → f.mode = .regex ∧ ∃ r, Regex.compile? f.value = .ok r) ∧
      (f.value ≠ "" →
        (f.hasValidRegex = true ↔ f.mode = .regex ∧ ∃ r, Regex.compile? f.value = .ok r) ∧
        (f.label.labelPrefix = "invalid regex: " ↔
          f.mode = .regex ∧ ¬∃ r, Regex.compile? f.value = .ok r)) := by
  intro f
  have h : f.PatternFollows := patternFollows_foldl_perform hints rs
  exact ⟨h.accepts, h.compiles_of_hasValidRegex,
    fun hv => ⟨h.hasValidRegex_iff hv, h.labelPrefix_invalid_iff hv⟩⟩

/-- A filter reading `[` as a pattern labels it invalid, and by `pattern_follows_query` the
label is right: `[` does not compile. -/
theorem pattern_follows_query_unclosed :
    let f := [Request.setMode .regex, .setText "["].foldl perform (new {})
    f.value ≠ "" ∧ f.label.labelPrefix = "invalid regex: " ∧
      f.mode = .regex ∧ ¬∃ r, Regex.compile? f.value = .ok r := by
  intro f
  have hv : f.value ≠ "" := by decide
  have hl : f.label.labelPrefix = "invalid regex: " := by decide
  exact ⟨hv, hl, ((pattern_follows_query {} [.setMode .regex, .setText "["]).2.2 hv).2.1 hl⟩

/-- Clearing a filter in pattern mode drops its pattern, and the empty query is not compiled
again, although it compiles: the filter reports no valid pattern in pattern mode for a query that
compiles. -/
theorem blurAndClear_forgets_valid_pattern :
    let f := [Request.setMode .regex, .blurAndClear].foldl perform (new {})
    f.value = "" ∧ f.mode = .regex ∧ (∃ r, Regex.compile? f.value = .ok r) ∧
      f.hasValidRegex = false := by
  exact ⟨rfl, rfl, Regex.compiles_empty, rfl⟩

end Filter

end LogBrowser
