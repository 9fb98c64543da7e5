import LogBrowser.JsonText.Pretty
import Mathlib.Tactic.IntervalCases
import Mathlib.Tactic.SplitIfs

/-!
# Escapes in the rows of a log body

A JSON body is shown as the lines of its pretty printing, where the escape of a line feed inside
a string ends the row and the escape of a tab becomes four spaces (`bodyLines`). The rows are
made from the printed text by a plain scan from the left: every backslash followed by `t`
becomes four spaces, and the text breaks at every backslash followed by `n` (`expandPairs`).

In the printed text an escape is two characters from a backslash on, and a backslash of the data
is itself written as the escape `\\`. Reading the text escape by escape (`readEscapes`) shows
exactly the line feeds and tabs of the data. The plain scan does the same until an escape `\\`
stands right before an `n` or a `t`: it then pairs the second backslash with the letter, breaks
the row there and loses a backslash. That happens exactly when a key or a string of the data
holds a backslash right before an `n` or a `t`.

Main statement (`bodyLines_shows_escapes_iff`): the rows of a body are the ones it shows with
exactly its escapes of line feeds and tabs read (`shownBody`: a JSON object as the lines of its
printed text, any other text as one row as it is) if and only if none of its keys and strings
holds a backslash right before an `n` or a `t`. The value `C:\new` is such a string
(`bodyLines_splits_escaped_backslash`).
-/

namespace LogBrowser.JsonText

/-! ## The two readings of the printed text -/

/-- The text an escape `\d` shows: the escape of a line feed ends the row, that of a tab is four
spaces, and every other escape stays as it is written. -/
def shownEscape (d : Char) : List Char :=
  if d = 'n' then ['\n'] else if d = 't' then [' ', ' ', ' ', ' '] else ['\\', d]

/-- The printed text read escape by escape, each escape two characters from a backslash on,
with the escapes of line feeds and tabs shown as what they stand for. -/
def readEscapes : List Char → List Char
  | '\\' :: d :: rest => shownEscape d ++ readEscapes rest
  | c :: rest => c :: readEscapes rest
  | [] => []

/-- The rows a value is shown as when exactly the escapes of line feeds and tabs of its printed
text are read. -/
def shownRows (v : Value) : List String :=
  (splitLines (readEscapes (v.pretty 0).toList)).map String.ofList

/-- The printed text as the plain scan of the rows of a body leaves it: every backslash followed
by `n` becomes a line feed and every backslash followed by `t` four spaces. -/
def expandPairs : List Char → List Char
  | '\\' :: 'n' :: rest => '\n' :: expandPairs rest
  | '\\' :: 't' :: rest => ' ' :: ' ' :: ' ' :: ' ' :: expandPairs rest
  | c :: rest => c :: expandPairs rest
  | [] => []

/-- Whether, reading the text escape by escape, an escape `\\` stands right before an `n` or a
`t`. -/
def escapedBackslashBeforeNT : List Char → Bool
  | '\\' :: '\\' :: rest =>
    decide (rest.head? = some 'n' ∨ rest.head? = some 't') || escapedBackslashBeforeNT rest
  | '\\' :: _ :: rest => escapedBackslashBeforeNT rest
  | _ :: rest => escapedBackslashBeforeNT rest
  | [] => false

/-- Whether a backslash stands right before an `n` or a `t` in a text. -/
def backslashBeforeNT (s : List Char) : Bool := hasPair '\\' 'n' s || hasPair '\\' 't' s

mutual

/-- The keys and strings of a value, at any depth, in the order they are printed. -/
def Value.texts : Value → List String
  | .string s => [s]
  | .array vs => textsOfItems vs
  | .object ms => textsOfMembers ms
  | _ => []

/-- The keys and strings of the items of an array. -/
def textsOfItems : List Value → List String
  | [] => []
  | v :: vs => v.texts ++ textsOfItems vs

/-- The keys and strings of the members of an object. -/
def textsOfMembers : List (String × Value) → List String
  | [] => []
  | (k, v) :: ms => k :: (v.texts ++ textsOfMembers ms)

end

/-- The rows a body is shown as when exactly the escapes of line feeds and tabs are read: a JSON
object as the lines of its printed text, any other text as one row as it is. -/
def shownBody (text : String) : List String :=
  match readObjectText text with
  | none => [text]
  | some ms => shownRows (.object ms)

/-- The keys and strings of a body that is a JSON object; any other text has none. -/
def bodyTexts (text : String) : List String :=
  match readObjectText text with
  | none => []
  | some ms => (Value.object ms).texts

/-! ## Rows of a text -/

/-- Puts a character in front of the first of some rows. -/
def consRow (c : Char) : List (List Char) → List (List Char)
  | r :: rs => (c :: r) :: rs
  | [] => [[c]]

theorem consRow_append (c : Char) {R : List (List Char)} (h : R ≠ []) (S : List (List Char)) :
    consRow c (R ++ S) = consRow c R ++ S := by
  cases R with
  | nil => exact absurd rfl h
  | cons r rs => rfl

@[simp] theorem consRow_cons (c : Char) (r : List Char) (rs : List (List Char)) :
    consRow c (r :: rs) = (c :: r) :: rs := rfl

theorem consRow_ne_nil (c : Char) (R : List (List Char)) : consRow c R ≠ [] := by
  cases R <;> simp [consRow]

theorem splitLines_cons (c : Char) (cs : List Char) :
    splitLines (c :: cs) = if c = '\n' then [] :: splitLines cs else consRow c (splitLines cs) :=
  rfl

theorem splitLines_ne_nil (cs : List Char) : splitLines cs ≠ [] := by
  cases cs with
  | nil => simp [splitLines]
  | cons c cs =>
    rw [splitLines_cons]
    split
    · simp
    · exact consRow_ne_nil c _

/-- The first row of a text that starts with `d` is empty or starts with `d`. -/
theorem head_splitLines_cons (d : Char) (rest : List Char) :
    ∀ r ∈ (splitLines (d :: rest)).head?, r.head? = none ∨ r.head? = some d := by
  rw [splitLines_cons]
  split
  · simp
  · cases splitLines rest <;> simp [consRow]

/-- Joining the rows with line feeds gives the text back. -/
theorem intercalate_splitLines (cs : List Char) : ['\n'].intercalate (splitLines cs) = cs := by
  induction cs with
  | nil => rfl
  | cons c cs ih =>
    rw [splitLines_cons]
    split
    · rename_i hc
      rw [List.intercalate_cons_of_ne_nil (splitLines_ne_nil cs), ih, hc]
      rfl
    · obtain ⟨r, rs, hR⟩ := List.exists_cons_of_ne_nil (splitLines_ne_nil cs)
      rw [hR] at ih ⊢
      cases rs with
      | nil => simpa [consRow] using ih
      | cons r' rs => simpa [consRow, List.intercalate_cons_cons] using ih

theorem splitLines_injective : Function.Injective splitLines := fun a b h => by
  rw [← intercalate_splitLines a, h, intercalate_splitLines]

/-! ## The plain scan of the rows -/

theorem hasPair_cons (a b c : Char) (X : List Char) :
    hasPair a b (c :: X) = (decide (c = a ∧ X.head? = some b) || hasPair a b X) := by
  cases X <;> simp [hasPair]

theorem replacePair_of_hasPair {a b : Char} {rep L : List Char} (h : hasPair a b L = false) :
    replacePair a b rep L = L := by
  fun_induction replacePair a b rep L with
  | case1 => rfl
  | case2 => rfl
  | case3 c d rest hp => simp_all [hasPair]
  | case4 c d rest hp ih =>
    rw [hasPair_cons, Bool.or_eq_false_iff] at h
    rw [ih h.2]

theorem splitAtPair_of_hasPair {a b : Char} {L : List Char} (h : hasPair a b L = false) :
    splitAtPair a b L = [L] := by
  fun_induction splitAtPair a b L with
  | case1 => rfl
  | case2 => rfl
  | case3 c d rest hp => simp_all [hasPair]
  | case4 c d rest hp piece pieces hs ih =>
    rw [hasPair_cons, Bool.or_eq_false_iff] at h
    rw [ih h.2] at hs
    cases hs
    rfl
  | case5 c d rest hp hs ih =>
    rw [hasPair_cons, Bool.or_eq_false_iff] at h
    rw [ih h.2] at hs
    cases hs

theorem splitAtPair_ne_nil (a b : Char) (L : List Char) : splitAtPair a b L ≠ [] := by
  fun_induction splitAtPair a b L <;> simp_all

theorem replacePair_cons {a b c : Char} {rep X : List Char} (h : ¬(c = a ∧ X.head? = some b)) :
    replacePair a b rep (c :: X) = c :: replacePair a b rep X := by
  cases X with
  | nil => rfl
  | cons d rest =>
    simp only [List.head?_cons, Option.some.injEq] at h
    simp only [replacePair]
    rw [if_neg (by simpa using h)]

theorem splitAtPair_cons {a b c : Char} {X : List Char} (h : ¬(c = a ∧ X.head? = some b)) :
    splitAtPair a b (c :: X) = consRow c (splitAtPair a b X) := by
  cases X with
  | nil => rfl
  | cons d rest =>
    simp only [List.head?_cons, Option.some.injEq] at h
    simp only [splitAtPair]
    rw [if_neg (by simpa using h)]
    rfl

/-- Four spaces in place of a tab never start with a letter. -/
theorem head?_replacePair_tab {X : List Char} {x : Char} (hx : x ≠ ' ')
    (h : (replacePair '\\' 't' [' ', ' ', ' ', ' '] X).head? = some x) : X.head? = some x := by
  match X, h with
  | c :: d :: rest, h =>
    simp only [replacePair] at h
    split at h
    · simp at h
      exact absurd h.symm hx
    · exact h
  | [c], h => exact h

/-- Whatever the rows of a line, the escape form of the test is the one that runs. -/
theorem expandEscapes_eq (line : List Char) :
    expandEscapes line = splitAtPair '\\' 'n' (replacePair '\\' 't' [' ', ' ', ' ', ' '] line) := by
  unfold expandEscapes
  split
  · rfl
  · rename_i h
    simp only [Bool.or_eq_true, not_or, Bool.not_eq_true] at h
    rw [replacePair_of_hasPair h.2, splitAtPair_of_hasPair h.1]

theorem expandEscapes_ne_nil (line : List Char) : expandEscapes line ≠ [] := by
  rw [expandEscapes_eq]
  exact splitAtPair_ne_nil _ _ _

theorem expandEscapes_nil : expandEscapes [] = [[]] := rfl

theorem expandEscapes_backslash_n (r : List Char) :
    expandEscapes ('\\' :: 'n' :: r) = [] :: expandEscapes r := by
  rw [expandEscapes_eq, expandEscapes_eq, replacePair_cons (by simp), replacePair_cons (by simp)]
  simp [splitAtPair]

theorem expandEscapes_backslash_t (r : List Char) :
    expandEscapes ('\\' :: 't' :: r) =
      consRow ' ' (consRow ' ' (consRow ' ' (consRow ' ' (expandEscapes r)))) := by
  rw [expandEscapes_eq, expandEscapes_eq]
  simp only [replacePair, decide_true, Bool.and_self, ↓reduceIte, List.cons_append,
    List.nil_append]
  rw [splitAtPair_cons (by simp), splitAtPair_cons (by simp), splitAtPair_cons (by simp),
    splitAtPair_cons (by simp)]

/-- A character in front of a line that does not make an escape with what follows is put in
front of its first row. -/
theorem expandEscapes_cons {c : Char} {r : List Char}
    (h : c = '\\' → r.head? ≠ some 'n' ∧ r.head? ≠ some 't') :
    expandEscapes (c :: r) = consRow c (expandEscapes r) := by
  rw [expandEscapes_eq, expandEscapes_eq, replacePair_cons (fun hc => (h hc.1).2 hc.2)]
  exact splitAtPair_cons fun hc => (h hc.1).1 (head?_replacePair_tab (by decide) hc.2)

theorem flatMap_consRow {c : Char} {R : List (List Char)} (hR : R ≠ [])
    (h : c = '\\' → ∀ r ∈ R.head?, r.head? ≠ some 'n' ∧ r.head? ≠ some 't') :
    (consRow c R).flatMap expandEscapes = consRow c (R.flatMap expandEscapes) := by
  obtain ⟨r, rs, rfl⟩ := List.exists_cons_of_ne_nil hR
  rw [List.flatMap_cons, consRow_append c (expandEscapes_ne_nil r), ← expandEscapes_cons]
  · rfl
  · exact fun hc => h hc r rfl

/-- The rows of a body are the lines of the printed text after the plain scan. -/
theorem flatMap_expandEscapes_splitLines (T : List Char) :
    (splitLines T).flatMap expandEscapes = splitLines (expandPairs T) := by
  fun_induction expandPairs T with
  | case1 rest ih =>
    obtain ⟨r, rs, hR⟩ := List.exists_cons_of_ne_nil (splitLines_ne_nil rest)
    rw [splitLines_cons, if_neg (by decide), splitLines_cons, if_neg (by decide), hR]
    rw [hR] at ih
    simp only [consRow_cons, List.flatMap_cons, expandEscapes_backslash_n, List.cons_append] at ih ⊢
    rw [ih, splitLines_cons, if_pos rfl]
  | case2 rest ih =>
    obtain ⟨r, rs, hR⟩ := List.exists_cons_of_ne_nil (splitLines_ne_nil rest)
    rw [splitLines_cons, if_neg (by decide), splitLines_cons, if_neg (by decide), hR]
    rw [hR] at ih
    simp only [consRow_cons, List.flatMap_cons, expandEscapes_backslash_t] at ih ⊢
    have hne := expandEscapes_ne_nil r
    rw [← consRow_append _ (consRow_ne_nil _ _), ← consRow_append _ (consRow_ne_nil _ _),
      ← consRow_append _ (consRow_ne_nil _ _), ← consRow_append _ hne, ih]
    simp only [splitLines_cons, Char.reduceEq, ↓reduceIte]
  | case3 c rest hn ht ih =>
    rw [splitLines_cons, splitLines_cons]
    split
    · simp [expandEscapes_nil, ih]
    · rename_i hc
      -- the character joins the first row, which does not start an escape with it
      have hhead : c = '\\' → ∀ r ∈ (splitLines rest).head?,
          r.head? ≠ some 'n' ∧ r.head? ≠ some 't' := by
        intro hb r hr
        cases rest with
        | nil => simp_all [splitLines]
        | cons d rest' =>
          rcases head_splitLines_cons d rest' r hr with h | h <;> rw [h]
          · simp
          · exact ⟨fun e => hn rest' hb (by simp_all), fun e => ht rest' hb (by simp_all)⟩
      rw [flatMap_consRow (splitLines_ne_nil rest) hhead, ih]
  | case4 => rfl

/-! ## The plain scan against the reading escape by escape -/

theorem expandPairs_cons_of_ne {c : Char} (h : c ≠ '\\') (rest : List Char) :
    expandPairs (c :: rest) = c :: expandPairs rest :=
  expandPairs.eq_3 c rest (fun _ hc _ => h hc) (fun _ hc _ => h hc)

theorem escapedBackslashBeforeNT_cons_of_ne {c : Char} (h : c ≠ '\\') (rest : List Char) :
    escapedBackslashBeforeNT (c :: rest) = escapedBackslashBeforeNT rest := by
  cases rest with
  | nil => simp [escapedBackslashBeforeNT]
  | cons d rest => rw [escapedBackslashBeforeNT.eq_3 c (d :: rest) (fun _ hc _ => h hc)
      (fun _ _ hc _ => h hc)]

/-- The plain scan reads the printed text right exactly when no escape `\\` stands before an `n`
or a `t`. -/
theorem expandPairs_eq_readEscapes_iff (T : List Char) :
    expandPairs T = readEscapes T ↔ escapedBackslashBeforeNT T = false := by
  fun_induction readEscapes T with
  | case1 d rest ih =>
    by_cases hn : d = 'n'
    · subst hn
      simp [expandPairs, shownEscape, escapedBackslashBeforeNT, ih]
    by_cases ht : d = 't'
    · subst ht
      simp [expandPairs, shownEscape, escapedBackslashBeforeNT, ih]
    have hd : shownEscape d = ['\\', d] := by simp [shownEscape, hn, ht]
    rw [expandPairs.eq_3 '\\' (d :: rest) (by simp [hn]) (by simp [ht]), hd]
    by_cases hb : d = '\\'
    · subst hb
      -- the escape `\\`: the scan goes on from its second backslash
      cases rest with
      | nil => simp [expandPairs, readEscapes, escapedBackslashBeforeNT]
      | cons e rest' =>
        by_cases hen : e = 'n'
        · subst hen
          simp [expandPairs, escapedBackslashBeforeNT]
        by_cases het : e = 't'
        · subst het
          simp [expandPairs, escapedBackslashBeforeNT]
        rw [expandPairs.eq_3 '\\' (e :: rest') (by simp [hen]) (by simp [het])]
        simp [escapedBackslashBeforeNT, hen, het, ih]
    · rw [expandPairs_cons_of_ne hb, escapedBackslashBeforeNT.eq_2 d rest hb]
      simp [ih]
  | case2 c rest hc ih =>
    by_cases hb : c = '\\'
    · subst hb
      cases rest with
      | nil => simp [expandPairs, readEscapes, escapedBackslashBeforeNT]
      | cons d rest' => exact absurd rfl (hc d rest' rfl)
    · rw [expandPairs_cons_of_ne hb, escapedBackslashBeforeNT_cons_of_ne hb]
      simp [ih]
  | case3 => simp [expandPairs, escapedBackslashBeforeNT]

/-! ## The printed text of a value -/

theorem escapedBackslashBeforeNT_append_of_not_mem {A : List Char} (h : '\\' ∉ A)
    (W : List Char) : escapedBackslashBeforeNT (A ++ W) = escapedBackslashBeforeNT W := by
  induction A with
  | nil => rfl
  | cons c A ih =>
    rw [List.mem_cons, not_or] at h
    rw [List.cons_append, escapedBackslashBeforeNT_cons_of_ne (Ne.symm h.1), ih h.2]

theorem hexDigit_ne_backslash {n : Nat} (h : n < 16) : hexDigit n ≠ '\\' := by
  interval_cases n <;> decide

/-- An escape starts with a backslash, and a character written as itself starts with itself. -/
theorem head?_escapeChar_cases (d : Char) :
    (escapeChar d).head? = some '\\' ∨ (escapeChar d).head? = some d := by
  unfold escapeChar
  split_ifs <;> simp

/-- The printed form of a character starts with a letter exactly when it is that letter. -/
theorem head?_escapeChar {d x : Char} (hx : x = 'n' ∨ x = 't') :
    (escapeChar d).head? = some x ↔ d = x := by
  constructor
  · intro h
    rcases head?_escapeChar_cases d with hb | hd
    · rw [hb, Option.some.injEq] at h
      rcases hx with rfl | rfl <;> exact absurd h (by decide)
    · rw [hd, Option.some.injEq] at h
      exact h
  · rintro rfl
    rcases hx with rfl | rfl <;> decide

/-- Printed, a character other than the backslash is itself or an escape whose letter and digits
hold no backslash. -/
theorem escapeChar_of_ne {c : Char} (h : c ≠ '\\') :
    '\\' ∉ escapeChar c ∨ ∃ x r, escapeChar c = '\\' :: x :: r ∧ x ≠ '\\' ∧ '\\' ∉ r := by
  unfold escapeChar
  -- the branch of the backslash is ruled out by `h`
  split_ifs with h1 h2 h3 h4 h5 h6 h7
  · exact .inr ⟨'"', [], rfl, by decide, by decide⟩
  · exact .inr ⟨'n', [], rfl, by decide, by decide⟩
  · exact .inr ⟨'r', [], rfl, by decide, by decide⟩
  · exact .inr ⟨'t', [], rfl, by decide, by decide⟩
  · exact .inr ⟨'b', [], rfl, by decide, by decide⟩
  · exact .inr ⟨'f', [], rfl, by decide, by decide⟩
  · have hhi := hexDigit_ne_backslash (n := c.toNat / 16) (by omega)
    have hlo := hexDigit_ne_backslash (n := c.toNat % 16) (Nat.mod_lt _ (by decide))
    refine .inr ⟨'u', _, rfl, by decide, ?_⟩
    simp [Ne.symm hhi, Ne.symm hlo]
  · exact .inl (by simpa using Ne.symm h)

/-- Printed, a character makes an escape `\\` before an `n` or a `t` exactly when it is a
backslash and the text that follows starts with the letter. -/
theorem escapedBackslashBeforeNT_escapeChar_append (c : Char) (Z : List Char) :
    escapedBackslashBeforeNT (escapeChar c ++ Z) =
      (decide (c = '\\' ∧ (Z.head? = some 'n' ∨ Z.head? = some 't')) ||
        escapedBackslashBeforeNT Z) := by
  by_cases hc : c = '\\'
  · subst hc
    have he : escapeChar '\\' = ['\\', '\\'] := by decide
    simp [he, escapedBackslashBeforeNT]
  · rcases escapeChar_of_ne hc with h | ⟨x, r, he, hx, hr⟩
    · rw [escapedBackslashBeforeNT_append_of_not_mem h]
      simp [hc]
    · rw [he, List.cons_append, List.cons_append, escapedBackslashBeforeNT.eq_2 x _ hx,
        escapedBackslashBeforeNT_append_of_not_mem hr]
      simp [hc]

theorem backslashBeforeNT_cons (c : Char) (L : List Char) :
    backslashBeforeNT (c :: L) =
      (decide (c = '\\' ∧ (L.head? = some 'n' ∨ L.head? = some 't')) || backslashBeforeNT L) := by
  simp only [backslashBeforeNT, hasPair_cons]
  by_cases hc : c = '\\' <;> simp [hc, Bool.or_assoc, Bool.or_left_comm]

/-- The escaped characters of a string, then its closing quote: an escape `\\` before an `n` or
a `t` is there exactly when the string holds a backslash right before the letter. -/
theorem escapedBackslashBeforeNT_flatMap_escapeChar (L W : List Char) :
    escapedBackslashBeforeNT (L.flatMap escapeChar ++ '"' :: W) =
      (backslashBeforeNT L || escapedBackslashBeforeNT W) := by
  induction L with
  | nil =>
    simp [backslashBeforeNT, hasPair, escapedBackslashBeforeNT_cons_of_ne (by decide : '"' ≠ '\\')]
  | cons c L ih =>
    rw [List.flatMap_cons, List.append_assoc, escapedBackslashBeforeNT_escapeChar_append, ih,
      backslashBeforeNT_cons]
    -- what follows the character starts with a letter exactly when the next character is it
    have hhead : ∀ x, x = 'n' ∨ x = 't' →
        ((L.flatMap escapeChar ++ '"' :: W).head? = some x ↔ L.head? = some x) := by
      intro x hx
      cases L with
      | nil => rcases hx with rfl | rfl <;> simp
      | cons d L =>
        have hne : escapeChar d ≠ [] := by unfold escapeChar; split_ifs <;> simp
        obtain ⟨e, es, he⟩ := List.exists_cons_of_ne_nil hne
        have := head?_escapeChar (d := d) hx
        rw [he] at this
        simp_all
    have hn := hhead 'n' (.inl rfl)
    have ht := hhead 't' (.inr rfl)
    simp only [hn, ht, Bool.or_assoc]

theorem escapedBackslashBeforeNT_quote_append (s : String) (W : List Char) :
    escapedBackslashBeforeNT ((quote s).toList ++ W) =
      (backslashBeforeNT s.toList || escapedBackslashBeforeNT W) := by
  simp only [quote, String.toList_ofList, List.cons_append, List.append_assoc, List.nil_append]
  rw [escapedBackslashBeforeNT_cons_of_ne (by decide), escapedBackslashBeforeNT_flatMap_escapeChar]

theorem backslash_not_mem_natText (n : Nat) : '\\' ∉ (toString n).toList := by
  simp only [Nat.toString_eq_repr, Nat.toList_repr]
  intro h
  have := Nat.isDigit_of_mem_toDigits (by decide) (by decide) h
  simp at this

theorem backslash_not_mem_intText (n : Int) : '\\' ∉ (toString n).toList := by
  cases n with
  | ofNat m => exact backslash_not_mem_natText m
  | negSucc m =>
    show '\\' ∉ ("-" ++ toString (m + 1)).toList
    rw [String.toList_append, List.mem_append, not_or]
    exact ⟨by decide, backslash_not_mem_natText (m + 1)⟩

open LogBrowser.Number in
theorem backslash_not_mem_layout {ds : List Char} (h : '\\' ∉ ds) (k : Int) :
    '\\' ∉ (layout ds k).toList := by
  dsimp only [layout]
  split_ifs
  · simp [h]
  · simp only [String.toList_ofList, List.mem_append, List.mem_cons, not_or]
    exact ⟨fun hm => h (List.mem_of_mem_take hm), by decide, fun hm => h (List.mem_of_mem_drop hm)⟩
  · simp [h]
  · simp only [String.toList_append, List.mem_append, not_or]
    refine ⟨⟨?_, by decide⟩, ?_⟩
    · match ds, h with
      | [], _ => simp
      | [c], h => simpa using h
      | c :: d :: cs, h => simpa using h
    · unfold exponentText
      split_ifs
      · rw [String.toList_append, List.mem_append, not_or]
        exact ⟨by decide, backslash_not_mem_intText _⟩
      · rw [String.toList_append, List.mem_append, not_or]
        exact ⟨by decide, backslash_not_mem_intText _⟩

open LogBrowser.Number in
theorem backslash_not_mem_toText (x : Binary64) : '\\' ∉ x.toText.toList := by
  have hsign : '\\' ∉ (if x.negative then "-" else "").toList := by split <;> decide
  dsimp only [Binary64.toText]
  by_cases hm : x.mantissa = 0 <;>
    simp only [hm, ↓reduceIte, String.toList_append, List.mem_append, not_or]
  · exact ⟨hsign, by decide⟩
  · exact ⟨hsign, backslash_not_mem_layout (backslash_not_mem_natText _) _⟩

theorem backslash_not_mem_indentation (level : Nat) : '\\' ∉ (indentation level).toList := by
  simp [indentation, List.mem_replicate]

mutual

/-- The printed text of a value holds an escape `\\` before an `n` or a `t` exactly when one of
its keys and strings holds a backslash right before the letter. -/
theorem escapedBackslashBeforeNT_pretty_append (v : Value) (level : Nat) (W : List Char) :
    escapedBackslashBeforeNT ((v.pretty level).toList ++ W) =
      ((v.texts.any fun s => backslashBeforeNT s.toList) || escapedBackslashBeforeNT W) := by
  match v with
  | .null =>
    simp only [Value.pretty, Value.texts]
    rw [escapedBackslashBeforeNT_append_of_not_mem (by decide)]
    rfl
  | .bool b =>
    simp only [Value.pretty, Value.texts]
    rw [escapedBackslashBeforeNT_append_of_not_mem (by split <;> decide)]
    rfl
  | .unsigned n =>
    simp only [Value.pretty, Value.texts]
    rw [escapedBackslashBeforeNT_append_of_not_mem (backslash_not_mem_natText n)]
    rfl
  | .signed n =>
    simp only [Value.pretty, Value.texts]
    rw [escapedBackslashBeforeNT_append_of_not_mem (backslash_not_mem_intText n)]
    rfl
  | .float x =>
    simp only [Value.pretty, Value.texts]
    rw [escapedBackslashBeforeNT_append_of_not_mem (backslash_not_mem_toText x)]
    rfl
  | .string s =>
    simp only [Value.pretty, Value.texts, escapedBackslashBeforeNT_quote_append, List.any_cons,
      List.any_nil, Bool.or_false]
  | .array [] =>
    simp only [Value.pretty, Value.texts, textsOfItems]
    rw [escapedBackslashBeforeNT_append_of_not_mem (by decide)]
    rfl
  | .array (u :: us) =>
    simp only [Value.pretty, Value.texts, String.toList_append, List.append_assoc]
    rw [escapedBackslashBeforeNT_append_of_not_mem (by decide),
      escapedBackslashBeforeNT_prettyItems_append,
      escapedBackslashBeforeNT_append_of_not_mem (by decide),
      escapedBackslashBeforeNT_append_of_not_mem (backslash_not_mem_indentation level),
      escapedBackslashBeforeNT_append_of_not_mem (by decide)]
  | .object [] =>
    simp only [Value.pretty, Value.texts, textsOfMembers]
    rw [escapedBackslashBeforeNT_append_of_not_mem (by decide)]
    rfl
  | .object (m :: ms) =>
    simp only [Value.pretty, Value.texts, String.toList_append, List.append_assoc]
    rw [escapedBackslashBeforeNT_append_of_not_mem (by decide),
      escapedBackslashBeforeNT_prettyMembers_append,
      escapedBackslashBeforeNT_append_of_not_mem (by decide),
      escapedBackslashBeforeNT_append_of_not_mem (backslash_not_mem_indentation level),
      escapedBackslashBeforeNT_append_of_not_mem (by decide)]

theorem escapedBackslashBeforeNT_prettyItems_append (level : Nat) (vs : List Value)
    (W : List Char) :
    escapedBackslashBeforeNT ((prettyItems level vs).toList ++ W) =
      ((textsOfItems vs |>.any fun s => backslashBeforeNT s.toList) ||
        escapedBackslashBeforeNT W) := by
  match vs with
  | [] => rfl
  | [u] =>
    simp only [prettyItems, textsOfItems, String.toList_append, List.append_assoc, List.append_nil]
    rw [escapedBackslashBeforeNT_append_of_not_mem (backslash_not_mem_indentation level),
      escapedBackslashBeforeNT_pretty_append]
  | u :: u' :: us =>
    simp only [prettyItems, textsOfItems, String.toList_append, List.append_assoc, List.any_append,
      Bool.or_assoc]
    rw [escapedBackslashBeforeNT_append_of_not_mem (backslash_not_mem_indentation level),
      escapedBackslashBeforeNT_pretty_append, escapedBackslashBeforeNT_append_of_not_mem (by decide),
      escapedBackslashBeforeNT_prettyItems_append]
    simp only [textsOfItems, List.any_append, Bool.or_assoc]

theorem escapedBackslashBeforeNT_prettyMembers_append (level : Nat) (ms : List (String × Value))
    (W : List Char) :
    escapedBackslashBeforeNT ((prettyMembers level ms).toList ++ W) =
      ((textsOfMembers ms |>.any fun s => backslashBeforeNT s.toList) ||
        escapedBackslashBeforeNT W) := by
  match ms with
  | [] => rfl
  | [(k, u)] =>
    simp only [prettyMembers, textsOfMembers, String.toList_append, List.append_assoc,
      List.append_nil, List.any_cons, Bool.or_assoc]
    rw [escapedBackslashBeforeNT_append_of_not_mem (backslash_not_mem_indentation level),
      escapedBackslashBeforeNT_quote_append, escapedBackslashBeforeNT_append_of_not_mem (by decide),
      escapedBackslashBeforeNT_pretty_append]
  | (k, u) :: m' :: ms =>
    simp only [prettyMembers, textsOfMembers, String.toList_append, List.append_assoc,
      List.any_cons, List.any_append, Bool.or_assoc]
    rw [escapedBackslashBeforeNT_append_of_not_mem (backslash_not_mem_indentation level),
      escapedBackslashBeforeNT_quote_append, escapedBackslashBeforeNT_append_of_not_mem (by decide),
      escapedBackslashBeforeNT_pretty_append, escapedBackslashBeforeNT_append_of_not_mem (by decide),
      escapedBackslashBeforeNT_prettyMembers_append]
    simp only [textsOfMembers, List.any_cons, List.any_append, Bool.or_assoc]

end

/-! ## The rows of a body -/

/-- The rows of an object's body are the lines of its printed text after the plain scan. -/
theorem bodyLines_of_readObjectText {text : String} {ms : List (String × Value)}
    (h : readObjectText text = some ms) :
    bodyLines text =
      (splitLines (expandPairs ((Value.object ms).pretty 0).toList)).map String.ofList := by
  simp only [bodyLines, h, flatMap_expandEscapes_splitLines]

/-- A body is shown with exactly its escapes of line feeds and tabs read, an object as the lines
of its printed text and any other text as one row, if and only if no key or string of it holds a
backslash right before an `n` or a `t`. -/
theorem bodyLines_shows_escapes_iff (text : String) :
    bodyLines text = shownBody text ↔ ∀ s ∈ bodyTexts text, backslashBeforeNT s.toList = false := by
  unfold shownBody bodyTexts
  cases h : readObjectText text with
  | none => simp [bodyLines, h]
  | some ms =>
    have hflag := escapedBackslashBeforeNT_pretty_append (.object ms) 0 []
    rw [List.append_nil] at hflag
    -- equal rows are equal texts, and the two readings agree exactly when the flag is down
    simp only
    rw [bodyLines_of_readObjectText h, shownRows,
      List.map_inj_right (fun _ _ e => String.ofList_injective e), splitLines_injective.eq_iff,
      expandPairs_eq_readEscapes_iff, hflag]
    simp [escapedBackslashBeforeNT]

/-- The escapes of the trace `at a`, line feed, tab, `at b` are read. -/
theorem bodyLines_shows_escapes_trace :
    bodyLines "\x7b\"trace\":\"at a\\n\\tat b\"\x7d" =
      shownBody "\x7b\"trace\":\"at a\\n\\tat b\"\x7d" :=
  (bodyLines_shows_escapes_iff _).2 (by decide +kernel)

/-- The value `C:\new`, its backslash printed as the escape `\\`: the row breaks after the first
backslash and the second is lost, where reading the escapes keeps `C:\\new` on one row. -/
theorem bodyLines_splits_escaped_backslash :
    bodyLines "\x7b\"path\":\"C:\\\\new\"\x7d" = ["\x7b", "    \"path\": \"C:\\", "ew\"", "\x7d"] ∧
      shownBody "\x7b\"path\":\"C:\\\\new\"\x7d" = ["\x7b", "    \"path\": \"C:\\\\new\"", "\x7d"] := by
  decide +kernel

end LogBrowser.JsonText
