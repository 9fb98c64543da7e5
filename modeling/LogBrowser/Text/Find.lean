/-!
# Finding text in text

Substring search on lists of characters: whether a needle occurs, and where its occurrences
start when they are taken from left to right without overlapping, each search resuming after
the previous occurrence.
-/

namespace LogBrowser.Text

/-- Whether `needle` occurs in `hay`. -/
def isInfix (needle : List Char) : List Char → Bool
  | [] => needle.isEmpty
  | c :: cs => needle.isPrefixOf (c :: cs) || isInfix needle cs

/-- Whether the string `needle` occurs in `hay`. -/
def containsText (hay needle : String) : Bool :=
  isInfix needle.toList hay.toList

/-- The starts of the non-overlapping occurrences of a non-empty needle, left to right, counting
from `pos`. -/
def occurrencesFrom (needle : List Char) (pos : Nat) : List Char → List Nat
  | [] => []
  | c :: cs =>
    if needle ≠ [] && needle.isPrefixOf (c :: cs) then
      pos :: occurrencesFrom needle (pos + needle.length) ((c :: cs).drop needle.length)
    else occurrencesFrom needle (pos + 1) cs
termination_by cs => cs.length
decreasing_by
  all_goals simp_wf
  cases needle with
  | nil => simp_all
  | cons d ds => rw [List.length_cons]; omega

/-- The starts of the non-overlapping occurrences of `needle` in `hay`, left to right. -/
def occurrences (hay needle : List Char) : List Nat :=
  occurrencesFrom needle 0 hay

/-- Cuts the rest of a text at the occurrences of a non-empty needle, given the characters seen
since the last cut (reversed); each piece is marked `true` when it is an occurrence. -/
def markFrom (needle : List Char) (pending : List Char) : List Char → List (List Char × Bool)
  | [] => if pending.isEmpty then [] else [(pending.reverse, false)]
  | c :: cs =>
    if needle ≠ [] && needle.isPrefixOf (c :: cs) then
      (if pending.isEmpty then [] else [(pending.reverse, false)]) ++
        (needle, true) :: markFrom needle [] ((c :: cs).drop needle.length)
    else markFrom needle (c :: pending) cs
termination_by cs => cs.length
decreasing_by
  all_goals simp_wf
  cases needle with
  | nil => simp_all
  | cons d ds => rw [List.length_cons]; omega

/-- Cuts a text at the non-overlapping occurrences of a needle, marking the occurrences. An
empty needle leaves the text whole, and a text without pieces gives one empty piece. -/
def markOccurrences (text needle : List Char) : List (List Char × Bool) :=
  if needle.isEmpty then [(text, false)]
  else match markFrom needle [] text with
    | [] => [([], false)]
    | pieces => pieces

theorem isInfix_nil_left (hay : List Char) : isInfix [] hay = true := by
  cases hay <;> simp [isInfix]

end LogBrowser.Text
