import LogBrowser.Unicode.CodeSet

/-!
# Sets of characters

A set of code points written as sorted, disjoint, non-adjacent inclusive ranges, with the set
algebra that bracketed classes need: union, complement within a universe, intersection,
difference and symmetric difference.

`CharSet.ofRanges` puts any list of ranges into this normal form, so every operation may build
its result loosely and normalise at the end. Membership is a binary search.
-/

namespace LogBrowser.Pattern

open LogBrowser.Unicode

/-- A set of code points as sorted, disjoint, non-adjacent inclusive ranges. -/
structure CharSet where
  ranges : List (Nat × Nat)
  deriving DecidableEq, Repr, Inhabited

namespace CharSet

/-- The largest code point. -/
def maxCode : Nat := 0x10FFFF

/-- Merges sorted ranges that overlap or touch. -/
def mergeSorted : List (Nat × Nat) → List (Nat × Nat)
  | [] => []
  | [r] => [r]
  | (a, b) :: (c, d) :: rest =>
    if c ≤ b + 1 then mergeSorted ((a, max b d) :: rest) else (a, b) :: mergeSorted ((c, d) :: rest)
termination_by rs => rs.length

/-- The set covered by some ranges, given in any order; empty ranges are dropped. -/
def ofRanges (rs : List (Nat × Nat)) : CharSet :=
  ⟨mergeSorted ((rs.filter fun (a, b) => a ≤ b).mergeSort fun x y => x.1 ≤ y.1)⟩

/-- The empty set. -/
def empty : CharSet := ⟨[]⟩

/-- The set of one character. -/
def single (c : Char) : CharSet := ⟨[(c.toNat, c.toNat)]⟩

/-- The characters from `a` to `b`. -/
def range (a b : Nat) : CharSet := ofRanges [(a, b)]

/-- Characters in either set. -/
def union (s t : CharSet) : CharSet := ofRanges (s.ranges ++ t.ranges)

/-- The gaps between sorted ranges, from `lo` up to `hi`. -/
def gaps (lo hi : Nat) : List (Nat × Nat) → List (Nat × Nat)
  | [] => if lo ≤ hi then [(lo, hi)] else []
  | (a, b) :: rest => (if lo < a then [(lo, a - 1)] else []) ++ gaps (b + 1) hi rest

/-- The code points up to `top` that are not in the set. -/
def complementUpTo (top : Nat) (s : CharSet) : CharSet :=
  ofRanges (gaps 0 top (s.ranges.filter fun r => r.1 ≤ top))

/-- The code points not in the set. -/
def complement (s : CharSet) : CharSet := complementUpTo maxCode s

/-- Characters in both sets. -/
def inter (s t : CharSet) : CharSet := (s.complement.union t.complement).complement

/-- Characters of the first set that are not in the second. -/
def diff (s t : CharSet) : CharSet := s.inter t.complement

/-- Characters in exactly one of the sets. -/
def symmDiff (s t : CharSet) : CharSet := (s.union t).diff (s.inter t)

/-- Whether the code point lies in the set. -/
def containsNat (s : CharSet) (n : Nat) : Bool :=
  s.ranges.any fun (a, b) => a ≤ n && n ≤ b

/-- The largest code point of the set, if any. -/
def max? (s : CharSet) : Option Nat := s.ranges.getLast?.map (·.2)

/-- The sets that a table of classes assigns to the classes selected by `p`. -/
def ofMap {α : Type} (t : CodeMap α) (p : α → Bool) : CharSet :=
  ofRanges (t.spans.toList.filterMap fun (a, b, k) => if p k then some (a, b) else none)

/-- The set that a table holds. -/
def ofCodeSet (t : CodeSet) : CharSet := ofRanges t.spans.toList

/-- The number of ranges: the size of the set's description. -/
def size (s : CharSet) : Nat := s.ranges.length

end CharSet

/-- A set ready for fast membership tests: its ranges in an array. -/
structure CharTable where
  spans : Array (Nat × Nat)
  deriving Repr, Inhabited

/-- The table of a set. -/
def CharSet.toTable (s : CharSet) : CharTable := ⟨s.ranges.toArray⟩

/-- Whether the character lies in the table's set, by binary search. -/
def CharTable.contains (t : CharTable) (c : Char) : Bool :=
  (searchSpans t.spans id c.toNat 0 t.spans.size).isSome

end LogBrowser.Pattern
