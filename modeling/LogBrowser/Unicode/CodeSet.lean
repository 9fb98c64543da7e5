/-!
# Sets and maps of code points

A Unicode property is kept as sorted, disjoint, inclusive intervals of code points. The table
modules write them as compact hexadecimal text (`"300-36F 483-489"`, or `"300-36F:E"` when each
interval carries a class letter), which is read once into an array and then searched by halving.
The tables of display width (East Asian wide, zero width, emoji and Arabic joining) are written
as arrays of intervals instead: reading text splits it by well-founded recursion, which a proof
cannot evaluate, and with the arrays the width of a given character can be evaluated in one.

The lookup is a plain binary search over `[lo, hi)` on the interval starts; it terminates
because the searched interval shrinks, and it answers `none` for a code point in no interval.
-/

namespace LogBrowser.Unicode

/-- A set of code points, as sorted, disjoint, inclusive intervals. -/
structure CodeSet where
  spans : Array (Nat × Nat)

/-- A partial map from code points to a class, as sorted, disjoint, inclusive intervals. -/
structure CodeMap (α : Type) where
  spans : Array (Nat × Nat × α)

/-- The value of a hexadecimal digit, if it is one. -/
def hexDigit? (c : Char) : Option Nat :=
  if '0' ≤ c ∧ c ≤ '9' then some (c.toNat - '0'.toNat)
  else if 'A' ≤ c ∧ c ≤ 'F' then some (c.toNat - 'A'.toNat + 10)
  else if 'a' ≤ c ∧ c ≤ 'f' then some (c.toNat - 'a'.toNat + 10)
  else none

/-- Reads hexadecimal digits; other characters are skipped. -/
def readHex (s : String) : Nat :=
  s.toList.foldl (fun n c => match hexDigit? c with
    | some d => 16 * n + d
    | none => n) 0

/-- Reads `"lo-hi"` or a single `"cp"` as an inclusive interval. -/
def readSpan (s : String) : Nat × Nat :=
  match s.splitOn "-" with
  | [a, b] => (readHex a, readHex b)
  | _ => (readHex s, readHex s)

/-- Reads the space-separated intervals of a table text. -/
def CodeSet.ofHex (s : String) : CodeSet :=
  ⟨((s.splitOn " ").filter (· ≠ "")).map readSpan |>.toArray⟩

/-- Reads the space-separated `interval:class` items of a table text, decoding each class. -/
def CodeMap.ofHex {α : Type} (decode : String → Option α) (s : String) : CodeMap α :=
  ⟨((s.splitOn " ").filter (· ≠ "")).filterMap (fun item =>
    match item.splitOn ":" with
    | [span, cls] => (decode cls).map fun a => ((readSpan span).1, (readSpan span).2, a)
    | _ => none) |>.toArray⟩

/-- The entry of `a` whose interval holds `c`, searching the positions `[lo, hi)`. -/
def searchSpans {β : Type} (a : Array β) (bounds : β → Nat × Nat) (c lo hi : Nat) : Option β :=
  if lo < hi then
    match a[(lo + hi) / 2]? with
    | none => none
    | some b =>
      if c < (bounds b).1 then searchSpans a bounds c lo ((lo + hi) / 2)
      else if (bounds b).2 < c then searchSpans a bounds c ((lo + hi) / 2 + 1) hi
      else some b
  else none
termination_by hi - lo

/-- Whether the code point `c` lies in the set. -/
def CodeSet.containsNat (t : CodeSet) (c : Nat) : Bool :=
  (searchSpans t.spans id c 0 t.spans.size).isSome

/-- Whether the character lies in the set. -/
def CodeSet.contains (t : CodeSet) (c : Char) : Bool :=
  t.containsNat c.toNat

/-- The class of the code point `c`, if some interval holds it. -/
def CodeMap.findNat? {α : Type} (t : CodeMap α) (c : Nat) : Option α :=
  (searchSpans t.spans (fun e => (e.1, e.2.1)) c 0 t.spans.size).map (·.2.2)

/-- The class of the character, if some interval holds it. -/
def CodeMap.find? {α : Type} (t : CodeMap α) (c : Char) : Option α :=
  t.findNat? c.toNat

theorem searchSpans_of_le {β : Type} (a : Array β) (bounds : β → Nat × Nat) (c lo hi : Nat)
    (h : hi ≤ lo) : searchSpans a bounds c lo hi = none := by
  rw [searchSpans]
  simp [Nat.not_lt.mpr h]

end LogBrowser.Unicode
