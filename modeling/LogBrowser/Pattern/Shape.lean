import LogBrowser.Pattern.Syntax
import LogBrowser.Pattern.ByteSequences

/-!
# The shape of a pattern

Before a pattern is compiled into an automaton it is put into a simpler shape, and the size of
the automaton depends on that shape. The shape keeps what a pattern matches and drops what only
the syntax told apart:

* a character is its UTF-8 bytes, and adjacent literals in a sequence become one literal;
* a class is a set of code points (surrogates left out); a class of one character is that
  character's literal, and a class of no character is the pattern that never matches;
* sequences and alternations nested directly in their own kind are flattened, an empty part of
  a sequence is dropped, and a sequence or alternation of one part is that part;
* an alternation of single characters, or of classes, is one class, and an alternation of
  sequences that all start with the same parts has those parts taken out in front;
* a repetition of a pattern that only matches the empty text repeats at most once, `x{0}` is the
  empty pattern and `x{1}` is `x`.

The shape also carries the facts the compiler asks about: the least and the greatest number of
bytes a match can take (`none` when there is no least one, as for the pattern that never
matches, or no greatest one), and whether every match must start at the start of the text or end
at its end.
-/

namespace LogBrowser.Pattern

/-- A pattern in the shape an automaton is built from. -/
inductive Shape where
  /-- Matches the empty text. -/
  | empty
  /-- A nonempty string of bytes. -/
  | bytes (bs : List Nat)
  /-- One code point of a class: sorted ranges, at least two code points, or none at all for the
  pattern that never matches. -/
  | chars (ranges : List (Nat × Nat))
  /-- A zero-width condition. -/
  | look (a : Assertion)
  /-- A repetition, at least `min` and at most `max` times. -/
  | repeat (s : Shape) (min : Nat) (max : Option Nat)
  /-- A capture group. -/
  | capture (s : Shape)
  /-- Two or more parts one after another. -/
  | concat (ss : List Shape)
  /-- Two or more alternatives. -/
  | alt (ss : List Shape)
  deriving BEq, Repr, Inhabited

/-- Drops the surrogates from sorted ranges. -/
def withoutSurrogates (rs : List (Nat × Nat)) : List (Nat × Nat) :=
  rs.flatMap fun (a, b) =>
    (if a ≤ min b 0xD7FF then [(a, min b 0xD7FF)] else []) ++
      (if max a 0xE000 ≤ b then [(max a 0xE000, b)] else [])

/-- The code point after `n`, stepping over the surrogates. -/
def nextCode (n : Nat) : Nat := if n = 0xD7FF then 0xE000 else n + 1

/-- Joins sorted ranges of code points that touch, the surrogates not counting as a gap. -/
def joinRanges : List (Nat × Nat) → List (Nat × Nat)
  | [] => []
  | [r] => [r]
  | (a, b) :: (c, d) :: rest =>
    if c ≤ nextCode b then joinRanges ((a, max b d) :: rest) else (a, b) :: joinRanges ((c, d) :: rest)
termination_by rs => rs.length

/-- The shape of a class given by sorted, disjoint ranges. -/
def Shape.ofRanges (rs : List (Nat × Nat)) : Shape :=
  match joinRanges (withoutSurrogates rs) with
  | [(a, b)] => if a = b then .bytes (utf8Bytes a) else .chars [(a, b)]
  | rs => .chars rs

/-- The parts of a sequence, with nested sequences opened and empty parts dropped. -/
def sequenceParts : List Shape → List Shape
  | [] => []
  | .concat ss :: rest => ss ++ sequenceParts rest
  | .empty :: rest => sequenceParts rest
  | s :: rest => s :: sequenceParts rest

/-- Joins adjacent literals of a sequence into one. -/
def joinLiterals : List Shape → List Shape
  | [] => []
  | .bytes a :: rest =>
    match joinLiterals rest with
    | .bytes b :: more => .bytes (a ++ b) :: more
    | more => .bytes a :: more
  | s :: rest => s :: joinLiterals rest

/-- The shape of patterns one after another. -/
def Shape.concatOf (ss : List Shape) : Shape :=
  match joinLiterals (sequenceParts ss) with
  | [] => .empty
  | [s] => s
  | ss => .concat ss

/-- The alternatives of an alternation, with nested alternations opened. -/
def alternativeParts : List Shape → List Shape
  | [] => []
  | .alt ss :: rest => ss ++ alternativeParts rest
  | s :: rest => s :: alternativeParts rest

/-- The code point of a literal of exactly one character. -/
def singleCode? : Shape → Option Nat
  | .bytes bs =>
    match bs with
    | [a] => if a < 0x80 then some a else none
    | [a, b] => if 0xC2 ≤ a && a < 0xE0 then some ((a - 0xC0) * 64 + (b - 0x80)) else none
    | [a, b, c] =>
      if 0xE0 ≤ a && a < 0xF0 then some ((a - 0xE0) * 4096 + (b - 0x80) * 64 + (c - 0x80))
      else none
    | [a, b, c, d] =>
      if 0xF0 ≤ a && a < 0xF5 then
        some ((a - 0xF0) * 262144 + (b - 0x80) * 4096 + (c - 0x80) * 64 + (d - 0x80))
      else none
    | _ => none
  | _ => none

/-- The ranges of a class. -/
def classRanges? : Shape → Option (List (Nat × Nat))
  | .chars rs => some rs
  | _ => none

/-- The parts of a sequence, or none for any other shape. -/
def sequence? : Shape → Option (List Shape)
  | .concat ss => some ss
  | _ => none

/-- The length of the common start of two lists. -/
def commonStart : List Shape → List Shape → Nat
  | a :: as, b :: bs => if a == b then commonStart as bs + 1 else 0
  | _, _ => 0

/-- The shape of alternatives, each already in shape. The fuel bounds how often a common start
is taken out, which shortens every alternative. -/
def Shape.altWith : Nat → List Shape → Shape
  | fuel, ss =>
    match alternativeParts ss with
    | [] => .chars []
    | [s] => s
    | alts =>
      match alts.mapM singleCode? with
      | some cs => Shape.ofRanges (joinRanges ((cs.map fun c => (c, c)).mergeSort fun x y => x.1 ≤ y.1))
      | none =>
        match alts.mapM classRanges? with
        | some rss => Shape.ofRanges (joinRanges (rss.flatten.mergeSort fun x y => x.1 ≤ y.1))
        | none =>
          match fuel, alts.mapM sequence? with
          | fuel + 1, some (first :: others) =>
            let n := others.foldl (fun n s => min n (commonStart first s)) first.length
            if n = 0 then .alt alts
            else Shape.concatOf (first.take n ++
              [Shape.altWith fuel ((first :: others).map fun s => Shape.concatOf (s.drop n))])
          | _, _ => .alt alts

/-- The number of parts of the sequences among some alternatives, which bounds how often a
common start can be taken out. -/
def sequenceWeight (ss : List Shape) : Nat :=
  ((alternativeParts ss).map fun s => ((sequence? s).map List.length).getD 0).foldr (· + ·) 0 + 1

/-- The shape of alternatives, each already in shape. -/
def Shape.altOf (ss : List Shape) : Shape :=
  Shape.altWith (sequenceWeight ss) ss

mutual

/-- The least number of bytes a match takes; none for a pattern that never matches. -/
def Shape.minLen : Shape → Option Nat
  | .empty => some 0
  | .bytes bs => some bs.length
  | .chars [] => none
  | .chars ((a, _) :: _) => some (utf8Bytes a).length
  | .look _ => some 0
  | .repeat s lo _ => s.minLen.map (· * lo)
  | .capture s => s.minLen
  | .concat ss => minLenSum ss
  | .alt ss => minLenLeast ss

/-- The least lengths of patterns one after another, added up. -/
def minLenSum : List Shape → Option Nat
  | [] => some 0
  | s :: ss => do
    let a ← s.minLen
    let b ← minLenSum ss
    pure (a + b)

/-- The smallest of the least lengths of alternatives; none if one of them never matches. -/
def minLenLeast : List Shape → Option Nat
  | [] => none
  | [s] => s.minLen
  | s :: ss => do
    let a ← s.minLen
    let b ← minLenLeast ss
    pure (min a b)

end

mutual

/-- The greatest number of bytes a match takes; none when there is no bound, or no match. -/
def Shape.maxLen : Shape → Option Nat
  | .empty => some 0
  | .bytes bs => some bs.length
  | .chars [] => none
  | .chars rs => rs.getLast?.map fun (_, b) => (utf8Bytes b).length
  | .look _ => some 0
  | .repeat s _ hi => hi.bind fun m => s.maxLen.map (· * m)
  | .capture s => s.maxLen
  | .concat ss => maxLenSum ss
  | .alt ss => maxLenMost ss

/-- The greatest lengths of patterns one after another, added up. -/
def maxLenSum : List Shape → Option Nat
  | [] => some 0
  | s :: ss => do
    let a ← s.maxLen
    let b ← maxLenSum ss
    pure (a + b)

/-- The largest of the greatest lengths of alternatives; none if one of them has none. -/
def maxLenMost : List Shape → Option Nat
  | [] => none
  | [s] => s.maxLen
  | s :: ss => do
    let a ← s.maxLen
    let b ← maxLenMost ss
    pure (max a b)

end

mutual

/-- The height of a shape's tree. -/
def Shape.height : Shape → Nat
  | .repeat s _ _ => s.height + 1
  | .capture s => s.height + 1
  | .concat ss => heightMost ss + 1
  | .alt ss => heightMost ss + 1
  | _ => 0

/-- The greatest height in a list of shapes. -/
def heightMost : List Shape → Nat
  | [] => 0
  | s :: ss => max s.height (heightMost ss)

end

/-- Whether a pattern only ever matches the empty text. -/
def Shape.emptyWidth (s : Shape) : Bool := s.maxLen == some 0

/-- Whether the patterns of a list all only match the empty text. -/
def allEmptyWidth (ss : List Shape) : Bool := ss.all Shape.emptyWidth

mutual

/-- Whether every match starts at the start of the text. -/
def Shape.startsAnchored : Shape → Bool
  | .look a => a == .textStart
  | .repeat s lo _ => 0 < lo && s.startsAnchored
  | .capture s => s.startsAnchored
  | .concat ss => prefixAnchored ss
  | .alt ss => allStartAnchored ss
  | _ => false

/-- Whether a sequence is anchored at the start: some part is, and every part before it only
matches the empty text. -/
def prefixAnchored : List Shape → Bool
  | [] => false
  | s :: ss => s.startsAnchored || (s.emptyWidth && prefixAnchored ss)

/-- Whether all alternatives are anchored at the start. -/
def allStartAnchored : List Shape → Bool
  | [] => false
  | [s] => s.startsAnchored
  | s :: ss => s.startsAnchored && allStartAnchored ss

end

mutual

/-- Whether every match ends at the end of the text. -/
def Shape.endsAnchored : Shape → Bool
  | .look a => a == .textEnd
  | .repeat s lo _ => 0 < lo && s.endsAnchored
  | .capture s => s.endsAnchored
  | .concat ss => suffixAnchored ss
  | .alt ss => allEndAnchored ss
  | _ => false

/-- Whether a sequence is anchored at the end: some part is, and every part after it only
matches the empty text. -/
def suffixAnchored : List Shape → Bool
  | [] => false
  | s :: ss => suffixAnchored ss || (s.endsAnchored && allEmptyWidth ss)

/-- Whether all alternatives are anchored at the end. -/
def allEndAnchored : List Shape → Bool
  | [] => false
  | [s] => s.endsAnchored
  | s :: ss => s.endsAnchored && allEndAnchored ss

end

/-- The shape of a repetition of a pattern in shape. A pattern that only matches the empty text
is repeated at most once; `x{0}` is the empty pattern and `x{1}` is `x`. -/
def Shape.repeatOf (s : Shape) (lo : Nat) (hi : Option Nat) : Shape :=
  let (lo, hi) := if s.emptyWidth then (min lo 1, some ((hi.map (min · 1)).getD 1)) else (lo, hi)
  if lo = 0 && hi = some 0 then .empty
  else if lo = 1 && hi = some 1 then s
  else .repeat s lo hi

/-- The shape of a pattern. -/
def Shape.ofNode : Node → Shape
  | .empty => .empty
  | .literal c => .bytes (utf8Bytes c.toNat)
  | .set s => Shape.ofRanges s.ranges
  | .look a => .look a
  | .capture n => .capture (Shape.ofNode n)
  | .concat ns => Shape.concatOf (ns.map Shape.ofNode)
  | .alt ns => Shape.altOf (ns.map Shape.ofNode)
  | .repeat n lo hi => Shape.repeatOf (Shape.ofNode n) lo hi

theorem repeatOf_zero (s : Shape) (h : s.emptyWidth = false) : Shape.repeatOf s 0 (some 0) = .empty := by
  simp [Shape.repeatOf, h]

end LogBrowser.Pattern
