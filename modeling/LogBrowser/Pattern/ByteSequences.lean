/-!
# UTF-8 byte sequences of a range of code points

The code points of a range, written in UTF-8, are the byte strings of a few sequences of byte
ranges: a byte string belongs to a sequence when it is as long as the sequence and each of its
bytes lies in the matching byte range. An automaton that reads bytes recognises the range by
following one path per sequence.

The range is cut into pieces until each piece encodes to one sequence:

* the surrogates `D800`–`DFFF` are not code points of any string, so a range across them is cut
  around them;
* a piece whose ends encode to different lengths is cut where the length changes
  (after `7F`, `7FF` and `FFFF`);
* a piece is cut where its ends differ above the last 6, 12 or 18 bits while the low bits of its
  start are not all zero, or those of its end not all one;

and a piece that survives the cuts encodes, byte by byte, to the ranges between the bytes of its
two ends. Pieces come out in increasing order.
-/

namespace LogBrowser.Pattern

/-- A range of bytes, both ends included. -/
abbrev ByteRange := Nat × Nat

/-- The UTF-8 encoding of a code point. -/
def utf8Bytes (n : Nat) : List Nat :=
  if n < 0x80 then [n]
  else if n < 0x800 then [0xC0 + n / 64, 0x80 + n % 64]
  else if n < 0x10000 then [0xE0 + n / 4096, 0x80 + n / 64 % 64, 0x80 + n % 64]
  else [0xF0 + n / 262144, 0x80 + n / 4096 % 64, 0x80 + n / 64 % 64, 0x80 + n % 64]

/-- Where a piece is cut because its ends encode to different lengths: the last code point of the
shorter length, if one lies inside the piece. -/
def lengthCut (s e : Nat) : Option Nat :=
  [0x7F, 0x7FF, 0xFFFF].find? fun m => s ≤ m && m < e

/-- Where a piece is cut so that its continuation bytes cover their full span: the end of the
first part and the start of the second. -/
def continuationCut (s e : Nat) : Option (Nat × Nat) :=
  [64, 4096, 262144].findSome? fun w =>
    if s / w = e / w then none
    else if s % w ≠ 0 then some (s - s % w + w - 1, s - s % w + w)
    else if e % w ≠ w - 1 then some (e - e % w - 1, e - e % w)
    else none

/-- The byte ranges of a piece that encodes to one sequence: the bytes of its two ends, paired. -/
def encodeRange (s e : Nat) : List ByteRange :=
  (utf8Bytes s).zip (utf8Bytes e)

/-- The sequences of the pieces waiting to be cut, the first piece first. -/
def sequencesOfPieces : Nat → List (Nat × Nat) → List (List ByteRange)
  | 0, _ => []
  | _, [] => []
  | fuel + 1, (s, e) :: rest =>
    if s < 0xE000 && 0xD7FF < e then
      sequencesOfPieces fuel ((s, 0xD7FF) :: (0xE000, e) :: rest)
    else if e < s then sequencesOfPieces fuel rest
    else match lengthCut s e with
      | some m => sequencesOfPieces fuel ((s, m) :: (m + 1, e) :: rest)
      | none =>
        if e ≤ 0x7F then [(s, e)] :: sequencesOfPieces fuel rest
        else match continuationCut s e with
          | some (a, b) => sequencesOfPieces fuel ((s, a) :: (b, e) :: rest)
          | none => encodeRange s e :: sequencesOfPieces fuel rest

/-- The byte-range sequences of the code points from `s` to `e`, in increasing order. No range
needs more than a few dozen cuts, so the fuel is never spent. -/
def byteSequences (s e : Nat) : List (List ByteRange) :=
  sequencesOfPieces 128 [(s, e)]

theorem utf8Bytes_ascii (n : Nat) (h : n < 0x80) : utf8Bytes n = [n] := by
  simp [utf8Bytes, h]

end LogBrowser.Pattern
