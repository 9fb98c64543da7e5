import LogBrowser.Unicode.WordBreak
import LogBrowser.Unicode.Emoji
import LogBrowser.Unicode.Alphabetic
import LogBrowser.Unicode.Category

/-!
# Word boundaries

The word boundaries of Unicode text (UAX #29). The text between two neighbouring boundaries is a
segment: a word such as `foo.bar` or `3,14`, a run of spaces, or a single punctuation mark. A
segment that holds a letter or a digit counts as a word; the others are gaps between words.

`breaksAt` decides one boundary from the classes of the characters around it. Extenders, format
characters and joiners belong to the character before them (rule WB4), so the rules look through
them: `before` and `after` find the nearest character that is not one of them.
-/

namespace LogBrowser.Unicode.WordClass

/-- Classes that attach to the character before them (WB4). -/
def attaches (k : WordClass) : Bool :=
  k = .extend || k = .format || k = .zwj

/-- Line ends: carriage return, line feed and the other newlines. -/
def endsLine (k : WordClass) : Bool :=
  k = .newline || k = .cr || k = .lf

/-- Letters of alphabets and of Hebrew. -/
def letter (k : WordClass) : Bool :=
  k = .aLetter || k = .hebrewLetter

/-- Marks that may stand inside a word between letters. -/
def midLetterLike (k : WordClass) : Bool :=
  k = .midLetter || k = .midNumLet || k = .singleQuote

/-- Marks that may stand inside a number between digits. -/
def midNumLike (k : WordClass) : Bool :=
  k = .midNum || k = .midNumLet || k = .singleQuote

end LogBrowser.Unicode.WordClass

namespace LogBrowser.Text

open LogBrowser.Unicode

/-- The index of the nearest character at or before `j` that does not attach to the one before. -/
def skipBack (cls : Array WordClass) : Nat → Option Nat
  | 0 => match cls[0]? with
    | some k => if k.attaches then none else some 0
    | none => none
  | j + 1 => match cls[j + 1]? with
    | some k => if k.attaches then skipBack cls j else some (j + 1)
    | none => none

/-- The position that stands for the character at `j` when looking back from a boundary: the
character it attaches to, unless that is a line end or the start of the text. -/
def before (cls : Array WordClass) (j : Nat) : Nat :=
  match skipBack cls j with
  | some m => if (cls[m]?.getD .other).endsLine then j else m
  | none => j

/-- The index of the nearest character at or after `j` that does not attach to the one before. -/
def skipForward (cls : Array WordClass) (j : Nat) : Option Nat :=
  if j < cls.size then
    if (cls[j]?.getD .other).attaches then skipForward cls (j + 1) else some j
  else none
termination_by cls.size - j

/-- Whether the regional indicators ending at `j`, attached characters skipped, are odd in
number. -/
def oddIndicatorsAt (cls : Array WordClass) : Nat → Bool
  | 0 => cls[0]? = some .regionalIndicator
  | j + 1 => match cls[j + 1]? with
    | some .regionalIndicator => !(oddIndicatorsAt cls j)
    | some k => if k.attaches then oddIndicatorsAt cls j else false
    | none => false

/-- Whether a word boundary lies between the characters at `i - 1` and `i`, for `0 < i`. -/
def breaksAt (cls : Array WordClass) (pict : Array Bool) (i : Nat) : Bool :=
  let a := cls[i - 1]?.getD .other
  let b := cls[i]?.getD .other
  if a = .cr && b = .lf then false
  else if a.endsLine || b.endsLine then true
  else if a = .zwj && pict[i]?.getD false then false
  else if a = .wSegSpace && b = .wSegSpace then false
  else if b.attaches then false
  else
    let p := before cls (i - 1)
    let A := cls[p]?.getD .other
    let Z := if p = 0 then WordClass.other else cls[before cls (p - 1)]?.getD .other
    let C := match skipForward cls (i + 1) with
      | some q => cls[q]?.getD .other
      | none => .other
    if A.letter && b.letter then false
    else if A.letter && b.midLetterLike && C.letter then false
    else if A.midLetterLike && b.letter && Z.letter then false
    else if A = .hebrewLetter && b = .singleQuote then false
    else if A = .hebrewLetter && b = .doubleQuote && C = .hebrewLetter then false
    else if A = .doubleQuote && b = .hebrewLetter && Z = .hebrewLetter then false
    else if A = .numeric && b = .numeric then false
    else if A.letter && b = .numeric then false
    else if A = .numeric && b.letter then false
    else if A.midNumLike && b = .numeric && Z = .numeric then false
    else if A = .numeric && b.midNumLike && C = .numeric then false
    else if A = .katakana && b = .katakana then false
    else if (A.letter || A = .numeric || A = .katakana || A = .extendNumLet) && b = .extendNumLet then
      false
    else if A = .extendNumLet && (b.letter || b = .numeric || b = .katakana) then false
    else if A = .regionalIndicator && b = .regionalIndicator && oddIndicatorsAt cls p then false
    else true

/-- The segments of a text as `(start, stop)` character offsets, in order, covering the text. -/
def segments (cs : List Char) : List (Nat × Nat) :=
  let cls := (cs.map WordClass.of).toArray
  let pict := (cs.map extendedPictographic.contains).toArray
  let cuts := (List.range cs.length).filter (fun i => i ≠ 0 && breaksAt cls pict i)
  let starts := if cs.isEmpty then [] else 0 :: cuts
  starts.zip ((cuts ++ [cs.length]))

/-- Letters and digits of every script: the Alphabetic property or a numeric category. -/
def isAlphanumeric (c : Char) : Bool :=
  alphabetic.contains c || (Category.of c).major = 'N'

/-- The segments that hold a letter or a digit: the words of the text. -/
def words (cs : List Char) : List (Nat × Nat) :=
  (segments cs).filter fun (a, b) => ((cs.drop a).take (b - a)).any isAlphanumeric

end LogBrowser.Text
