import LogBrowser.Pattern.CharSet
import LogBrowser.Unicode.Category
import LogBrowser.Unicode.Alphabetic
import LogBrowser.Unicode.CaseFold

/-!
# Named classes of characters

The classes a pattern can name: the digit, space and word classes (Unicode or ASCII), the
bracketed ASCII classes such as `[:alpha:]`, and the general categories by their loose names
(lowercase, without spaces, underscores or hyphens).

Ignoring case widens a set to the case orbits of its members (`CharSet.caseFold`), using simple
case folding; ASCII patterns fold only the Latin letters.
-/

namespace LogBrowser.Pattern

open LogBrowser.Unicode

/-- The code points that have some category other than unassigned. -/
def assigned : CharSet := CharSet.ofMap categoryTable fun _ => true

/-- The code points whose general category is selected; unassigned code points have `Cn`. -/
def categories (p : Category → Bool) : CharSet :=
  if p .Cn then (CharSet.ofMap categoryTable p).union assigned.complement
  else CharSet.ofMap categoryTable p

/-- The White_Space property as ranges. -/
def blankRanges : List (Nat × Nat) :=
  [(0x09, 0x0D), (0x20, 0x20), (0x85, 0x85), (0xA0, 0xA0), (0x1680, 0x1680), (0x2000, 0x200A),
    (0x2028, 0x2029), (0x202F, 0x202F), (0x205F, 0x205F), (0x3000, 0x3000)]

/-- Decimal digits of every script. -/
def unicodeDigit : CharSet := categories (· = .Nd)

/-- White space of every script. -/
def unicodeSpace : CharSet := CharSet.ofRanges blankRanges

/-- Word characters: alphabetic characters, marks, decimal digits, connector punctuation and the
two joiners. -/
def unicodeWord : CharSet :=
  (CharSet.ofCodeSet alphabetic).union
    ((categories fun k => k.major = 'M' || k = .Nd || k = .Pc).union (CharSet.range 0x200C 0x200D))

/-- ASCII digits. -/
def asciiDigit : CharSet := CharSet.range 0x30 0x39

/-- ASCII white space: tab, line feed, vertical tab, form feed, carriage return and space. -/
def asciiSpace : CharSet := CharSet.ofRanges [(0x09, 0x0D), (0x20, 0x20)]

/-- ASCII word characters: letters, digits and underscore. -/
def asciiWord : CharSet := CharSet.ofRanges [(0x30, 0x39), (0x41, 0x5A), (0x5F, 0x5F), (0x61, 0x7A)]

/-- The bracketed ASCII class of a name, such as `alpha` in `[:alpha:]`. -/
def asciiClass? : String → Option CharSet
  | "alnum" => some (CharSet.ofRanges [(0x30, 0x39), (0x41, 0x5A), (0x61, 0x7A)])
  | "alpha" => some (CharSet.ofRanges [(0x41, 0x5A), (0x61, 0x7A)])
  | "ascii" => some (CharSet.range 0 0x7F)
  | "blank" => some (CharSet.ofRanges [(0x09, 0x09), (0x20, 0x20)])
  | "cntrl" => some (CharSet.ofRanges [(0, 0x1F), (0x7F, 0x7F)])
  | "digit" => some asciiDigit
  | "graph" => some (CharSet.range 0x21 0x7E)
  | "lower" => some (CharSet.range 0x61 0x7A)
  | "print" => some (CharSet.range 0x20 0x7E)
  | "punct" => some (CharSet.ofRanges [(0x21, 0x2F), (0x3A, 0x40), (0x5B, 0x60), (0x7B, 0x7E)])
  | "space" => some asciiSpace
  | "upper" => some (CharSet.range 0x41 0x5A)
  | "word" => some asciiWord
  | "xdigit" => some (CharSet.ofRanges [(0x30, 0x39), (0x41, 0x46), (0x61, 0x66)])
  | _ => none

/-- The general categories a loose name stands for. -/
def categoryByName? : String → Option (Category → Bool)
  | "l" | "letter" => some fun k => k.major = 'L'
  | "lu" | "uppercaseletter" => some (· = .Lu)
  | "ll" | "lowercaseletter" => some (· = .Ll)
  | "lt" | "titlecaseletter" => some (· = .Lt)
  | "lc" | "casedletter" => some fun k => k = .Lu || k = .Ll || k = .Lt
  | "lm" | "modifierletter" => some (· = .Lm)
  | "lo" | "otherletter" => some (· = .Lo)
  | "m" | "mark" | "combiningmark" => some fun k => k.major = 'M'
  | "mn" | "nonspacingmark" => some (· = .Mn)
  | "mc" | "spacingmark" => some (· = .Mc)
  | "me" | "enclosingmark" => some (· = .Me)
  | "n" | "number" => some fun k => k.major = 'N'
  | "nd" | "decimalnumber" | "digit" => some (· = .Nd)
  | "nl" | "letternumber" => some (· = .Nl)
  | "no" | "othernumber" => some (· = .No)
  | "p" | "punctuation" | "punct" => some fun k => k.major = 'P'
  | "pc" | "connectorpunctuation" => some (· = .Pc)
  | "pd" | "dashpunctuation" => some (· = .Pd)
  | "ps" | "openpunctuation" => some (· = .Ps)
  | "pe" | "closepunctuation" => some (· = .Pe)
  | "pi" | "initialpunctuation" => some (· = .Pi)
  | "pf" | "finalpunctuation" => some (· = .Pf)
  | "po" | "otherpunctuation" => some (· = .Po)
  | "s" | "symbol" => some fun k => k.major = 'S'
  | "sm" | "mathsymbol" => some (· = .Sm)
  | "sc" | "currencysymbol" => some (· = .Sc)
  | "sk" | "modifiersymbol" => some (· = .Sk)
  | "so" | "othersymbol" => some (· = .So)
  | "z" | "separator" => some fun k => k.major = 'Z'
  | "zs" | "spaceseparator" => some (· = .Zs)
  | "zl" | "lineseparator" => some (· = .Zl)
  | "zp" | "paragraphseparator" => some (· = .Zp)
  | "c" | "other" => some fun k => k.major = 'C'
  | "cc" | "control" | "cntrl" => some (· = .Cc)
  | "cf" | "format" => some (· = .Cf)
  | "co" | "privateuse" => some (· = .Co)
  | "cs" | "surrogate" => some (· = .Cs)
  | "cn" | "unassigned" => some (· = .Cn)
  | _ => none

/-- The code points reached from the set's members by one step along their case orbits. -/
def caseStep (s : CharSet) : CharSet :=
  s.union (CharSet.ofRanges (caseOrbitTable.spans.toList.filterMap fun (a, _, next) =>
    if s.containsNat a then some (next, next) else none))

/-- The set widened to every case variant of its members; orbits have at most four members. -/
def CharSet.caseFold (s : CharSet) : CharSet :=
  caseStep (caseStep (caseStep s))

/-- The set widened to the other case of its ASCII letters. -/
def CharSet.asciiCaseFold (s : CharSet) : CharSet :=
  let upper := CharSet.range 0x41 0x5A
  let lower := CharSet.range 0x61 0x7A
  let shift (t : CharSet) (up : Bool) : CharSet :=
    CharSet.ofRanges (t.ranges.map fun (a, b) => if up then (a + 32, b + 32) else (a - 32, b - 32))
  s.union ((shift (s.inter upper) true).union (shift (s.inter lower) false))

end LogBrowser.Pattern
