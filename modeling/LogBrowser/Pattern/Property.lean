import LogBrowser.Pattern.Classes
import LogBrowser.Unicode.Script
import LogBrowser.Unicode.Age
import LogBrowser.Unicode.Property
import LogBrowser.Unicode.GraphemeBreak
import LogBrowser.Unicode.WordBreak
import LogBrowser.Unicode.SentenceBreak

/-!
# Unicode properties by name

The sets that `\p{...}` can name. A bare name is, in this order of trial, a binary property
(`Alphabetic`, `White_Space`, ...), a general category (or `Any`, `ASCII`, `Assigned`), or a
script. A name with a value (`name=value`, `name:value`, or `name!=value` for the complement)
selects by the General_Category, Script, Script_Extensions, Age, Grapheme_Cluster_Break,
Word_Break or Sentence_Break property; an age selects every code point assigned up to that
version.

Names and values are compared in their symbolic form (`symbolicName`): an `is` prefix, spaces,
underscores, hyphens and non-ASCII characters are dropped and ASCII letters lowered. The short
names `cf`, `sc` and `lc` are also names of properties that cannot be used bare, so a bare one
always stands for its general category. A value that no code point has (such as the break class
Other, or the script Unknown) names nothing.
-/

namespace LogBrowser.Pattern

open LogBrowser.Unicode

/-- The symbolic form of a property name or value: a leading `is` (in any case) is dropped, then
spaces, underscores, hyphens and non-ASCII characters, and ASCII letters are lowered. A name
that comes down to `is` and `c` keeps its prefix, because `isc` is a name of its own. -/
def symbolicName (s : String) : String :=
  let cs := s.toList
  let (prefixed, rest) := match cs with
    | a :: b :: rest => if (a = 'i' || a = 'I') && (b = 's' || b = 'S') then (true, rest)
      else (false, cs)
    | _ => (false, cs)
  let kept := rest.filterMap fun c =>
    if c = ' ' || c = '_' || c = '-' || 0x7F < c.toNat then none else some c.toLower
  if prefixed && kept = ['c'] then "isc" else String.ofList kept

/-- Whether one of the names has the given symbolic form. -/
def namesMatch (names : List String) (key : String) : Bool :=
  names.any fun n => symbolicName n == key

/-- A set that names something: nothing when it is empty. -/
def nonEmpty? (s : CharSet) : Option CharSet :=
  if s.ranges.isEmpty then none else some s

/-- The binary property of a symbolic name. -/
def binaryProperty? (key : String) : Option CharSet :=
  (binaryProperties.find? fun (names, _) => namesMatch names key).map
    fun (_, set) => CharSet.ofCodeSet set

/-- The general category of a symbolic name, or the whole range, the ASCII range or the assigned
code points. -/
def generalCategory? (key : String) : Option CharSet :=
  match key with
  | "any" => some (CharSet.range 0 CharSet.maxCode)
  | "ascii" => some (CharSet.range 0 0x7F)
  | "assigned" => some assigned
  | _ => (categoryByName? key).map categories

/-- The number of the script of a symbolic name. -/
def scriptNumber? (key : String) : Option Nat :=
  (scriptNames.zipIdx.find? fun (names, _) => namesMatch names key).map (·.2)

/-- The code points of a script. -/
def scriptSet? (key : String) : Option CharSet :=
  (scriptNumber? key).bind fun i => nonEmpty? (CharSet.ofMap scriptTable (· == i))

/-- The code points whose script extensions hold a script. -/
def scriptExtensionSet? (key : String) : Option CharSet :=
  (scriptNumber? key).bind fun i => nonEmpty? (CharSet.ofMap scriptExtensionTable (·.contains i))

/-- The names of a version of Unicode: `major.minor` and `Vmajor_minor`. -/
def ageNamesOf (v : Nat × Nat) : List String :=
  [toString v.1 ++ "." ++ toString v.2, "V" ++ toString v.1 ++ "_" ++ toString v.2]

/-- The code points assigned up to a version. -/
def ageSet? (key : String) : Option CharSet :=
  (ageNames.zipIdx.find? fun (v, _) => namesMatch (ageNamesOf v) key).map
    fun (_, i) => CharSet.ofMap ageTable (· ≤ i)

/-- The names of the grapheme break classes. -/
def graphemeClassNames : List (List String × GraphemeClass) :=
  [(["CN", "Control"], .control), (["CR"], .cr), (["EX", "Extend"], .extend), (["L"], .l),
    (["LF"], .lf), (["LV"], .lv), (["LVT"], .lvt), (["PP", "Prepend"], .prepend),
    (["RI", "Regional_Indicator"], .regionalIndicator), (["SM", "SpacingMark"], .spacingMark),
    (["T"], .t), (["V"], .v), (["ZWJ"], .zwj)]

/-- The names of the word break classes. -/
def wordClassNames : List (List String × WordClass) :=
  [(["CR"], .cr), (["DQ", "Double_Quote"], .doubleQuote), (["EX", "ExtendNumLet"], .extendNumLet),
    (["Extend"], .extend), (["FO", "Format"], .format), (["HL", "Hebrew_Letter"], .hebrewLetter),
    (["KA", "Katakana"], .katakana), (["LE", "ALetter"], .aLetter), (["LF"], .lf),
    (["MB", "MidNumLet"], .midNumLet), (["ML", "MidLetter"], .midLetter),
    (["MN", "MidNum"], .midNum), (["NL", "Newline"], .newline), (["NU", "Numeric"], .numeric),
    (["RI", "Regional_Indicator"], .regionalIndicator), (["SQ", "Single_Quote"], .singleQuote),
    (["WSegSpace"], .wSegSpace), (["ZWJ"], .zwj)]

/-- The short names of the sentence break classes, beside the long names of
`sentenceBreakNames`. -/
def sentenceClassShortNames : List (String × String) :=
  [("AT", "ATerm"), ("CL", "Close"), ("EX", "Extend"), ("FO", "Format"), ("LE", "OLetter"),
    ("LO", "Lower"), ("NU", "Numeric"), ("SC", "SContinue"), ("SE", "Sep"), ("SP", "Sp"),
    ("ST", "STerm"), ("UP", "Upper")]

/-- The code points of a class of a break table, by its names. -/
def breakClassSet? {α : Type} [BEq α] (names : List (List String × α)) (t : CodeMap α)
    (key : String) : Option CharSet :=
  (names.find? fun (ns, _) => namesMatch ns key).bind fun (_, k) =>
    nonEmpty? (CharSet.ofMap t (· == k))

/-- The code points of a sentence break class. -/
def sentenceClassSet? (key : String) : Option CharSet :=
  let names := sentenceBreakNames.zipIdx.map fun (n, i) =>
    (n :: (sentenceClassShortNames.filter (·.2 == n)).map (·.1), i)
  breakClassSet? names sentenceBreakTable key

/-- The set named by a bare name: a binary property, a general category or a script. -/
def bareProperty? (name : String) : Option CharSet :=
  let key := symbolicName name
  let binary := if key = "cf" || key = "sc" || key = "lc" then none else binaryProperty? key
  binary <|> generalCategory? key <|> scriptSet? key

/-- The set named by a property and one of its values. -/
def propertyValue? (name value : String) : Option CharSet :=
  let v := symbolicName value
  match symbolicName name with
  | "gc" | "generalcategory" => generalCategory? v
  | "sc" | "script" => scriptSet? v
  | "scx" | "scriptextensions" => scriptExtensionSet? v
  | "age" => ageSet? v
  | "gcb" | "graphemeclusterbreak" => breakClassSet? graphemeClassNames graphemeBreakTable v
  | "wb" | "wordbreak" => breakClassSet? wordClassNames wordBreakTable v
  | "sb" | "sentencebreak" => sentenceClassSet? v
  | _ => none

/-- How the text of `\p{...}` names a set. -/
inductive PropertyQuery where
  /-- A bare name. -/
  | bare (name : String)
  /-- A property and a value; `negated` for the `!=` form. -/
  | byValue (name value : String) (negated : Bool)
  deriving DecidableEq, Repr

/-- The position of the first occurrence of a piece of text, in characters. -/
def findText? (text piece : List Char) : Option Nat :=
  (List.range (text.length + 1)).find? fun i => (text.drop i).take piece.length == piece

/-- Reads the text of `\p{...}`: a name with `!=`, else with `:`, else with `=`, is a property and
a value; any other text is a bare name. -/
def PropertyQuery.ofText (text : String) : PropertyQuery :=
  let cs := text.toList
  let split (i len : Nat) : String × String := (String.ofList (cs.take i), String.ofList (cs.drop (i + len)))
  match findText? cs ['!', '='] with
  | some i => let (n, v) := split i 2; .byValue n v true
  | none =>
    match cs.findIdx? (· = ':') with
    | some i => let (n, v) := split i 1; .byValue n v false
    | none =>
      match cs.findIdx? (· = '=') with
      | some i => let (n, v) := split i 1; .byValue n v false
      | none => .bare text

/-- The set a query names, and whether it is to be complemented. -/
def PropertyQuery.resolve? : PropertyQuery → Option (CharSet × Bool)
  | .bare name => (bareProperty? name).map (·, false)
  | .byValue name value negated => (propertyValue? name value).map (·, negated)

end LogBrowser.Pattern
