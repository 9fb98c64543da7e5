import LogBrowser.Unicode.GraphemeBreak
import LogBrowser.Unicode.Emoji

/-!
# Grapheme clusters

The extended grapheme clusters of Unicode text (UAX #29): what a reader takes for one character,
such as a letter with its accents or a joined emoji. A cursor in a line of input moves over
whole clusters, and a terminal cell holds one.

`ClusterState.breaks` decides whether a boundary lies before the next character from a small
summary of the text already read (`ClusterState`), so segmentation is one left-to-right pass.
Besides the rules for Hangul syllables, marks, emoji and flags, a consonant stays in the cluster
of the consonant before it when a linker (a virama or a similar sign) stands between them, so an
Indic conjunct such as क्ष is one cluster.
-/

namespace LogBrowser.Text

open LogBrowser.Unicode

/-- The part a character plays in an Indic conjunct. -/
inductive ConjunctRole where
  /-- A consonant that a linker may join to the consonant before it. -/
  | consonant
  /-- A sign that joins the consonant before it to the next one. -/
  | linker
  /-- A mark that may stand between a consonant and a linker. -/
  | extend
  /-- Anything else, which ends a conjunct. -/
  | none
  deriving DecidableEq, Repr

/-- What segmentation needs to know about a character. -/
structure CharInfo where
  cls : GraphemeClass
  /-- The character is an extended pictograph. -/
  pict : Bool
  conjunct : ConjunctRole

/-- The segmentation facts of a character. The zero width non-joiner extends a cluster but
breaks a conjunct. -/
def CharInfo.of (c : Char) : CharInfo :=
  let k := GraphemeClass.of c
  { cls := k
    pict := extendedPictographic.contains c
    conjunct :=
      if conjunctLinker.contains c then .linker
      else if conjunctConsonant.contains c then .consonant
      else if (k = .extend || k = .zwj) && c ≠ '\u200C' then .extend
      else .none }

/-- What a boundary decision needs to know about the text read so far. -/
structure ClusterState where
  /-- The class of the last character. -/
  last : GraphemeClass
  /-- The text ends in an extended pictograph followed by extenders only. -/
  pictograph : Bool
  /-- The text ends in such a pictograph, extenders, and a zero width joiner. -/
  pictographJoiner : Bool
  /-- The text ends in an odd number of regional indicators. -/
  oddIndicators : Bool
  /-- The text ends in a consonant followed by linkers and marks only: `some true` when a linker
  is among them, so that a consonant joins the cluster. -/
  conjunct : Option Bool
  deriving DecidableEq, Repr

/-- The classes that always stand alone: controls, carriage return and line feed. -/
def isControlClass : GraphemeClass → Bool
  | .control | .cr | .lf => true
  | _ => false

/-- Whether a cluster boundary lies between the text summarised by `st` and a character `i`. -/
def ClusterState.breaks (st : ClusterState) (i : CharInfo) : Bool :=
  let k := i.cls
  if st.last = .cr && k = .lf then false
  else if isControlClass st.last || isControlClass k then true
  else if st.last = .l && (k = .l || k = .v || k = .lv || k = .lvt) then false
  else if (st.last = .lv || st.last = .v) && (k = .v || k = .t) then false
  else if (st.last = .lvt || st.last = .t) && k = .t then false
  else if k = .extend || k = .zwj || k = .spacingMark then false
  else if st.last = .prepend then false
  else if st.conjunct = some true && i.conjunct = .consonant then false
  else if st.pictographJoiner && i.pict then false
  else if st.last = .regionalIndicator && k = .regionalIndicator && st.oddIndicators then false
  else true

/-- The summary after reading one more character. -/
def ClusterState.push (st : ClusterState) (i : CharInfo) : ClusterState :=
  let k := i.cls
  { last := k
    pictograph := i.pict || (st.pictograph && k = .extend)
    pictographJoiner := st.pictograph && k = .zwj
    oddIndicators := k = .regionalIndicator && !(st.last = .regionalIndicator && st.oddIndicators)
    conjunct := match i.conjunct with
      | .consonant => some false
      | .linker => st.conjunct.map fun _ => true
      | .extend => st.conjunct
      | .none => none }

/-- The summary of the text that holds only `c`. -/
def ClusterState.start (c : Char) : ClusterState :=
  ({ last := .other, pictograph := false, pictographJoiner := false, oddIndicators := false,
     conjunct := none } : ClusterState).push (CharInfo.of c)

/-- Splits the rest of a text into clusters, given the cluster being built (reversed) and the
summary of the text read. -/
def clustersFrom (st : ClusterState) (cur : List Char) : List Char → List (List Char)
  | [] => [cur.reverse]
  | c :: cs =>
    let i := CharInfo.of c
    if st.breaks i then cur.reverse :: clustersFrom (st.push i) [c] cs
    else clustersFrom (st.push i) (c :: cur) cs

/-- The grapheme clusters of a text, in order; their concatenation is the text. -/
def clusters : List Char → List (List Char)
  | [] => []
  | c :: cs => clustersFrom (ClusterState.start c) [c] cs

/-- The clusters of a string, each as a string. -/
def graphemes (s : String) : List String :=
  (clusters s.toList).map String.ofList

theorem flatten_clustersFrom (st : ClusterState) (cur cs : List Char) :
    (clustersFrom st cur cs).flatten = cur.reverse ++ cs := by
  induction cs generalizing st cur with
  | nil => simp [clustersFrom]
  | cons c cs ih =>
    simp only [clustersFrom]
    split
    · simp [ih]
    · simp [ih]

/-- Cutting into clusters loses and adds nothing. -/
theorem flatten_clusters (cs : List Char) : (clusters cs).flatten = cs := by
  cases cs with
  | nil => rfl
  | cons c cs => simp [clusters, flatten_clustersFrom]

end LogBrowser.Text
