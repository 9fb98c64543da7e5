import LogBrowser.Pattern.Syntax
import LogBrowser.Pattern.Property
import LogBrowser.Unicode.Blank

/-!
# Reading patterns

The pattern language: alternation `|`, groups `(...)`, `(?:...)` and named groups
`(?P<name>...)` or `(?<name>...)`, flag settings `(?imsuxUR-imsuxUR)` for the rest of a group
or `(?flags:...)` for a group alone, repetition `?`, `*`, `+`, `{n}`, `{n,}` and `{n,m}` (each
possibly lazy), bracketed classes with ranges, nested classes, ASCII classes `[:name:]` and the
set operators `&&`, `--` and `~~`, and escapes for special characters, code points, classes,
Unicode properties and assertions.

Every rejected pattern has a cause (`PatternError`). The reader follows the grammar's decisions
exactly where a pattern is refused: a repetition with nothing before it, a `{` that does not
close a count, an empty class `[]` (its `]` is a literal, so the class stays open), a `\` before
a letter that is not an escape or before a digit (there are no backreferences), look-around
groups, and flag lists that are empty, repeated or end in `-`.

Reading is total: it runs on fuel proportional to the pattern's length, and every step that
recurses has consumed a character.
-/

namespace LogBrowser.Pattern

open LogBrowser.Unicode

/-- Why a pattern is refused. -/
inductive PatternError where
  | groupUnclosed
  | groupUnopened
  | classUnclosed
  | classRangeInvalid
  | classRangeLiteral
  | classEscapeInvalid
  | repetitionMissing
  | repetitionCountUnclosed
  | repetitionCountInvalid
  | decimalEmpty
  | decimalInvalid
  | escapeUnexpectedEof
  | escapeUnrecognized
  | escapeHexInvalidDigit
  | escapeHexInvalid
  | escapeHexEmpty
  | backreference
  | lookAround
  | groupNameInvalid
  | groupNameEmpty
  | groupNameDuplicate
  | groupNameUnexpectedEof
  | flagUnrecognized
  | flagDuplicate
  | flagRepeatedNegation
  | flagDanglingNegation
  | flagUnexpectedEof
  | specialWordBoundaryUnclosed
  | specialWordBoundaryUnrecognized
  | specialWordOrRepetitionUnexpectedEof
  | propertyNotFound
  | unicodeNotAllowed
  | invalidUtf8
  | nestLimitExceeded
  | sizeLimitExceeded
  deriving DecidableEq, Repr

/-- The flags in force at a point of a pattern. -/
structure Flags where
  caseless : Bool := false
  multiLine : Bool := false
  dotAll : Bool := false
  swapGreed : Bool := false
  unicode : Bool := true
  verbose : Bool := false
  crlf : Bool := false
  deriving DecidableEq, Repr

/-- Sets one flag, named by its letter. -/
def Flags.set (f : Flags) (c : Char) (on : Bool) : Flags :=
  match c with
  | 'i' => { f with caseless := on }
  | 'm' => { f with multiLine := on }
  | 's' => { f with dotAll := on }
  | 'U' => { f with swapGreed := on }
  | 'u' => { f with unicode := on }
  | 'x' => { f with verbose := on }
  | 'R' => { f with crlf := on }
  | _ => f

/-- The state of reading: the unread characters, the flags in force and the group names met. -/
structure Reader where
  rest : List Char
  flags : Flags := {}
  names : List String := []

/-- Reading with a state, failing with a cause. -/
abbrev ReadM := StateT Reader (Except PatternError)

/-- An item of a sequence: a pattern with the depth of its syntax tree, or a flag setting that
no repetition may follow. -/
inductive Item where
  | node (n : Node) (depth : Nat)
  | flags

/-- The depth of an item's syntax tree; a flag setting is a leaf. -/
def Item.depth : Item → Nat
  | .node _ d => d
  | .flags => 0

/-- The depth of a syntax node holding parts of the given depths: one node with two parts or
more, none for a single part, which stands alone, and a leaf for no part at all. -/
def nestedDepth : List Nat → Nat
  | [] => 0
  | [d] => d
  | ds => ds.foldl max 0 + 1

/-- What an escape or a single character stands for. -/
inductive Primitive where
  | literal (c : Char)
  | set (s : CharSet)
  | look (a : Assertion)

/-- The characters with a meaning of their own, which a `\` makes literal. -/
def isMeta (c : Char) : Bool :=
  "\\.+*?()|[]\x7b\x7d^$#&-~".toList.contains c

/-- Characters that a `\` may make literal: the special ones and ASCII punctuation and space,
but not `<` and `>`, which are word boundaries. -/
def isEscapeable (c : Char) : Bool :=
  isMeta c || (c.toNat < 0x80 && !c.isAlphanum && c ≠ '<' && c ≠ '>')

/-- The current character, if any. -/
def current : ReadM (Option Char) := do
  return (← get).rest.head?

/-- The character after the current one, if any. -/
def following : ReadM (Option Char) := do
  return (← get).rest.tail.head?

/-- Drops the current character. -/
def advance : ReadM Unit :=
  modify fun r => { r with rest := r.rest.tail }

/-- Whether the unread text starts with `p`; if so it is consumed. -/
def accept (p : String) : ReadM Bool := do
  let r ← get
  if p.toList.isPrefixOf r.rest then
    set { r with rest := r.rest.drop p.length }
    return true
  else return false

/-- Drops white space and `#` comments up to the end of their line. -/
def dropBlanks : Nat → List Char → List Char
  | 0, cs => cs
  | _, [] => []
  | n + 1, c :: cs =>
    if isBlank c then dropBlanks n cs
    else if c = '#' then dropBlanks n ((cs.dropWhile (· ≠ '\n')).drop 1)
    else c :: cs

/-- In verbose mode, skips white space and comments. -/
def skipBlanks : ReadM Unit :=
  modify fun r => if r.flags.verbose then { r with rest := dropBlanks r.rest.length r.rest } else r

/-- Drops the current character and then skips blanks; tells whether text remains. -/
def advanceSkip : ReadM Bool := do
  advance
  skipBlanks
  return !(← get).rest.isEmpty

/-- The character after the current one, past blanks in verbose mode. -/
def followingSkip : ReadM (Option Char) := do
  let r ← get
  let tail := r.rest.tail
  return (if r.flags.verbose then dropBlanks tail.length tail else tail).head?

/-- The value of ASCII decimal digits, if they fit in 32 bits. -/
def decimalValue? (ds : List Char) : Option Nat :=
  let n := ds.foldl (fun n d => 10 * n + (d.toNat - '0'.toNat)) 0
  if n < Nat.pow 2 32 then some n else none

/-- Collects digits, skipping blanks between them in verbose mode. -/
def readDigits : Nat → List Char → ReadM (List Char)
  | 0, acc => return acc.reverse
  | n + 1, acc => do
    match ← current with
    | some c =>
      if c.isDigit then
        let _ ← advanceSkip
        readDigits n (c :: acc)
      else return acc.reverse
    | none => return acc.reverse

/-- Reads a decimal count of a repetition; white space around it is allowed. -/
def readDecimal : ReadM Nat := do
  let r ← get
  set { r with rest := r.rest.dropWhile isBlank }
  let ds ← readDigits (← get).rest.length []
  let r ← get
  set { r with rest := if r.flags.verbose then dropBlanks r.rest.length r.rest
    else r.rest.dropWhile isBlank }
  if ds.isEmpty then throw .decimalEmpty
  match decimalValue? ds with
  | some n => return n
  | none => throw .decimalInvalid

/-- The value of hexadecimal digits, if it is a character. -/
def hexChar? (ds : List Char) : Option Char :=
  let n := ds.foldl (fun n d => 16 * n + (hexDigit? d).getD 0) 0
  if n ≤ 0x10FFFF && !(0xD800 ≤ n && n ≤ 0xDFFF) then some (Char.ofNat n) else none

/-- Reads exactly `k` hexadecimal digits. -/
def readHexDigits : Nat → List Char → ReadM (List Char)
  | 0, acc => return acc.reverse
  | k + 1, acc => do
    match ← current with
    | none => throw .escapeUnexpectedEof
    | some c =>
      if (hexDigit? c).isNone then throw .escapeHexInvalidDigit
      let more ← advanceSkip
      if k ≠ 0 && !more then throw .escapeUnexpectedEof
      readHexDigits k (c :: acc)

/-- Reads hexadecimal digits up to a closing brace. -/
def readHexBrace : Nat → List Char → ReadM (List Char)
  | 0, acc => return acc.reverse
  | n + 1, acc => do
    match ← current with
    | none => throw .escapeUnexpectedEof
    | some '}' => return acc.reverse
    | some c =>
      if (hexDigit? c).isNone then throw .escapeHexInvalidDigit
      let _ ← advanceSkip
      readHexBrace n (c :: acc)

/-- Reads the code point after `\x`, `\u` or `\U`, given how many digits the short form has. -/
def readHex (digits : Nat) : ReadM Char := do
  if !(← advanceSkip) then throw .escapeUnexpectedEof
  if (← current) = some '{' then
    let _ ← advanceSkip
    let ds ← readHexBrace (← get).rest.length []
    if (← current).isNone then throw .escapeUnexpectedEof
    let _ ← advanceSkip
    if ds.isEmpty then throw .escapeHexEmpty
    match hexChar? ds with
    | some c => return c
    | none => throw .escapeHexInvalid
  else
    let ds ← readHexDigits digits []
    match hexChar? ds with
    | some c => return c
    | none => throw .escapeHexInvalid

/-- Widens a set to the case variants of its members when case is ignored; ASCII patterns fold
only the Latin letters. -/
def foldCase (f : Flags) (s : CharSet) : CharSet :=
  if f.caseless then (if f.unicode then s.caseFold else s.asciiCaseFold) else s

/-- Widens a class to case variants when case is ignored, then takes its complement when
negated; ASCII patterns fold and negate within bytes. -/
def finishSet (f : Flags) (s : CharSet) (negated : Bool) : CharSet :=
  let s := foldCase f s
  if negated then (if f.unicode then s.complement else s.complementUpTo 0xFF) else s

/-- The digit, space or word class of `\d`, `\s` or `\w` in the current mode. -/
def perlClass (f : Flags) (c : Char) : CharSet :=
  let base := match c.toLower with
    | 'd' => if f.unicode then unicodeDigit else asciiDigit
    | 's' => if f.unicode then unicodeSpace else asciiSpace
    | _ => if f.unicode then unicodeWord else asciiWord
  if c.isUpper then (if f.unicode then base.complement else base.complementUpTo 0xFF) else base

/-- Collects the text of `\p{...}` up to the closing brace. -/
def readPropertyName : Nat → List Char → ReadM (List Char)
  | 0, acc => return acc.reverse
  | n + 1, acc => do
    if !(← advanceSkip) then return acc.reverse
    match ← current with
    | some '}' => return acc.reverse
    | some c => readPropertyName n (c :: acc)
    | none => return acc.reverse

/-- Reads `\pX`, `\p{name}` or a negated `\P` form, from the `p` or `P`. -/
def readProperty (negated : Bool) : ReadM CharSet := do
  if !(← advanceSkip) then throw .escapeUnexpectedEof
  let name ← if (← current) = some '{' then do
      let cs ← readPropertyName (← get).rest.length []
      if (← current).isNone then throw .escapeUnexpectedEof
      advance
      pure (String.ofList cs)
    else do
      let c := (← current).getD ' '
      let _ ← advanceSkip
      pure (String.ofList [c])
  if !(← get).flags.unicode then throw .unicodeNotAllowed
  match (PropertyQuery.ofText name).resolve? with
  | some (s, complemented) => return finishSet (← get).flags s (negated != complemented)
  | none => throw .propertyNotFound

/-- Collects the letters and hyphens of a special word boundary such as `\b{start}`. -/
def readBoundaryName : Nat → List Char → ReadM (List Char)
  | 0, acc => return acc.reverse
  | n + 1, acc => do
    match ← current with
    | some c =>
      if c.isAlpha || c = '-' then
        let _ ← advanceSkip
        readBoundaryName n (c :: acc)
      else return acc.reverse
    | none => return acc.reverse

/-- After `\b`, reads `{start}`, `{end}`, `{start-half}` or `{end-half}`; a brace that does not
start a name is left for a repetition count. -/
def readSpecialBoundary (u : Bool) : ReadM Assertion := do
  let saved ← get
  if !(← advanceSkip) then throw .specialWordOrRepetitionUnexpectedEof
  match ← current with
  | some c =>
    if !(c.isAlpha || c = '-') then
      set saved
      return .wordBoundary u
    let name ← readBoundaryName (← get).rest.length []
    if (← current) ≠ some '}' then throw .specialWordBoundaryUnclosed
    advance
    match String.ofList name with
    | "start" => return .wordStart u
    | "end" => return .wordEnd u
    | "start-half" => return .wordStartHalf u
    | "end-half" => return .wordEndHalf u
    | _ => throw .specialWordBoundaryUnrecognized
  | none => throw .specialWordOrRepetitionUnexpectedEof

/-- Reads an escape, from its backslash. -/
def readEscape : ReadM Primitive := do
  advance
  let f := (← get).flags
  match ← current with
  | none => throw .escapeUnexpectedEof
  | some c =>
    if c.isDigit then throw .backreference
    else if c = 'x' then
      let braced := (← followingSkip) = some '{'
      let ch ← readHex 2
      if !f.unicode && !braced && 0x80 ≤ ch.toNat then throw .invalidUtf8
      return .literal ch
    else if c = 'u' then return .literal (← readHex 4)
    else if c = 'U' then return .literal (← readHex 8)
    else if c = 'p' || c = 'P' then return .set (← readProperty (c = 'P'))
    else if c = 'd' || c = 's' || c = 'w' || c = 'D' || c = 'S' || c = 'W' then
      let _ ← advanceSkip
      return .set (perlClass f c)
    else
      advance
      if isEscapeable c then return .literal c
      match c with
      | 'a' => return .literal '\x07'
      | 'f' => return .literal '\x0C'
      | 't' => return .literal '\t'
      | 'n' => return .literal '\n'
      | 'r' => return .literal '\r'
      | 'v' => return .literal '\x0B'
      | 'A' => return .look .textStart
      | 'z' => return .look .textEnd
      | 'b' =>
        if (← current) = some '{' then return .look (← readSpecialBoundary f.unicode)
        else return .look (.wordBoundary f.unicode)
      | 'B' => return .look (.notWordBoundary f.unicode)
      | '<' => return .look (.wordStart f.unicode)
      | '>' => return .look (.wordEnd f.unicode)
      | _ => throw .escapeUnrecognized

/-- The node of a single character under the current flags. -/
def literalNode (f : Flags) (c : Char) : Node :=
  if f.caseless then .set (finishSet f (CharSet.single c) false) else .literal c

/-- The set a dot matches under the current flags. -/
def dotSet (f : Flags) : CharSet :=
  let top := if f.unicode then CharSet.maxCode else 0xFF
  if f.dotAll then CharSet.range 0 top
  else if f.crlf then (CharSet.range 0 top).diff (CharSet.ofRanges [(10, 10), (13, 13)])
  else (CharSet.range 0 top).diff (CharSet.single '\n')

/-- Refuses a set that can match a byte of no character, in ASCII mode. -/
def checkSet (f : Flags) (s : CharSet) : ReadM CharSet := do
  if !f.unicode && (s.max?.getD 0) ≥ 0x80 then throw .invalidUtf8
  return s

/-- A class item as a set; assertions cannot stand in a class. -/
def Primitive.toSet : Primitive → ReadM CharSet
  | .literal c => return CharSet.single c
  | .set s => return s
  | .look _ => throw .classEscapeInvalid

/-- A range end; only single characters can bound a range. -/
def Primitive.toChar : Primitive → ReadM Char
  | .literal c => return c
  | _ => throw .classRangeLiteral

/-- Reads one character or escape inside a class. -/
def readClassPrimitive : ReadM Primitive := do
  match ← current with
  | some '\\' => readEscape
  | some c => advance; return .literal c
  | none => throw .classUnclosed

/-- Reads a class item: a character, an escape, or a range `a-z`. A `-` before `]` or `-` is
not a range. -/
def readClassRange : ReadM CharSet := do
  let first ← readClassPrimitive
  skipBlanks
  match ← current with
  | none => throw .classUnclosed
  | some c =>
    let next ← followingSkip
    if c ≠ '-' || next = some ']' || next = some '-' then first.toSet
    else
      if !(← advanceSkip) then throw .classUnclosed
      let last ← readClassPrimitive
      let lo ← first.toChar
      let hi ← last.toChar
      if hi < lo then throw .classRangeInvalid
      return CharSet.range lo.toNat hi.toNat

/-- Collects the name of an ASCII class up to its colon. -/
def readAsciiName : Nat → List Char → ReadM (Option (List Char))
  | 0, _ => return none
  | n + 1, acc => do
    match ← current with
    | none => return none
    | some ':' => return some acc.reverse
    | some c => advance; readAsciiName n (c :: acc)

/-- Tries to read `[:name:]` or `[:^name:]`; on failure nothing is consumed. -/
def readAsciiClass? : ReadM (Option CharSet) := do
  let saved ← get
  let f := saved.flags
  let attempt : ReadM (Option CharSet) := do
    advance
    if (← current) ≠ some ':' then return none
    advance
    let negated ← accept "^"
    match ← readAsciiName (← get).rest.length [] with
    | none => return none
    | some name =>
      if !(← accept ":]") then return none
      match asciiClass? (String.ofList name) with
      | some s => return some (if negated then
          (if f.unicode then s.complement else s.complementUpTo 0xFF) else s)
      | none => return none
  match ← attempt with
  | some s => return some s
  | none => set saved; return none

/-- The set operators of bracketed classes. -/
inductive SetOp where
  | inter
  | diff
  | symmDiff

/-- Applies a set operator. -/
def SetOp.apply : SetOp → CharSet → CharSet → CharSet
  | .inter, s, t => s.inter t
  | .diff, s, t => s.diff t
  | .symmDiff, s, t => s.symmDiff t

/-- The union of the items read so far, combined with the pending left operand. When case is
ignored, both operands of a set operator are widened to their case variants first, so that
`(?i)[a&&A]` keeps both letters. -/
def combine (f : Flags) (pending : Option (SetOp × CharSet × Nat)) (items : List (CharSet × Nat)) :
    CharSet × Nat :=
  let cur := items.foldl (fun s i => s.union i.1) CharSet.empty
  let depth := nestedDepth (items.map (·.2))
  match pending with
  | none => (cur, depth)
  | some (op, lhs, d) => (op.apply (foldCase f lhs) (foldCase f cur), max d depth + 1)

mutual

/-- Reads a bracketed class from its `[`; the result is folded and negated as its flags say, and
comes with the depth of its syntax tree. -/
def readBracketed : Nat → ReadM (CharSet × Nat)
  | 0 => throw .classUnclosed
  | fuel + 1 => do
    if !(← advanceSkip) then throw .classUnclosed
    let negated ← if (← current) = some '^' then do
        if !(← advanceSkip) then throw .classUnclosed
        pure true
      else pure false
    let dashes ← readDashes fuel []
    let items ← if dashes.isEmpty && (← current) = some ']' then do
        if !(← advanceSkip) then throw .classUnclosed
        pure [(CharSet.single ']', 0)]
      else pure dashes
    let (s, d) ← readClassItems fuel none items
    return (finishSet (← get).flags s negated, d + 1)

/-- Reads the `-` characters that open a class, each a literal. -/
def readDashes : Nat → List (CharSet × Nat) → ReadM (List (CharSet × Nat))
  | 0, acc => return acc
  | fuel + 1, acc => do
    if (← current) = some '-' then
      if !(← advanceSkip) then throw .classUnclosed
      readDashes fuel ((CharSet.single '-', 0) :: acc)
    else return acc

/-- Reads class items up to the closing `]`, which is consumed. Each item comes with the depth of
its syntax tree; a set operator holds its left operand with its depth. -/
def readClassItems : Nat → Option (SetOp × CharSet × Nat) → List (CharSet × Nat) →
    ReadM (CharSet × Nat)
  | 0, _, _ => throw .classUnclosed
  | fuel + 1, pending, items => do
    skipBlanks
    match ← current with
    | none => throw .classUnclosed
    | some ']' =>
      advance
      return combine (← get).flags pending items
    | some '[' =>
      match ← readAsciiClass? with
      | some s => readClassItems fuel pending ((s, 0) :: items)
      | none =>
        let s ← readBracketed fuel
        readClassItems fuel pending (s :: items)
    | some c =>
      let next ← following
      let op : Option SetOp :=
        if c = '&' && next = some '&' then some .inter
        else if c = '-' && next = some '-' then some .diff
        else if c = '~' && next = some '~' then some .symmDiff
        else none
      match op with
      | some op =>
        advance
        advance
        let (lhs, d) := combine (← get).flags pending items
        readClassItems fuel (some (op, lhs, d)) []
      | none =>
        let s ← readClassRange
        readClassItems fuel pending ((s, 0) :: items)

end

/-- Reads the flag letters of `(?flags)` or `(?flags:`, up to the `)` or `:`. -/
def readFlagList : Nat → List (Char × Bool) → Bool → Bool → ReadM (List (Char × Bool) × Bool)
  | 0, _, _, _ => throw .flagUnexpectedEof
  | fuel + 1, acc, negating, lastNegation => do
    match ← current with
    | none => throw .flagUnexpectedEof
    | some c =>
      if c = ':' || c = ')' then
        if lastNegation then throw .flagDanglingNegation
        return (acc.reverse, negating)
      else if c = '-' then
        if negating then throw .flagRepeatedNegation
        advance
        if (← current).isNone then throw .flagUnexpectedEof
        readFlagList fuel acc true true
      else if "imsUuxR".toList.contains c then
        if acc.any (·.1 = c) then throw .flagDuplicate
        advance
        if (← current).isNone then throw .flagUnexpectedEof
        readFlagList fuel ((c, !negating) :: acc) negating false
      else throw .flagUnrecognized

/-- Whether a character may stand in a group name; the first must be a letter or `_`. -/
def isNameChar (c : Char) (first : Bool) : Bool :=
  c = '_' || alphabetic.contains c ||
    (!first && (c = '.' || c = '[' || c = ']' || c.isDigit ||
      (Category.of c).major = 'N'))

/-- Collects a group name up to `>`. -/
def readNameChars : Nat → List Char → ReadM (List Char)
  | 0, acc => return acc.reverse
  | n + 1, acc => do
    match ← current with
    | none => return acc.reverse
    | some '>' => return acc.reverse
    | some c =>
      if !isNameChar c acc.isEmpty then throw .groupNameInvalid
      advance
      readNameChars n (c :: acc)

/-- Reads a group name and its `>`, and records it. -/
def readGroupName : ReadM Unit := do
  if (← current).isNone then throw .groupNameUnexpectedEof
  let cs ← readNameChars (← get).rest.length []
  if (← current).isNone then throw .groupNameUnexpectedEof
  advance
  if cs.isEmpty then throw .groupNameEmpty
  let name := String.ofList cs
  if (← get).names.contains name then throw .groupNameDuplicate
  modify fun r => { r with names := name :: r.names }

/-- The pattern of a sequence of items, with its depth; flag settings count as parts of the
sequence. -/
def concatOf (items : List Item) : Node × Nat :=
  let depth := nestedDepth (items.map Item.depth)
  match items.filterMap (fun | .node n _ => some n | .flags => none) with
  | [] => (.empty, depth)
  | [n] => (n, depth)
  | ns => (.concat ns, depth)

/-- The pattern of alternatives, with its depth. -/
def altOf : List (Node × Nat) → Node × Nat
  | [n] => n
  | ns => (.alt (ns.map (·.1)), nestedDepth (ns.map (·.2)))

/-- Applies a repetition to the last item; a repetition needs a pattern before it. -/
def repeatLast (items : List Item) (lo : Nat) (hi : Option Nat) : ReadM (List Item) :=
  match items with
  | .node n d :: rest => return .node (.repeat n lo hi) (d + 1) :: rest
  | _ => throw .repetitionMissing

/-- Reads a counted repetition from its `{` and applies it to the last item. -/
def readCounted (items : List Item) : ReadM (List Item) := do
  match items with
  | .node _ _ :: _ => pure ()
  | _ => throw .repetitionMissing
  if !(← advanceSkip) then throw .repetitionCountUnclosed
  let lo ← readDecimal
  if (← current).isNone then throw .repetitionCountUnclosed
  let hi ← if (← current) = some ',' then do
      if !(← advanceSkip) then throw .repetitionCountUnclosed
      if (← current) ≠ some '}' then pure (some (some (← readDecimal))) else pure (some none)
    else pure none
  if (← current) ≠ some '}' then throw .repetitionCountUnclosed
  if (← advanceSkip) && (← current) = some '?' then advance
  match hi with
  | none => repeatLast items lo (some lo)
  | some none => repeatLast items lo none
  | some (some m) => if m < lo then throw .repetitionCountInvalid else repeatLast items lo (some m)

mutual

/-- Reads alternatives up to a `)` or the end, which is not consumed; answers the pattern with
the depth of its syntax tree. -/
def readAlternatives : Nat → List (Node × Nat) → ReadM (Node × Nat)
  | 0, _ => throw .nestLimitExceeded
  | fuel + 1, acc => do
    let items ← readItems fuel []
    let acc := concatOf items :: acc
    if (← current) = some '|' then
      advance
      readAlternatives fuel acc
    else return altOf acc.reverse

/-- Reads the items of one alternative, up to `|`, `)` or the end. -/
def readItems : Nat → List Item → ReadM (List Item)
  | 0, _ => throw .nestLimitExceeded
  | fuel + 1, acc => do
    skipBlanks
    let f := (← get).flags
    match ← current with
    | none => return acc.reverse
    | some '|' => return acc.reverse
    | some ')' => return acc.reverse
    | some '(' =>
      let item ← readGroup fuel
      readItems fuel (item :: acc)
    | some '[' =>
      let (s, d) ← readBracketed (← get).rest.length
      readItems fuel (.node (.set (← checkSet f s)) d :: acc)
    | some '?' =>
      let acc ← repeatLast acc 0 (some 1)
      advance
      let _ ← accept "?"
      readItems fuel acc
    | some '*' =>
      let acc ← repeatLast acc 0 none
      advance
      let _ ← accept "?"
      readItems fuel acc
    | some '+' =>
      let acc ← repeatLast acc 1 none
      advance
      let _ ← accept "?"
      readItems fuel acc
    | some '{' =>
      let acc ← readCounted acc
      readItems fuel acc
    | some '\\' =>
      match ← readEscape with
      | .literal c => readItems fuel (.node (literalNode f c) 0 :: acc)
      | .set s => readItems fuel (.node (.set (← checkSet f s)) 0 :: acc)
      | .look a => readItems fuel (.node (.look a) 0 :: acc)
    | some '.' =>
      advance
      readItems fuel (.node (.set (← checkSet f (dotSet f))) 0 :: acc)
    | some '^' =>
      advance
      readItems fuel (.node (.look (if f.multiLine then .lineStart f.crlf else .textStart)) 0 :: acc)
    | some '$' =>
      advance
      readItems fuel (.node (.look (if f.multiLine then .lineEnd f.crlf else .textEnd)) 0 :: acc)
    | some c =>
      advance
      readItems fuel (.node (literalNode f c) 0 :: acc)

/-- Reads a group or a flag setting from its `(`. A flag setting changes the flags for the rest
of the enclosing group. -/
def readGroup : Nat → ReadM Item
  | 0 => throw .nestLimitExceeded
  | fuel + 1 => do
    advance
    skipBlanks
    let r ← get
    if "?=".toList.isPrefixOf r.rest || "?!".toList.isPrefixOf r.rest ||
        "?<=".toList.isPrefixOf r.rest || "?<!".toList.isPrefixOf r.rest then
      throw .lookAround
    let outer := r.flags
    let capturing ← if (← accept "?P<") || (← accept "?<") then do
        readGroupName
        pure true
      else pure ((← current) ≠ some '?')
    if !capturing && (← accept "?") then
      if (← current).isNone then throw .groupUnclosed
      let (flags, _) ← readFlagList (← get).rest.length [] false false
      let closing ← current
      advance
      let applied := flags.foldl (fun f (c, on) => f.set c on) outer
      if closing = some ')' then
        if flags.isEmpty then throw .repetitionMissing
        modify fun r => { r with flags := applied }
        return .flags
      modify fun r => { r with flags := applied }
    let (inner, d) ← readAlternatives fuel []
    if (← current) ≠ some ')' then throw .groupUnclosed
    advance
    modify fun r => { r with flags := outer }
    return .node (if capturing then .capture inner else inner) (d + 1)

end

/-- The deepest nesting a pattern may have. -/
def nestLimit : Nat := 250

/-- Reads a whole pattern: alternatives up to the end, where a `)` has no group to close. -/
def readPattern (s : String) : Except PatternError Node := do
  let fuel := 4 * s.length + 8
  let ((n, depth), r) ← (readAlternatives fuel []).run { rest := s.toList }
  if !r.rest.isEmpty then throw .groupUnopened
  if nestLimit < depth then throw .nestLimitExceeded
  return n

end LogBrowser.Pattern
