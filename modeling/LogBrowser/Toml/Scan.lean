import LogBrowser.Toml.Value

/-!
# Reading TOML tokens

Readers of the pieces of a TOML line: blank space and comments, keys, strings in their four
forms, numbers and date-times. Each reader takes the text from where the piece starts and gives
the piece and the rest, or a failure.

A failure says what was being read (`label`), what would have been accepted (`expected`), and why
a well-formed piece was refused (`cause`). A failure is either soft, when another reading may
still be tried, or committed (`cut`), when the text has gone too far for any other reading; only
a committed failure, or the last of the tried readings, reaches the message. The message names
the innermost thing being read, then what was expected, then the cause, each on its own line.
-/

namespace LogBrowser.Toml

open LogBrowser.Number

/-- Why a reading failed. -/
structure Failure where
  cut : Bool
  label : Option String
  expected : List String
  cause : Option String
  deriving Inhabited

/-- A soft failure with nothing said. -/
def Failure.soft : Failure := ⟨false, none, [], none⟩

/-- A committed failure with nothing said. -/
def Failure.hard : Failure := ⟨true, none, [], none⟩

/-- The failure committed. -/
def Failure.commit (f : Failure) : Failure := { f with cut := true }

/-- The failure as part of reading `l`; an inner label wins. -/
def Failure.within (l : String) (f : Failure) : Failure :=
  if f.label.isNone then { f with label := some l } else f

/-- The failure with more alternatives that were expected. -/
def Failure.expecting (xs : List String) (f : Failure) : Failure :=
  { f with expected := f.expected ++ xs }

/-- The failure with a cause. -/
def Failure.because (c : String) (f : Failure) : Failure := { f with cause := some c }

/-- The message of a failure. -/
def Failure.message (f : Failure) : String :=
  let parts := (f.label.map fun l => "invalid " ++ l).toList ++
    (if f.expected.isEmpty then [] else ["expected " ++ ", ".intercalate f.expected]) ++
    f.cause.toList
  "\n".intercalate parts

/-- A character as an expected alternative: in backquotes, a line feed as `newline`. -/
def charItem (c : Char) : String :=
  if c = '\n' then "newline" else "`" ++ String.ofList [c] ++ "`"

/-- The result of a reader: the piece and the rest. -/
abbrev Scan (α : Type) := Except Failure (α × List Char)

/-- The cause of a number out of its range. -/
def outOfRange : String := "value is out of range"

/-! ## Blank space, line ends and comments -/

/-- Whether a character is blank space inside a line. -/
def isWs (c : Char) : Bool := c = ' ' || c = '\t'

/-- Drops blank space inside a line. -/
def skipWs : List Char → List Char
  | c :: cs => if isWs c then skipWs cs else c :: cs
  | [] => []

/-- Whether a character may stand in a comment. -/
def isCommentChar (c : Char) : Bool :=
  c = '\t' || (0x20 ≤ c.toNat && c.toNat ≤ 0x7E) || 0x80 ≤ c.toNat

/-- Reads a comment, from its `#` to the end of the line. -/
def skipComment : List Char → List Char
  | '#' :: cs => cs.dropWhile isCommentChar
  | cs => cs

/-- Reads a line feed, alone or after a carriage return. -/
def readNewline : List Char → Option (List Char)
  | '\n' :: cs => some cs
  | '\r' :: '\n' :: cs => some cs
  | _ => none

/-- Reads the end of a line: a line feed or the end of the text. -/
def readLineEnding : List Char → Option (List Char)
  | [] => some []
  | cs => readNewline cs

/-- Reads what may end a line after a value or header: blank space, a comment, the line end. -/
def readLineTrailing (cs : List Char) : Option (List Char) :=
  readLineEnding (skipComment (skipWs cs))

/-- Drops blank space, line ends and comments, as between array items; a comment must end in a
line feed. -/
def skipWsCommentNewline (cs : List Char) : Option (List Char) :=
  go cs.length (skipWs cs)
where
  go : Nat → List Char → Option (List Char)
    | 0, cs => some cs
    | fuel + 1, cs =>
      match cs with
      | '#' :: _ => (readNewline (skipComment cs)).bind fun r => go fuel (skipWs r)
      | '\n' :: _ | '\r' :: _ => (readNewline cs).bind fun r => go fuel (skipWs r)
      | _ => some cs

/-! ## Strings -/

/-- Whether a character stands for itself in a basic string. -/
def isBasicChar (c : Char) : Bool :=
  c = ' ' || c = '\t' || c.toNat = 0x21 || (0x23 ≤ c.toNat && c.toNat ≤ 0x5B) ||
    (0x5D ≤ c.toNat && c.toNat ≤ 0x7E) || 0x80 ≤ c.toNat

/-- Whether a character stands in a literal string. -/
def isLiteralChar (c : Char) : Bool :=
  c = '\t' || (0x20 ≤ c.toNat && c.toNat ≤ 0x26) || (0x28 ≤ c.toNat && c.toNat ≤ 0x7E) ||
    0x80 ≤ c.toNat

/-- The value of a hexadecimal digit. -/
def hexValue? (c : Char) : Option Nat :=
  if '0' ≤ c && c ≤ '9' then some (c.toNat - '0'.toNat)
  else if 'a' ≤ c && c ≤ 'f' then some (c.toNat - 'a'.toNat + 10)
  else if 'A' ≤ c && c ≤ 'F' then some (c.toNat - 'A'.toNat + 10)
  else none

/-- Reads exactly `n` hexadecimal digits naming a character. -/
def readHexEscape (n : Nat) (label : String) (cs : List Char) : Scan Char :=
  let ds := (cs.take n).takeWhile fun c => (hexValue? c).isSome
  if ds.length < n then .error (Failure.hard.within label)
  else
    let v := ds.foldl (fun acc c => 16 * acc + (hexValue? c).getD 0) 0
    if v < 0xD800 || (0xE000 ≤ v && v < 0x110000) then .ok (Char.ofNat v, cs.drop n)
    else .error ((Failure.hard.because outOfRange).within label)

/-- The escapes a basic string accepts, as expected alternatives. -/
def escapeItems : List String :=
  ['b', 'f', 'n', 'r', 't', 'u', 'U', '\\', '"'].map charItem

/-- Reads an escape after its backslash. -/
def readEscape : List Char → Scan Char
  | 'b' :: cs => .ok (Char.ofNat 8, cs)
  | 'f' :: cs => .ok (Char.ofNat 12, cs)
  | 'n' :: cs => .ok ('\n', cs)
  | 'r' :: cs => .ok ('\r', cs)
  | 't' :: cs => .ok ('\t', cs)
  | 'u' :: cs => readHexEscape 4 "unicode 4-digit hex code" cs
  | 'U' :: cs => readHexEscape 8 "unicode 8-digit hex code" cs
  | '\\' :: cs => .ok ('\\', cs)
  | '"' :: cs => .ok ('"', cs)
  | _ :: _ => .error ((Failure.hard.within "escape sequence").expecting escapeItems)
  | [] => .error Failure.soft

/-- Reads the characters of a basic string up to its closing quote; `acc` holds those read,
last first. -/
def readBasicBody (acc : List Char) : List Char → Scan String
  | '"' :: cs => .ok (String.ofList acc.reverse, cs)
  | '\\' :: cs =>
    match readEscape cs with
    | .ok (c, rest) =>
      if rest.length < cs.length then readBasicBody (c :: acc) rest
      else .error (Failure.hard.within "basic string")
    | .error f => if f.cut then .error f else .error (Failure.hard.within "basic string")
  | c :: cs => if isBasicChar c then readBasicBody (c :: acc) cs
    else .error (Failure.hard.within "basic string")
  | [] => .error (Failure.hard.within "basic string")
termination_by cs => cs.length

/-- Reads a literal string after its opening apostrophe. -/
def readLiteralBody (cs : List Char) : Scan String :=
  let body := cs.takeWhile isLiteralChar
  match cs.drop body.length with
  | '\'' :: rest => .ok (String.ofList body, rest)
  | _ => .error (Failure.hard.within "literal string")

/-- Drops blank space and line ends after a line-ending backslash; `some` when at least one
line end was met. -/
def trimEscapedNewline (cs : List Char) : Option (List Char) :=
  match readNewline (skipWs cs) with
  | none => none
  | some r => some (go r.length r)
where
  go : Nat → List Char → List Char
    | 0, cs => cs
    | fuel + 1, cs =>
      match cs with
      | c :: rest => if isWs c then go fuel rest
        else match readNewline cs with
          | some r => go fuel r
          | none => cs
      | [] => []

/-- Reads the body of a multi-line basic string and its closing quotes. Up to two quotes may
stand before the closing three. -/
def readMlBasicBody (acc : List Char) : List Char → Scan String
  | '"' :: '"' :: '"' :: '"' :: '"' :: cs => .ok (String.ofList (acc.reverse ++ ['"', '"']), cs)
  | '"' :: '"' :: '"' :: '"' :: cs => .ok (String.ofList (acc.reverse ++ ['"']), cs)
  | '"' :: '"' :: '"' :: cs => .ok (String.ofList acc.reverse, cs)
  | '"' :: cs => readMlBasicBody ('"' :: acc) cs
  | '\\' :: cs =>
    match trimEscapedNewline cs with
    | some rest =>
      if rest.length < cs.length then readMlBasicBody acc rest
      else .error (Failure.hard.within "multiline basic string")
    | none =>
      match readEscape cs with
      | .ok (c, rest) =>
        if rest.length < cs.length then readMlBasicBody (c :: acc) rest
        else .error (Failure.hard.within "multiline basic string")
      | .error f => if f.cut then .error f else .error (Failure.hard.within "multiline basic string")
  | '\r' :: '\n' :: cs => readMlBasicBody ('\n' :: acc) cs
  | '\n' :: cs => readMlBasicBody ('\n' :: acc) cs
  | c :: cs => if isBasicChar c then readMlBasicBody (c :: acc) cs
    else .error (Failure.hard.within "multiline basic string")
  | [] => .error (Failure.hard.within "multiline basic string")
termination_by cs => cs.length

/-- Reads the body of a multi-line literal string and its closing apostrophes. -/
def readMlLiteralBody (acc : List Char) : List Char → Scan String
  | '\'' :: '\'' :: '\'' :: '\'' :: '\'' :: cs =>
    .ok (String.ofList (acc.reverse ++ ['\'', '\'']), cs)
  | '\'' :: '\'' :: '\'' :: '\'' :: cs => .ok (String.ofList (acc.reverse ++ ['\'']), cs)
  | '\'' :: '\'' :: '\'' :: cs => .ok (String.ofList acc.reverse, cs)
  | '\'' :: cs => readMlLiteralBody ('\'' :: acc) cs
  | '\r' :: '\n' :: cs => readMlLiteralBody ('\n' :: acc) cs
  | '\n' :: cs => readMlLiteralBody ('\n' :: acc) cs
  | c :: cs => if isLiteralChar c then readMlLiteralBody (c :: acc) cs
    else .error (Failure.hard.within "multiline literal string")
  | [] => .error (Failure.hard.within "multiline literal string")

/-- Drops one line end right after an opening delimiter. -/
def dropFirstNewline (cs : List Char) : List Char := (readNewline cs).getD cs

/-- Reads a string in any of its four forms. -/
def readString : List Char → Scan String
  | '"' :: '"' :: '"' :: cs => readMlBasicBody [] (dropFirstNewline cs)
  | '"' :: cs => readBasicBody [] cs
  | '\'' :: '\'' :: '\'' :: cs => readMlLiteralBody [] (dropFirstNewline cs)
  | '\'' :: cs => readLiteralBody cs
  | _ => .error Failure.soft

/-! ## Keys -/

/-- Whether a character may stand in a bare key. -/
def isBareKeyChar (c : Char) : Bool :=
  ('a' ≤ c && c ≤ 'z') || ('A' ≤ c && c ≤ 'Z') || ('0' ≤ c && c ≤ '9') || c = '-' || c = '_'

/-- Reads one key: quoted or bare. -/
def readSimpleKey : List Char → Scan String
  | '"' :: cs => readBasicBody [] cs
  | '\'' :: cs => readLiteralBody cs
  | cs =>
    let k := cs.takeWhile isBareKeyChar
    if k.isEmpty then .error Failure.soft else .ok (String.ofList k, cs.drop k.length)

/-- The most parts a dotted key may have. -/
def keyDepthLimit : Nat := 80

/-- Reads the parts after the first of a dotted key, each after a dot. -/
def readKeyParts : Nat → List Char → Scan (List String)
  | 0, cs => .ok ([], cs)
  | fuel + 1, cs =>
    match cs with
    | '.' :: rest =>
      match readSimpleKey (skipWs rest) with
      | .ok (k, r) =>
        match readKeyParts fuel (skipWs r) with
        | .ok (ks, r') => .ok (k :: ks, r')
        | .error f => .error f
      | .error f => if f.cut then .error f else .ok ([], cs)
    | _ => .ok ([], cs)

/-- Reads a key, dotted or not, with blank space around its parts. -/
def readKey (cs : List Char) : Scan (List String) :=
  match readSimpleKey (skipWs cs) with
  | .error f => .error (f.within "key")
  | .ok (k, r) =>
    match readKeyParts r.length (skipWs r) with
    | .error f => .error (f.within "key")
    | .ok (ks, r') =>
      if keyDepthLimit ≤ ks.length + 1 then
        .error (Failure.soft.because "recursion limit exceeded")
      else .ok (k :: ks, r')

/-! ## Numbers -/

/-- Splits off leading characters that pass a test. -/
def spanWhile (p : Char → Bool) (cs : List Char) : List Char × List Char :=
  (cs.takeWhile p, cs.dropWhile p)

/-- Reads digits after a first one, where single underscores may stand between digits; a
failure names `label`. -/
def readDigitRun (isDigit : Char → Bool) (label : String) (acc : List Char) :
    List Char → Scan (List Char)
  | '_' :: c :: cs =>
    if isDigit c then readDigitRun isDigit label (c :: '_' :: acc) cs
    else .error ((Failure.hard.expecting ["digit"]).within label)
  | ['_'] => .error ((Failure.hard.expecting ["digit"]).within label)
  | c :: cs => if isDigit c then readDigitRun isDigit label (c :: acc) cs else .ok (acc.reverse, c :: cs)
  | [] => .ok (acc.reverse, [])

/-- Reads an optional sign. -/
def readSign : List Char → List Char × List Char
  | '+' :: cs => (['+'], cs)
  | '-' :: cs => (['-'], cs)
  | cs => ([], cs)

/-- Reads a decimal integer: a sign, then `0` alone or digits without a leading zero. -/
def readDecInt (cs : List Char) : Scan (List Char) :=
  let (sign, cs) := readSign cs
  match cs with
  | '0' :: rest => .ok (sign ++ ['0'], rest)
  | c :: rest =>
    if c.isDigit then
      match readDigitRun Char.isDigit "integer" [c] rest with
      | .ok (ds, r) => .ok (sign ++ ds, r)
      | .error f => .error f
    else .error (Failure.soft.within "integer")
  | [] => .error (Failure.soft.within "integer")

/-- Reads digits where a leading zero is allowed. -/
def readZeroPrefixable (label : String) : List Char → Scan (List Char)
  | c :: cs => if c.isDigit then readDigitRun Char.isDigit label [c] cs else .error Failure.soft
  | [] => .error Failure.soft

/-- The value of decimal digits, underscores skipped. -/
def decimalValue (ds : List Char) : Nat :=
  ds.foldl (fun n c => if c.isDigit then 10 * n + (c.toNat - '0'.toNat) else n) 0

/-- The number of decimal digits of `n` (one for zero). -/
def digitCount (n : Nat) : Nat := (toString n).length

/-- The binary64 value nearest to `d * 10^e`, or `none` past the largest finite value. -/
def decimalToBinary (d : Nat) (e : Int) : Option Binary64 :=
  if d = 0 then some (Binary64.zero false)
  else if 310 < (digitCount d : Int) + e then none
  else if (digitCount d : Int) + e < -330 then some (Binary64.zero false)
  else if 0 ≤ e then Binary64.round false (d * Nat.pow 10 e.toNat) 1 0
  else Binary64.round false d (Nat.pow 10 (-e).toNat) 0

/-- The float of a decimal text: sign, integer digits, fraction digits, exponent. -/
def floatOfParts (negative : Bool) (whole frac : List Char) (exp : Int) : FloatValue :=
  let d := decimalValue (whole ++ frac)
  let fracDigits : Int := (frac.filter Char.isDigit).length
  match decimalToBinary d (exp - fracDigits) with
  | some x => .finite (if negative then x.neg else x)
  | none => .infinite negative

/-- Reads an exponent after its `e`. -/
def readExponent (cs : List Char) : Scan Int :=
  let (sign, cs) := readSign cs
  match readZeroPrefixable "floating-point number" cs with
  | .ok (ds, r) =>
    let v : Int := decimalValue ds
    .ok (if sign = ['-'] then -v else v, r)
  | .error f => .error (f.commit.within "floating-point number")

/-- Reads a float: an integer part and a fraction, an exponent or both; or `inf` or `nan` with
an optional sign. A float too large for binary64 is refused, except below zero. -/
def readFloat (cs : List Char) : Scan FloatValue :=
  let special : Scan FloatValue :=
    let (sign, r) := readSign cs
    match r with
    | 'i' :: 'n' :: 'f' :: rest => .ok (.infinite (sign = ['-']), rest)
    | 'n' :: 'a' :: 'n' :: rest => .ok (.nan, rest)
    | _ => .error (Failure.soft.within "floating-point number")
  match readDecInt cs with
  | .error f => if f.cut then .error f else special
  | .ok (whole, r) =>
    let negative := whole.head? = some '-'
    let digits := whole.filter fun c => c.isDigit || c = '_'
    let finish (frac : List Char) (exp : Int) (rest : List Char) : Scan FloatValue :=
      match floatOfParts negative digits frac exp with
      | .infinite false => .error (Failure.hard.within "floating-point number")
      | v => .ok (v, rest)
    match r with
    | c :: rest =>
      if c = 'e' || c = 'E' then
        match readExponent rest with
        | .ok (e, r') => finish [] e r'
        | .error f => .error f
      else if c = '.' then
        match readZeroPrefixable "floating-point number" rest with
        | .error f =>
          .error ((f.commit.expecting ["digit"]).within "floating-point number")
        | .ok (frac, r') =>
          match r' with
          | c' :: rest' =>
            if c' = 'e' || c' = 'E' then
              match readExponent rest' with
              | .ok (e, r'') => finish frac e r''
              | .error f => .error f
            else finish frac 0 r'
          | [] => finish frac 0 []
      else .error (Failure.soft.within "floating-point number")
    | [] => .error (Failure.soft.within "floating-point number")

/-- The largest 64-bit signed integer. -/
def i64Max : Int := Int.ofNat (Nat.pow 2 63) - 1

/-- Reads digits in a base after their prefix. -/
def readRadixInt (isDigit : Char → Bool) (base : Nat) (label : String) (cs : List Char) : Scan Int :=
  match cs with
  | c :: rest =>
    if isDigit c then
      match readDigitRun isDigit label [c] rest with
      | .ok (ds, r) =>
        let v := ds.foldl (fun n c => if c = '_' then n else base * n + (hexValue? c).getD 0) 0
        if i64Max < v then
          .error ((Failure.hard.because "number too large to fit in target type").within label)
        else .ok (v, r)
      | .error f => .error f
    else .error (Failure.hard.within label)
  | [] => .error (Failure.hard.within label)

/-- Reads an integer: decimal, or hexadecimal, octal or binary after `0x`, `0o`, `0b`. It must
fit 64 signed bits. -/
def readInteger : List Char → Scan Int
  | '0' :: 'x' :: cs => readRadixInt (fun c => (hexValue? c).isSome) 16 "hexadecimal integer" cs
  | '0' :: 'o' :: cs => readRadixInt (fun c => '0' ≤ c && c ≤ '7') 8 "octal integer" cs
  | '0' :: 'b' :: cs => readRadixInt (fun c => c = '0' || c = '1') 2 "binary integer" cs
  | cs =>
    match readDecInt cs with
    | .error f => .error f
    | .ok (ds, r) =>
      let v : Int := decimalValue ds
      let v := if ds.head? = some '-' then -v else v
      if i64Max < v then .error (Failure.hard.because "number too large to fit in target type")
      else if v < -(i64Max + 1) then
        .error (Failure.hard.because "number too small to fit in target type")
      else .ok (v, r)

/-! ## Date-times -/

/-- Reads exactly `n` decimal digits. -/
def readFixedDigits (n : Nat) (cs : List Char) : Option (Nat × List Char) :=
  let ds := (cs.take n).takeWhile Char.isDigit
  if ds.length = n then some (decimalValue ds, cs.drop n) else none

/-- Reads a two-digit field in `[lo, hi]`; a soft failure unless `commit`. -/
def readField (lo hi : Nat) (commit : Bool) (cs : List Char) : Scan Nat :=
  let fail (f : Failure) : Scan Nat := .error (if commit then f.commit else f)
  match readFixedDigits 2 cs with
  | none => fail Failure.soft
  | some (v, r) => if lo ≤ v && v ≤ hi then .ok (v, r) else fail (Failure.soft.because outOfRange)

/-- Reads `HH:MM:SS[.fraction]`; past the first colon the reading is committed. -/
def readPartialTime (cs : List Char) : Except Failure (Unit × List Char) := do
  let (_, cs) ← readField 0 23 false cs
  match cs with
  | ':' :: cs =>
    let (_, cs) ← readField 0 59 true cs
    match cs with
    | ':' :: cs =>
      let (_, cs) ← readField 0 60 true cs
      match cs with
      | '.' :: c :: rest => if c.isDigit then pure ((), rest.dropWhile Char.isDigit) else pure ((), cs)
      | _ => pure ((), cs)
    | _ => throw Failure.hard
  | _ => throw Failure.soft

/-- Reads an optional offset: `Z` or a signed `HH:MM`. -/
def readTimeOffset (cs : List Char) : Except Failure (Unit × List Char) :=
  match cs with
  | 'Z' :: rest | 'z' :: rest => .ok ((), rest)
  | '+' :: rest | '-' :: rest =>
    let numeric : Except Failure (Unit × List Char) := do
      let (_, r) ← readField 0 23 true rest
      match r with
      | ':' :: r =>
        let (_, r) ← readField 0 59 true r
        pure ((), r)
      | _ => throw Failure.hard
    match numeric with
    | .ok v => .ok v
    | .error f => .error (f.within "time offset")
  | _ => .ok ((), cs)

/-- Whether a year of the Gregorian calendar is a leap year. -/
def isLeapYear (y : Nat) : Bool := y % 4 = 0 && (y % 100 != 0 || y % 400 = 0)

/-- The number of days of a month of a year. -/
def daysInMonth (y m : Nat) : Nat :=
  if m = 2 then (if isLeapYear y then 29 else 28)
  else if m = 4 || m = 6 || m = 9 || m = 11 then 30
  else 31

/-- Reads a date-time: a date with an optional time and offset, or a time alone. The day must
exist in its month. A failure names a date-time, or a time when no date was found. -/
def readDateTime (cs : List Char) : Scan Unit :=
  let date : Except Failure (Unit × List Char) :=
    match readFixedDigits 4 cs with
    | some (year, '-' :: r) => do
      let (month, r) ← readField 1 12 true r
      match r with
      | '-' :: r =>
        let (day, r) ← readField 1 31 true r
        if daysInMonth year month < day then throw (Failure.hard.because outOfRange)
        match r with
        | d :: rest =>
          if d = 'T' || d = 't' || d = ' ' then
            match readPartialTime rest with
            | .ok ((), r') => readTimeOffset r'
            | .error f => if f.cut then throw f else pure ((), r)
          else pure ((), r)
        | [] => pure ((), [])
      | _ => throw Failure.hard
    | _ => throw Failure.soft
  match date with
  | .ok v => .ok v
  | .error f =>
    if f.cut then .error (f.within "date-time")
    else match readPartialTime cs with
      | .ok v => .ok v
      | .error f => .error (f.within "time")

end LogBrowser.Toml
