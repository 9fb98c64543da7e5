import LogBrowser.Time.Calendar

/-!
# Instants and RFC 3339 timestamps

An instant is a moment in UTC: a day counted from 1970-01-01, a second of that day and the
nanoseconds into that second. A leap second is the last second of a minute carrying a second
billion of nanoseconds, so it sorts after that second and before the next minute; it is written
as second `60`.

`parseRfc3339` reads `YYYY-MM-DDTHH:MM:SS[.fraction](Z|±HH:MM)`: the `T` may be lower case or a
space, the `Z` lower case, the minus of the offset also U+2212; fraction digits past the ninth
are dropped; the offset must stay under a day. The moment is then moved to UTC.
-/

namespace LogBrowser.Time

/-- A moment in UTC. `nano` is below `2 * 10^9`, and from `10^9` on marks a leap second. -/
structure Instant where
  day : Int
  second : Nat
  nano : Nat
  deriving DecidableEq, Repr, Inhabited

/-- Instants in time order: by day, then second, then nanosecond. -/
instance : Ord Instant :=
  ⟨fun a b => (compare a.day b.day).then ((compare a.second b.second).then (compare a.nano b.nano))⟩

/-- Why a timestamp is refused. -/
inductive TimeError where
  | outOfRange
  | invalid
  | tooShort
  | tooLong
  deriving DecidableEq, Repr

/-- The message of a refusal. -/
def TimeError.message : TimeError → String
  | .outOfRange => "input is out of range"
  | .invalid => "input contains invalid characters"
  | .tooShort => "premature end of input"
  | .tooLong => "trailing input"

/-- A reader of a prefix of the text: the value read and the rest. -/
abbrev Scan (α : Type) := List Char → Except TimeError (α × List Char)

/-- Whether the text holds at least `n` bytes of UTF-8. -/
def hasBytes : Nat → List Char → Bool
  | 0, _ => true
  | _, [] => false
  | n + 1, c :: cs => hasBytes (n + 1 - c.utf8Size) cs

/-- Splits off at most `max` leading decimal digits. -/
def leadingDigits : Nat → List Char → List Char × List Char
  | 0, cs => ([], cs)
  | _, [] => ([], [])
  | k + 1, c :: cs =>
    if c.isDigit then
      let (ds, rest) := leadingDigits k cs
      (c :: ds, rest)
    else ([], c :: cs)

/-- The value of decimal digits. -/
def digitsValue (ds : List Char) : Nat := ds.foldl (fun n c => 10 * n + (c.toNat - '0'.toNat)) 0

/-- Reads from `min` to `max` decimal digits. -/
def scanNumber (min max : Nat) : Scan Nat := fun cs =>
  if !hasBytes min cs then .error .tooShort
  else
    let (ds, rest) := leadingDigits max cs
    if ds.length < min then .error .invalid else .ok (digitsValue ds, rest)

/-- Reads one expected character. -/
def scanChar (c : Char) : Scan Unit
  | d :: rest => if d = c then .ok ((), rest) else .error .invalid
  | [] => .error .tooShort

/-- Reads a fraction of a second after its point: at least one digit, the first nine counted. -/
def scanNanos : Scan Nat := fun cs => do
  let (v, rest) ← scanNumber 1 9 cs
  let used := cs.length - rest.length
  return (v * Nat.pow 10 (9 - used), (rest.dropWhile Char.isDigit))

/-- Reads the two digits of an offset's hours. -/
def offsetHours : Scan Nat
  | a :: b :: rest =>
    if a.isDigit && b.isDigit then .ok (digitsValue [a, b], rest) else .error .invalid
  | cs => if hasBytes 2 cs then .error .invalid else .error .tooShort

/-- Reads the two digits of an offset's minutes, below 60. -/
def offsetMinutes : Scan Nat
  | a :: b :: rest =>
    if '0' ≤ a && a ≤ '5' && b.isDigit then .ok (digitsValue [a, b], rest)
    else if '6' ≤ a && a ≤ '9' && b.isDigit then .error .outOfRange
    else .error .invalid
  | cs => if hasBytes 2 cs then .error .invalid else .error .tooShort

/-- The largest offset, 23 hours 59 minutes, in seconds. -/
def maxOffset : Nat := (23 * 60 + 59) * 60

/-- Reads an offset from UTC in seconds: `Z` or a signed `HH:MM`. -/
def scanOffset : Scan Int
  | c :: rest =>
    if c = 'Z' || c = 'z' then .ok (0, rest)
    else if c = '+' || c = '-' || c.toNat = 0x2212 then do
      let (h, rest) ← offsetHours rest
      let ((), rest) ← scanChar ':' rest
      let (m, rest) ← offsetMinutes rest
      let secs := h * 3600 + m * 60
      if maxOffset < secs then .error .outOfRange
      else .ok (if c = '+' then (secs : Int) else -(secs : Int), rest)
    else .error .invalid
  | [] => .error .tooShort

/-- Fails with `outOfRange` unless a field lies in `[lo, hi]`. -/
def inRange (v lo hi : Nat) : Except TimeError Unit :=
  if lo ≤ v && v ≤ hi then .ok () else .error .outOfRange

/-- The instant of a date, a time of day and an offset from UTC. A second of `60` is the leap
second that follows second 59. -/
def Instant.ofFields (year : Int) (month day hour minute second nano : Nat) (offset : Int) :
    Instant :=
  let (second, nano) := if second = 60 then (59, nano + 1000000000) else (second, nano)
  let local_ : Int := (hour * 3600 + minute * 60 + second : Nat)
  let utc := local_ - offset
  { day := daysFromCivil year month day + utc / 86400, second := (utc % 86400).toNat, nano := nano }

/-- Reads an RFC 3339 timestamp; the whole text must be one. A text shorter than the fixed
part `YYYY-MM-DDTHH:MM:SS` ends too early. -/
def parseRfc3339 (s : String) : Except TimeError Instant := do
  let cs := s.toList
  if !hasBytes 19 cs then throw .tooShort
  let (year, cs) ← scanNumber 4 4 cs
  let ((), cs) ← scanChar '-' cs
  let (month, cs) ← scanNumber 2 2 cs
  inRange month 1 12
  let ((), cs) ← scanChar '-' cs
  let (day, cs) ← scanNumber 2 2 cs
  inRange day 1 31
  let cs ← match cs with
    | c :: rest => if c = 'T' || c = 't' || c = ' ' then pure rest else throw .invalid
    | [] => throw .tooShort
  let (hour, cs) ← scanNumber 2 2 cs
  inRange hour 0 23
  let ((), cs) ← scanChar ':' cs
  let (minute, cs) ← scanNumber 2 2 cs
  inRange minute 0 59
  let ((), cs) ← scanChar ':' cs
  let (second, cs) ← scanNumber 2 2 cs
  inRange second 0 60
  let (nano, cs) ← match cs with
    | '.' :: rest => scanNanos rest
    | _ => pure (0, cs)
  let (offset, cs) ← scanOffset cs
  if !cs.isEmpty then throw .tooLong
  if daysInMonth year month < day then throw .outOfRange
  return Instant.ofFields year month day hour minute second nano offset

/-- A natural number with zeros in front up to `width` digits. -/
def padded (width n : Nat) : String :=
  let s := toString n
  String.ofList (List.replicate (width - s.length) '0') ++ s

/-- A year as four digits; a year outside `0..9999` also carries its sign. -/
def yearText (y : Int) : String :=
  if 0 ≤ y && y ≤ 9999 then padded 4 y.toNat
  else (if y < 0 then "-" else "+") ++ padded 4 y.natAbs

namespace Instant

/-- The date of the instant. -/
def date (t : Instant) : Int × Nat × Nat := civilFromDays t.day

/-- The second within the minute as written: `60` during a leap second. -/
def shownSecond (t : Instant) : Nat := t.second % 60 + t.nano / 1000000000

/-- The nanoseconds within the (possibly leap) second. -/
def subNanos (t : Instant) : Nat := t.nano % 1000000000

/-- The time of day as `HH:MM:SS`. -/
def clockText (t : Instant) : String :=
  padded 2 (t.second / 3600) ++ ":" ++ padded 2 (t.second / 60 % 60) ++ ":" ++ padded 2 t.shownSecond

/-- The date as `YYYY-MM-DD`. -/
def dateText (t : Instant) : String :=
  let (y, m, d) := t.date
  yearText y ++ "-" ++ padded 2 m ++ "-" ++ padded 2 d

/-- The fraction of the second with as few of 3, 6 or 9 digits as show it exactly, or nothing
when it is zero. -/
def autoFraction (n : Nat) : String :=
  if n = 0 then ""
  else if n % 1000000 = 0 then "." ++ padded 3 (n / 1000000)
  else if n % 1000 = 0 then "." ++ padded 6 (n / 1000)
  else "." ++ padded 9 n

/-- The RFC 3339 text in UTC, the fraction as short as exact. -/
def toRfc3339 (t : Instant) : String :=
  t.dateText ++ "T" ++ t.clockText ++ autoFraction t.subNanos ++ "+00:00"

/-- The RFC 3339 text in UTC with milliseconds. -/
def toMillisText (t : Instant) : String :=
  t.dateText ++ "T" ++ t.clockText ++ "." ++ padded 3 (t.subNanos / 1000000) ++ "+00:00"

end Instant

end LogBrowser.Time
