import LogBrowser.JsonText.Value

/-!
# Reading JSON text

A strict reader of JSON text into `Value`. Between tokens only space, tab, line feed and carriage
return may stand. Strings refuse raw control characters and unpaired surrogate escapes. Arrays
and objects refuse a trailing comma, and at most 127 of them may nest.

Numbers are read as the kind they denote. A number without fraction or exponent that fits the
64-bit range is an integer: a natural number, or a negative integer from `-2^63`. Every other
number is a binary64 value, computed from the digits in a fixed way: the first digits that fit
64 bits form an integer significand and the rest only move the decimal exponent. The significand
is rounded to binary64 once, then multiplied or divided by the binary64 power of ten, with a
division by `10^308` first for each 308 steps below `10^-308`. A product that overflows is an
error; a quotient that underflows is zero.
-/

namespace LogBrowser.JsonText

open LogBrowser.Number

/-- Whether a character may stand between tokens. -/
def isSpace (c : Char) : Bool := c == ' ' || c == '\n' || c == '\t' || c == '\r'

/-- Drops the characters that may stand between tokens. -/
def skipSpace : List Char → List Char
  | c :: cs => if isSpace c then skipSpace cs else c :: cs
  | [] => []

/-- The value of a hexadecimal digit, in either case. -/
def hexValue? (c : Char) : Option Nat :=
  if '0' ≤ c && c ≤ '9' then some (c.toNat - '0'.toNat)
  else if 'a' ≤ c && c ≤ 'f' then some (c.toNat - 'a'.toNat + 10)
  else if 'A' ≤ c && c ≤ 'F' then some (c.toNat - 'A'.toNat + 10)
  else none

/-- The value of four hexadecimal digits. -/
def hex4 (a b c d : Char) : Option Nat := do
  return (((← hexValue? a) * 16 + (← hexValue? b)) * 16 + (← hexValue? c)) * 16 + (← hexValue? d)

/-- The character a one-letter escape stands for. -/
def simpleEscape : Char → Option Char
  | '"' => some '"'
  | '\\' => some '\\'
  | '/' => some '/'
  | 'b' => some (Char.ofNat 8)
  | 'f' => some (Char.ofNat 12)
  | 'n' => some '\n'
  | 'r' => some '\r'
  | 't' => some '\t'
  | _ => none

/-- Whether a code is a leading surrogate. -/
def isLeading (n : Nat) : Bool := 0xD800 ≤ n && n < 0xDC00

/-- Whether a code is a trailing surrogate. -/
def isTrailing (n : Nat) : Bool := 0xDC00 ≤ n && n < 0xE000

/-- Reads the rest of a string after its opening quote; `acc` holds the characters read so far,
last first. -/
def readString (acc : List Char) : List Char → Option (String × List Char)
  | [] => none
  | '"' :: rest => some (String.ofList acc.reverse, rest)
  | '\\' :: 'u' :: a :: b :: c :: d :: rest =>
    match hex4 a b c d with
    | none => none
    | some n =>
      if isLeading n then
        match rest with
        | '\\' :: 'u' :: e :: f :: g :: h :: rest' =>
          match hex4 e f g h with
          | some m =>
            if isTrailing m then
              readString (Char.ofNat (0x10000 + (n - 0xD800) * 0x400 + (m - 0xDC00)) :: acc) rest'
            else none
          | none => none
        | _ => none
      else if isTrailing n then none
      else readString (Char.ofNat n :: acc) rest
  | '\\' :: e :: rest =>
    match simpleEscape e with
    | some c => readString (c :: acc) rest
    | none => none
  | c :: rest => if c.toNat < 0x20 then none else readString (c :: acc) rest

/-- The largest 64-bit natural number. -/
def u64Max : Nat := Nat.pow 2 64 - 1

/-- The largest 32-bit signed integer. -/
def i32Max : Int := Int.ofNat (Nat.pow 2 31) - 1

/-- Keeps an exponent in the 32-bit signed range, as saturating arithmetic does. -/
def saturate (e : Int) : Int := max (min e i32Max) (-(i32Max + 1))

/-- The value of a decimal digit. -/
def digitValue (c : Char) : Nat := c.toNat - '0'.toNat

/-- Whether one more digit would take a number past `limit`. -/
def wouldOverflow (n d limit : Nat) : Bool :=
  limit / 10 ≤ n && (limit / 10 < n || limit % 10 < d)

/-- Divides by powers of ten for a decimal exponent of `-k`: by `10^k` at once when the table
has it, else by `10^308` and on; a zero stays zero. -/
def scaleDown (f : Binary64) (k : Nat) : Binary64 :=
  if h : k ≤ 308 then f.div (Binary64.powerOfTen k)
  else if f.isZero then f
  else scaleDown (f.div (Binary64.powerOfTen 308)) (k - 308)
termination_by k
decreasing_by omega

/-- The binary64 value of `significand * 10^exponent` with a sign; `none` when it overflows. -/
def fromParts (positive : Bool) (significand : Nat) (exponent : Int) : Option Binary64 := do
  let f := Binary64.ofNat significand
  let f ← if exponent ≤ 308 && -308 ≤ exponent then
      if 0 ≤ exponent then f.mul (Binary64.powerOfTen exponent.toNat)
      else some (f.div (Binary64.powerOfTen (-exponent).toNat))
    else if f.isZero then some f
    else if 0 ≤ exponent then none
    else some (scaleDown f (-exponent).toNat)
  return if positive then f else f.neg

/-- Drops the decimal digits in front. -/
def skipDigits : List Char → List Char
  | c :: cs => if c.isDigit then skipDigits cs else c :: cs
  | [] => []

/-- Reads the digits of an exponent that no longer fits 32 bits: the number is zero, or an
error when it would be infinite. -/
def exponentOverflow (positive zeroSignificand positiveExp : Bool) (cs : List Char) :
    Option (Value × List Char) :=
  if !zeroSignificand && positiveExp then none
  else some (.float (Binary64.zero !positive), skipDigits cs)

/-- Reads the digits of an exponent, its first digit already read into `exp`. -/
def exponentDigits (positive : Bool) (significand : Nat) (start : Int) (positiveExp : Bool) :
    Nat → List Char → Option (Value × List Char)
  | exp, c :: cs =>
    if c.isDigit then
      if wouldOverflow exp (digitValue c) i32Max.toNat then
        exponentOverflow positive (significand == 0) positiveExp (c :: cs)
      else exponentDigits positive significand start positiveExp (exp * 10 + digitValue c) cs
    else
      let e := saturate (if positiveExp then start + exp else start - exp)
      (fromParts positive significand e).map fun f => (.float f, c :: cs)
  | exp, [] =>
    let e := saturate (if positiveExp then start + exp else start - exp)
    (fromParts positive significand e).map fun f => (.float f, [])

/-- Reads an exponent after its `e`. -/
def readExponent (positive : Bool) (significand : Nat) (start : Int) (cs : List Char) :
    Option (Value × List Char) :=
  let (positiveExp, cs) := match cs with
    | '+' :: rest => (true, rest)
    | '-' :: rest => (false, rest)
    | _ => (true, cs)
  match cs with
  | c :: rest =>
    if c.isDigit then exponentDigits positive significand start positiveExp (digitValue c) rest
    else none
  | [] => none

/-- Ends a number whose digits are all read: an exponent may follow. -/
def finishNumber (positive : Bool) (significand : Nat) (exponent : Int) :
    List Char → Option (Value × List Char)
  | c :: cs =>
    if c == 'e' || c == 'E' then readExponent positive significand exponent cs
    else (fromParts positive significand exponent).map fun f => (.float f, c :: cs)
  | [] => (fromParts positive significand exponent).map fun f => (.float f, [])

/-- Reads the digits after a decimal point; `after` counts those kept in the significand. -/
def fractionDigits (positive : Bool) (before : Int) :
    Nat → Nat → List Char → Option (Value × List Char)
  | significand, after, c :: cs =>
    if c.isDigit then
      if wouldOverflow significand (digitValue c) u64Max then
        finishNumber positive significand (before - after) (skipDigits (c :: cs))
      else fractionDigits positive before (significand * 10 + digitValue c) (after + 1) cs
    else if after = 0 then none
    else finishNumber positive significand (before - after) (c :: cs)
  | significand, after, [] =>
    if after = 0 then none else finishNumber positive significand (before - after) []

/-- Reads the digits of an integer part too long for 64 bits: each one raises the exponent. -/
def longDigits (positive : Bool) (significand : Nat) : Int → List Char → Option (Value × List Char)
  | exponent, c :: cs =>
    if c.isDigit then longDigits positive significand (exponent + 1) cs
    else if c == '.' then fractionDigits positive exponent significand 0 cs
    else finishNumber positive significand exponent (c :: cs)
  | exponent, [] => finishNumber positive significand exponent []

/-- The value of an integer without fraction or exponent. -/
def integerValue (positive : Bool) (significand : Nat) : Value :=
  if positive then .unsigned significand
  else if significand = 0 then .float (Binary64.zero true)
  else if significand ≤ Nat.pow 2 63 then .signed (-(significand : Int))
  else .float (Binary64.ofNat significand).neg

/-- Reads what follows the integer part of a number. -/
def numberTail (positive : Bool) (significand : Nat) : List Char → Option (Value × List Char)
  | '.' :: cs => fractionDigits positive 0 significand 0 cs
  | c :: cs =>
    if c == 'e' || c == 'E' then readExponent positive significand 0 cs
    else some (integerValue positive significand, c :: cs)
  | [] => some (integerValue positive significand, [])

/-- Reads the digits of an integer part after its first digit. -/
def integerDigits (positive : Bool) : Nat → List Char → Option (Value × List Char)
  | significand, c :: cs =>
    if c.isDigit then
      if wouldOverflow significand (digitValue c) u64Max then
        longDigits positive significand 0 (c :: cs)
      else integerDigits positive (significand * 10 + digitValue c) cs
    else numberTail positive significand (c :: cs)
  | significand, [] => numberTail positive significand []

/-- Reads a number without its sign. A lone `0` may not be followed by a digit. -/
def readUnsigned (positive : Bool) : List Char → Option (Value × List Char)
  | '0' :: cs =>
    match cs with
    | c :: _ => if c.isDigit then none else numberTail positive 0 cs
    | [] => numberTail positive 0 cs
  | c :: cs => if c.isDigit then integerDigits positive (digitValue c) cs else none
  | [] => none

/-- Reads a number. -/
def readNumber : List Char → Option (Value × List Char)
  | '-' :: cs => readUnsigned false cs
  | cs => readUnsigned true cs

/-- The nesting an object or array may still open: 127 in all. -/
def nestingRoom : Nat := 128

mutual

/-- Reads a value at the start of `cs`; `room` bounds the nesting, `fuel` the steps. -/
def readValue : Nat → Nat → List Char → Option (Value × List Char)
  | 0, _, _ => none
  | fuel + 1, room, cs =>
    match cs with
    | 'n' :: 'u' :: 'l' :: 'l' :: rest => some (.null, rest)
    | 't' :: 'r' :: 'u' :: 'e' :: rest => some (.bool true, rest)
    | 'f' :: 'a' :: 'l' :: 's' :: 'e' :: rest => some (.bool false, rest)
    | '"' :: rest => (readString [] rest).map fun (s, r) => (.string s, r)
    | '[' :: rest =>
      if room ≤ 1 then none
      else match skipSpace rest with
        | ']' :: r => some (.array [], r)
        | r => readItems fuel (room - 1) [] r
    | '{' :: rest =>
      if room ≤ 1 then none
      else match skipSpace rest with
        | '}' :: r => some (.object [], r)
        | r => readMembers fuel (room - 1) [] r
    | _ => readNumber cs

/-- Reads the items of an array from its next item on; `acc` holds those read, last first. -/
def readItems : Nat → Nat → List Value → List Char → Option (Value × List Char)
  | 0, _, _, _ => none
  | fuel + 1, room, acc, cs =>
    match readValue fuel room cs with
    | none => none
    | some (v, r) =>
      match skipSpace r with
      | ',' :: r' =>
        match skipSpace r' with
        | ']' :: _ => none
        | r'' => readItems fuel room (v :: acc) r''
      | ']' :: r' => some (.array (v :: acc).reverse, r')
      | _ => none

/-- Reads the members of an object from its next key on, into a key-sorted member list. -/
def readMembers : Nat → Nat → List (String × Value) → List Char → Option (Value × List Char)
  | 0, _, _, _ => none
  | fuel + 1, room, acc, cs =>
    match cs with
    | '"' :: rest =>
      match readString [] rest with
      | none => none
      | some (k, r) =>
        match skipSpace r with
        | ':' :: r' =>
          match readValue fuel room (skipSpace r') with
          | none => none
          | some (v, r'') =>
            let acc := insertMember k v acc
            match skipSpace r'' with
            | ',' :: r3 =>
              match skipSpace r3 with
              | '}' :: _ => none
              | r4 => readMembers fuel room acc r4
            | '}' :: r3 => some (.object acc, r3)
            | _ => none
        | _ => none
    | _ => none

end

/-- Reads a text holding exactly one JSON object, with space around it; its members, sorted by
key, or `none` when the text is anything else. -/
def readObjectText (s : String) : Option (List (String × Value)) :=
  let cs := skipSpace s.toList
  match readValue (2 * cs.length + 2) nestingRoom cs with
  | some (.object ms, rest) =>
    if cs.head? = some '{' && (skipSpace rest).isEmpty then some ms else none
  | _ => none

end LogBrowser.JsonText
