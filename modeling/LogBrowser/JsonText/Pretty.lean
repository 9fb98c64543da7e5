import LogBrowser.JsonText.Parse

/-!
# Pretty JSON text

Values written one member or item per line, indented four spaces a level, with `": "` between a
key and its value. An empty array or object stays on one line. Strings escape the quote, the
backslash and every control character below U+0020 (by its short escape when it has one, else as
`\u00XX`); everything else is written as it is.

`bodyLines` is how a log body is shown: a JSON object pretty-printed, one row per line, where the
escapes `\n` inside a line break it into rows and the escapes `\t` become four spaces; any other
text is one row as it is.
-/

namespace LogBrowser.JsonText

open LogBrowser.Number

/-- A lower-case hexadecimal digit. -/
def hexDigit (n : Nat) : Char :=
  if n < 10 then Char.ofNat ('0'.toNat + n) else Char.ofNat ('a'.toNat + n - 10)

/-- A character as it is written inside a string. -/
def escapeChar (c : Char) : List Char :=
  if c = '"' then ['\\', '"']
  else if c = '\\' then ['\\', '\\']
  else if c = '\n' then ['\\', 'n']
  else if c = '\r' then ['\\', 'r']
  else if c = '\t' then ['\\', 't']
  else if c.toNat = 8 then ['\\', 'b']
  else if c.toNat = 12 then ['\\', 'f']
  else if c.toNat < 0x20 then ['\\', 'u', '0', '0', hexDigit (c.toNat / 16), hexDigit (c.toNat % 16)]
  else [c]

/-- A string as it is written, with its quotes. -/
def quote (s : String) : String :=
  String.ofList ('"' :: (s.toList.flatMap escapeChar ++ ['"']))

/-- The indentation of a nesting level. -/
def indentation (level : Nat) : String := String.ofList (List.replicate (4 * level) ' ')

mutual

/-- The text of a value whose first line stands at nesting `level`. -/
def Value.pretty (level : Nat) : Value → String
  | .null => "null"
  | .bool b => if b then "true" else "false"
  | .unsigned n => toString n
  | .signed n => toString n
  | .float x => x.toText
  | .string s => quote s
  | .array [] => "[]"
  | .array (v :: vs) => "[\n" ++ prettyItems (level + 1) (v :: vs) ++ "\n" ++ indentation level ++ "]"
  | .object [] => "\x7b\x7d"
  | .object (m :: ms) =>
    "\x7b\n" ++ prettyMembers (level + 1) (m :: ms) ++ "\n" ++ indentation level ++ "\x7d"

/-- The items of an array, one a line, at nesting `level`. -/
def prettyItems (level : Nat) : List Value → String
  | [] => ""
  | [v] => indentation level ++ v.pretty level
  | v :: vs => indentation level ++ v.pretty level ++ ",\n" ++ prettyItems level vs

/-- The members of an object, one a line, at nesting `level`. -/
def prettyMembers (level : Nat) : List (String × Value) → String
  | [] => ""
  | [(k, v)] => indentation level ++ quote k ++ ": " ++ v.pretty level
  | (k, v) :: ms => indentation level ++ quote k ++ ": " ++ v.pretty level ++ ",\n" ++ prettyMembers level ms

end

/-- Splits at every occurrence of the two characters `a b`, scanning from the left. -/
def splitAtPair (a b : Char) : List Char → List (List Char)
  | [] => [[]]
  | [c] => [[c]]
  | c :: d :: rest =>
    if c = a && d = b then [] :: splitAtPair a b rest
    else match splitAtPair a b (d :: rest) with
      | piece :: pieces => (c :: piece) :: pieces
      | [] => [[c]]

/-- Replaces every occurrence of the two characters `a b`, scanning from the left. -/
def replacePair (a b : Char) (replacement : List Char) : List Char → List Char
  | [] => []
  | [c] => [c]
  | c :: d :: rest =>
    if c = a && d = b then replacement ++ replacePair a b replacement rest
    else c :: replacePair a b replacement (d :: rest)

/-- Whether the two characters `a b` stand next to each other somewhere. -/
def hasPair (a b : Char) : List Char → Bool
  | c :: d :: rest => (c = a && d = b) || hasPair a b (d :: rest)
  | _ => false

/-- The rows of one line: escaped tabs become four spaces and escaped line feeds break rows. -/
def expandEscapes (line : List Char) : List (List Char) :=
  if hasPair '\\' 'n' line || hasPair '\\' 't' line then
    splitAtPair '\\' 'n' (replacePair '\\' 't' [' ', ' ', ' ', ' '] line)
  else [line]

/-- Splits text at its line feeds. -/
def splitLines : List Char → List (List Char)
  | [] => [[]]
  | c :: cs =>
    if c = '\n' then [] :: splitLines cs
    else match splitLines cs with
      | piece :: pieces => (c :: piece) :: pieces
      | [] => [[c]]

/-- The rows a log body is shown as: a JSON object pretty-printed, anything else as it is. -/
def bodyLines (text : String) : List String :=
  match readObjectText text with
  | none => [text]
  | some ms =>
    let pretty := (Value.object ms).pretty 0
    ((splitLines pretty.toList).flatMap expandEscapes).map String.ofList

end LogBrowser.JsonText
