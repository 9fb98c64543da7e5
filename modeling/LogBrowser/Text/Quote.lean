import LogBrowser.Unicode.Category
import LogBrowser.Unicode.Property

/-!
# Quoted text

Text written between double quotes so that every character can be read back: the quote, the
backslash, tab, line feed, carriage return and NUL by their short escapes, and every character
that does not print by itself (controls, format characters, separators other than the space,
private use, unassigned code points, default-ignorable code points such as the Hangul fillers,
and marks that extend the character before them) as `\u{hex}`.
-/

namespace LogBrowser.Text

open LogBrowser.Unicode

/-- Whether a character prints by itself. -/
def printsAlone (c : Char) : Bool :=
  c = ' ' ||
    (!defaultIgnorableCodePoint.contains c &&
      match Category.of c with
      | .Cc | .Cf | .Cs | .Co | .Cn | .Zl | .Zp | .Zs => false
      | _ => true)

/-- Whether a character extends the one before it (a combining mark and the like). -/
def extendsPrevious (c : Char) : Bool :=
  graphemeExtend.contains c

/-- Lower-case hexadecimal digits of a number, without leading zeros. -/
def hexDigits (n : Nat) : List Char :=
  (Nat.toDigits 16 n)

/-- A character as written inside quotes. -/
def quoteChar (c : Char) : List Char :=
  if c.toNat = 0 then ['\\', '0']
  else if c = '\t' then ['\\', 't']
  else if c = '\r' then ['\\', 'r']
  else if c = '\n' then ['\\', 'n']
  else if c = '\\' then ['\\', '\\']
  else if c = '"' then ['\\', '"']
  else if extendsPrevious c || !printsAlone c then ['\\', 'u', '\x7b'] ++ hexDigits c.toNat ++ ['\x7d']
  else [c]

/-- Text between double quotes, escaped as above. -/
def quoted (s : String) : String :=
  String.ofList ('"' :: s.toList.flatMap quoteChar ++ ['"'])

end LogBrowser.Text
