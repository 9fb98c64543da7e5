import LogBrowser.Unicode.EastAsianWide
import LogBrowser.Unicode.ZeroWidth
import LogBrowser.Unicode.Emoji
import LogBrowser.Unicode.Joining

/-!
# Display width

How many terminal columns text occupies. A character on its own takes two columns when it is
East Asian wide, none when it is ignorable or a combining extender, one otherwise; a control
character has no width of its own (`charWidth? = none`). Two Khmer signs are wider: U+17A4 takes
two columns and U+17D8 three.

A string is measured as a whole, because some sequences are drawn as one glyph:

* inside a string a control character counts one column, and a carriage return right before a
  line feed counts none;
* a character with an emoji form followed by U+FE0F is a two-column emoji; a skin-tone modifier
  after a modifier base adds nothing to the base's two columns; emoji joined by U+200D take two
  columns together, provided each of them is drawn as an emoji (a character shown as emoji by
  default, one followed by U+FE0F, or a modifier sequence);
* an emoji that also has a text form, followed by U+FE0E, is one column of text;
* a curly quotation mark followed by U+FE01 takes two columns;
* some letters fuse into one glyph of one column: an Arabic lam and alef with only transparent
  marks between them; Hebrew alef, U+200D and lamed; the Buginese ya ligature; an Old Turkic
  ligature; a Lisu tone letter pair; a Tifinagh consonant, the consonant joiner U+2D7F and a
  second consonant; the Kirat Rai vowel signs written as two or three parts. A Khmer coeng sign
  U+17D2 before a letter it subscribes makes the pair take no column. Inside these ligatures,
  other than the Arabic one, joiners and ignorable combining marks change nothing.

The measure reads the string from its end, carrying what follows the current character
(`Follower`), so each rule is a single step. A step may take back a column that the character
after it added, so steps are integers; the total is never negative.
-/

namespace LogBrowser.Text

open LogBrowser.Unicode

/-- The C0 and C1 control characters. -/
def isControl (c : Char) : Bool :=
  c.toNat < 0x20 || (0x7F ≤ c.toNat && c.toNat < 0xA0)

/-- The columns a character takes on its own; `none` for a control character. -/
def charWidth? (c : Char) : Option Nat :=
  if isControl c then none
  else if c.toNat < 0x7F then some 1
  else if c.toNat = 0x17A4 then some 2
  else if c.toNat = 0x17D8 then some 3
  else if zeroWidth.contains c then some 0
  else if eastAsianWide.contains c then some 2
  else some 1

/-- The columns a character takes on its own, a control character taking none. -/
def charWidth (c : Char) : Nat :=
  (charWidth? c).getD 0

/-- The columns of a list of characters, each measured on its own. -/
def sumCharWidths : List Char → Nat
  | [] => 0
  | c :: cs => charWidth c + sumCharWidths cs

/-- Whether a code point lies in one of the inclusive ranges. -/
def inRanges (rs : List (Nat × Nat)) (c : Char) : Bool :=
  rs.any fun (a, b) => a ≤ c.toNat && c.toNat ≤ b

/-- Emoji shown as emoji by default that also have a text form, outside the Enclosed
Ideographic Supplement: followed by U+FE0E they are one column of text. -/
def textPresentationBase (c : Char) : Bool :=
  inRanges [(0x231A, 0x231B), (0x23E9, 0x23EA), (0x23F3, 0x23F3), (0x25FD, 0x25FE),
    (0x2614, 0x2615), (0x2648, 0x2653), (0x267F, 0x267F), (0x2693, 0x2693), (0x26A1, 0x26A1),
    (0x26AA, 0x26AB), (0x26BD, 0x26BE), (0x26C4, 0x26C5), (0x26D4, 0x26D4), (0x26EA, 0x26EA),
    (0x26F2, 0x26F3), (0x26F5, 0x26F5), (0x26FA, 0x26FA), (0x26FD, 0x26FD), (0x2757, 0x2757),
    (0x2B1B, 0x2B1C), (0x2B50, 0x2B50), (0x2B55, 0x2B55), (0x1F004, 0x1F004),
    (0x1F30D, 0x1F30F), (0x1F315, 0x1F315), (0x1F31C, 0x1F31C), (0x1F378, 0x1F378),
    (0x1F393, 0x1F393), (0x1F3A7, 0x1F3A7), (0x1F3AC, 0x1F3AE), (0x1F3C2, 0x1F3C2),
    (0x1F3C4, 0x1F3C4), (0x1F3C6, 0x1F3C6), (0x1F3CA, 0x1F3CA), (0x1F3E0, 0x1F3E0),
    (0x1F3ED, 0x1F3ED), (0x1F408, 0x1F408), (0x1F415, 0x1F415), (0x1F41F, 0x1F41F),
    (0x1F426, 0x1F426), (0x1F442, 0x1F442), (0x1F446, 0x1F449), (0x1F44D, 0x1F44E),
    (0x1F453, 0x1F453), (0x1F46A, 0x1F46A), (0x1F47D, 0x1F47D), (0x1F4A3, 0x1F4A3),
    (0x1F4B0, 0x1F4B0), (0x1F4B3, 0x1F4B3), (0x1F4B9, 0x1F4B9), (0x1F4BB, 0x1F4BB),
    (0x1F4BF, 0x1F4BF), (0x1F4C8, 0x1F4CB), (0x1F4DA, 0x1F4DA), (0x1F4DF, 0x1F4DF),
    (0x1F4E4, 0x1F4E6), (0x1F4EA, 0x1F4ED), (0x1F4F7, 0x1F4F7), (0x1F4F9, 0x1F4FB),
    (0x1F508, 0x1F508), (0x1F50D, 0x1F50D), (0x1F512, 0x1F513), (0x1F550, 0x1F567),
    (0x1F610, 0x1F610), (0x1F687, 0x1F687), (0x1F68D, 0x1F68D), (0x1F691, 0x1F691),
    (0x1F694, 0x1F694), (0x1F698, 0x1F698), (0x1F6AD, 0x1F6AD), (0x1F6B2, 0x1F6B2),
    (0x1F6B9, 0x1F6BA), (0x1F6BC, 0x1F6BC)] c

/-- The ignorable combining marks: the grapheme joiner, two Khmer inherent vowels, the
Mongolian variation selectors and the variation selectors. -/
def isIgnorableMark (c : Char) : Bool :=
  inRanges [(0x034F, 0x034F), (0x17B4, 0x17B5), (0x180B, 0x180D), (0x180F, 0x180F),
    (0xFE00, 0xFE0F), (0xE0100, 0xE01EF)] c

/-- Khmer letters that a coeng sign may subscribe. -/
def isCoengLetter (c : Char) : Bool :=
  inRanges [(0x1780, 0x1782), (0x1784, 0x1787), (0x1789, 0x178C), (0x178E, 0x1793),
    (0x1795, 0x1798), (0x179B, 0x179D), (0x17A0, 0x17A0), (0x17A2, 0x17A2), (0x17A7, 0x17A7),
    (0x17AB, 0x17AC), (0x17AF, 0x17AF)] c

/-- Tifinagh consonants. -/
def isTifinaghConsonant (c : Char) : Bool :=
  inRanges [(0x2D31, 0x2D65), (0x2D6F, 0x2D6F)] c

/-- The curly quotation marks that U+FE01 widens. -/
def isCurlyQuote (c : Char) : Bool :=
  c.toNat = 0x2018 || c.toNat = 0x2019 || c.toNat = 0x201C || c.toNat = 0x201D

/-- A ligature of letters read from its end: which part of it follows. -/
inductive Ligature where
  /-- Hebrew lamed; before it U+200D and alef. -/
  | hebrewLamed
  /-- Buginese ya; before it U+200D, the vowel sign i and the letter a. -/
  | bugineseYa
  /-- The Buginese vowel sign i, U+200D and ya; before them the letter a. -/
  | bugineseIYa
  /-- The Old Turkic letter U+10C03; before it U+200D and U+10C32. -/
  | oldTurkic
  /-- A Lisu tone letter U+A4FC or U+A4FD; before it a tone letter U+A4F8 to U+A4FB. -/
  | lisuTone
  /-- A Tifinagh consonant; before it the consonant joiner and another consonant. -/
  | tifinaghConsonant
  /-- The Tifinagh consonant joiner and a consonant; before them another consonant. -/
  | tifinaghJoiner
  /-- The Kirat Rai vowel sign e, which may close a two- or three-part vowel sign. -/
  | kiratRaiE
  /-- The Kirat Rai vowel sign e twice; before it the vowel sign aa. -/
  | kiratRaiAi
  /-- A Khmer letter that a coeng sign may subscribe. -/
  | coengLetter
  deriving DecidableEq, Repr

/-- What follows a character, as far as it changes the character's width. -/
inductive Follower where
  /-- Nothing that joins with the character. -/
  | plain
  /-- A line feed. -/
  | lineFeed
  /-- An emoji drawn as a pictograph. -/
  | emoji
  /-- A zero width joiner and then an emoji. -/
  | joinedEmoji
  /-- The emoji presentation selector U+FE0F, and what follows it. -/
  | emojiSelector (next : Follower)
  /-- The text presentation selector U+FE0E, and what follows it. -/
  | textSelector (next : Follower)
  /-- The variation selector U+FE01, which widens a curly quotation mark. -/
  | quoteSelector
  /-- A skin-tone modifier; `joined` when a joiner and an emoji follow it. -/
  | modifier (joined : Bool)
  /-- An Arabic alef, maybe after transparent marks. -/
  | alef
  /-- Part of a ligature; `joined` once a zero width joiner has been read inside it. -/
  | ligature (l : Ligature) (joined : Bool)
  deriving DecidableEq, Repr

/-- The width of a character with nothing joining it to what follows, and what it is for the
character before it. -/
def standalone (c : Char) : Int × Follower :=
  if c = '\n' then (1, .lineFeed)
  else if isControl c then (1, .plain)
  else if c.toNat = 0xFE0F then (0, .emojiSelector .plain)
  else if c.toNat = 0xFE0E then (0, .textSelector .plain)
  else if c.toNat = 0xFE01 then (0, .quoteSelector)
  else if isEmojiModifier c then (2, .modifier false)
  else if emojiPresentation.contains c then (charWidth c, .emoji)
  else if alefLetters.contains c then (1, .alef)
  else if isCoengLetter c then (1, .ligature .coengLetter false)
  else if c.toNat = 0x05DC then (1, .ligature .hebrewLamed false)
  else if c.toNat = 0x1A10 then (1, .ligature .bugineseYa false)
  else if c.toNat = 0x10C03 then (1, .ligature .oldTurkic false)
  else if c.toNat = 0xA4FC || c.toNat = 0xA4FD then (1, .ligature .lisuTone false)
  else if isTifinaghConsonant c then (1, .ligature .tifinaghConsonant false)
  else if c.toNat = 0x16D67 then (1, .ligature .kiratRaiE false)
  else (charWidth c, .plain)

/-- The step that completes or extends a ligature, if the character does. -/
def ligatureStep (c : Char) (joined : Bool) : Ligature → Option (Int × Follower)
  | .hebrewLamed => if joined && c.toNat = 0x05D0 then some (0, .plain) else none
  | .bugineseYa =>
    if joined && c.toNat = 0x1A17 then some (0, .ligature .bugineseIYa true) else none
  | .bugineseIYa => if c.toNat = 0x1A15 then some (0, .plain) else none
  | .oldTurkic => if joined && c.toNat = 0x10C32 then some (0, .plain) else none
  | .lisuTone => if inRanges [(0xA4F8, 0xA4FB)] c then some (0, .plain) else none
  | .tifinaghConsonant =>
    if c.toNat = 0x2D7F then some (1, .ligature .tifinaghJoiner joined) else none
  | .tifinaghJoiner => if isTifinaghConsonant c then some (-1, .plain) else none
  | .kiratRaiE =>
    if c.toNat = 0x16D67 then some (0, .ligature .kiratRaiAi joined)
    else if c.toNat = 0x16D63 || c.toNat = 0x16D69 then some (0, .plain)
    else none
  | .kiratRaiAi => if c.toNat = 0x16D63 then some (0, .plain) else none
  | .coengLetter => if c.toNat = 0x17D2 then some (-1, .plain) else none

/-- The width a character adds in front of what follows it, once no presentation selector is
pending: the steps of ASCII and the Latin-1 controls, of the selectors, of emoji and of ligatures,
and otherwise the character on its own. -/
def widthAfterSelectors (c : Char) (next : Follower) : Int × Follower :=
  if c.toNat ≤ 0xA0 then
    if c = '\n' then (1, .lineFeed)
    else if c = '\r' && next = .lineFeed then (0, .plain)
    else (1, .plain)
  else if next = .plain then standalone c
  else if c.toNat = 0xFE0F then (0, .emojiSelector next)
  else if c.toNat = 0xFE0E then (0, .textSelector next)
  else match next with
    | .ligature l joined =>
      if c.toNat = 0x200D then (0, .ligature l true)
      else if isIgnorableMark c then (0, .ligature l joined)
      else (ligatureStep c joined l).getD (standalone c)
    | .alef =>
      if lamLetters.contains c then (0, .plain)
      else if joiningTransparent.contains c && charWidth c = 0 then (0, .alef)
      else standalone c
    | .emoji => if c.toNat = 0x200D then (0, .joinedEmoji) else standalone c
    | .joinedEmoji =>
      if isEmojiModifier c then (0, .modifier true)
      else if emojiPresentation.contains c then (0, .emoji)
      else standalone c
    | .modifier _ => if emojiModifierBase.contains c then (0, .emoji) else standalone c
    | .quoteSelector => if isCurlyQuote c then (2, .plain) else standalone c
    | _ => standalone c

/-- The width a character adds in front of what follows it. A pending presentation selector is
settled first: an emoji form before U+FE0F is a two-column emoji (none when joined to a following
emoji), a text form before U+FE0E is one column; any other character is read against what follows
the selector. -/
def widthBefore (c : Char) : Follower → Int × Follower
  | .emojiSelector next =>
    if emojiCharacter.contains c then (if next = .joinedEmoji then 0 else 2, .emoji)
    else widthAfterSelectors c next
  | .textSelector next =>
    if textPresentationBase c then (1, .plain) else widthAfterSelectors c next
  | next => widthAfterSelectors c next

/-- Columns of a list of characters, with what its first character is for one before it. -/
def measure : List Char → Int × Follower
  | [] => (0, .plain)
  | c :: cs =>
    let rest := measure cs
    let here := widthBefore c rest.2
    (here.1 + rest.1, here.2)

/-- The columns a list of characters takes on a terminal. -/
def widthOfList (cs : List Char) : Nat :=
  (measure cs).1.toNat

/-- The columns a string takes on a terminal. -/
def width (s : String) : Nat :=
  widthOfList s.toList

@[simp] theorem widthOfList_nil : widthOfList [] = 0 := rfl

theorem charWidth_of_control (c : Char) (h : isControl c = true) : charWidth c = 0 := by
  simp [charWidth, charWidth?, h]

end LogBrowser.Text
