/-!
# Colours, emphasis and styles

A terminal cell has a foreground colour, a background colour and a set of emphasis marks (bold,
dim, underlined and so on). A `Style` is a change to that look: the colours it sets, if any, and
the emphasis it adds. Styles are layered with `Style.patch`, the upper style's colours winning
where it sets them and the emphasis of both kept; a cell's look is a style applied to the blank
look, `CellStyle.apply`.
-/

namespace LogBrowser.Display

/-- A terminal colour: the terminal's own default, or a 24-bit colour. -/
inductive Color where
  | reset
  | rgb (r g b : Nat)
  deriving DecidableEq, Repr

/-- The hexadecimal digit of a number below sixteen. -/
def hexDigit (n : Nat) : Char :=
  if n < 10 then Char.ofNat (48 + n) else Char.ofNat (87 + n)

/-- A channel as two lowercase hexadecimal digits. -/
def hexByte (n : Nat) : String :=
  String.ofList [hexDigit (n / 16 % 16), hexDigit (n % 16)]

/-- The colour as text: `reset`, or `#rrggbb` in lowercase hexadecimal. -/
def Color.text : Color → String
  | .reset => "reset"
  | .rgb r g b => "#" ++ hexByte r ++ hexByte g ++ hexByte b

/-- The emphasis marks a cell can carry. -/
structure Emphasis where
  bold : Bool := false
  dim : Bool := false
  italic : Bool := false
  underlined : Bool := false
  slowBlink : Bool := false
  rapidBlink : Bool := false
  reversed : Bool := false
  hidden : Bool := false
  crossedOut : Bool := false
  deriving DecidableEq, Repr

namespace Emphasis

/-- The marks of either. -/
def union (a b : Emphasis) : Emphasis where
  bold := a.bold || b.bold
  dim := a.dim || b.dim
  italic := a.italic || b.italic
  underlined := a.underlined || b.underlined
  slowBlink := a.slowBlink || b.slowBlink
  rapidBlink := a.rapidBlink || b.rapidBlink
  reversed := a.reversed || b.reversed
  hidden := a.hidden || b.hidden
  crossedOut := a.crossedOut || b.crossedOut

/-- The names of the marks that are set, in a fixed order. -/
def names (e : Emphasis) : List String :=
  [(e.bold, "bold"), (e.dim, "dim"), (e.italic, "italic"), (e.underlined, "underlined"),
    (e.slowBlink, "slow_blink"), (e.rapidBlink, "rapid_blink"), (e.reversed, "reversed"),
    (e.hidden, "hidden"), (e.crossedOut, "crossed_out")].filterMap fun (on, n) =>
      if on then some n else none

theorem union_empty (a : Emphasis) : a.union {} = a := by
  cases a; simp [union]

end Emphasis

/-- A change to the look of a cell: the colours it sets and the emphasis it adds. -/
structure Style where
  fg : Option Color := none
  bg : Option Color := none
  add : Emphasis := {}
  deriving DecidableEq, Repr

/-- Lays `t` over `s`: the colours of `t` where it sets them, the emphasis of both. -/
def Style.patch (s t : Style) : Style where
  fg := t.fg.or s.fg
  bg := t.bg.or s.bg
  add := s.add.union t.add

/-- A style that only sets the foreground. -/
def Style.ofFg (c : Color) : Style := { fg := some c }

/-- The look of a cell. -/
structure CellStyle where
  fg : Color := .reset
  bg : Color := .reset
  emphasis : Emphasis := {}
  deriving DecidableEq, Repr

/-- The look after applying a style. -/
def CellStyle.apply (c : CellStyle) (s : Style) : CellStyle where
  fg := s.fg.getD c.fg
  bg := s.bg.getD c.bg
  emphasis := c.emphasis.union s.add

theorem Style.patch_default (s : Style) : s.patch {} = s := by
  cases s; simp [Style.patch, Emphasis.union_empty]

/-- Applying a patched style is applying the two styles one after the other. -/
theorem CellStyle.apply_patch (c : CellStyle) (s t : Style) :
    c.apply (s.patch t) = (c.apply s).apply t := by
  obtain ⟨fg, bg, e⟩ := c
  obtain ⟨sf, sb, sa⟩ := s
  obtain ⟨tf, tb, ta⟩ := t
  cases sf <;> cases sb <;> cases tf <;> cases tb <;>
    simp [CellStyle.apply, Style.patch, Emphasis.union, Bool.or_assoc]

end LogBrowser.Display
