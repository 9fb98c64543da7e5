import LogBrowser.Display.Style

/-!
# Themes

The palette and the set of styles every part of the viewer draws with. There are two themes: the
coloured one, and a monochrome one for terminals where colours are unwanted, which marks the same
things with emphasis alone (bold, dim, underlined, reversed).
-/

namespace LogBrowser

open LogBrowser.Display

namespace Palette

/-- Body text. -/
def primary : Color := .rgb 210 210 225
/-- Secondary text: suffixes and the footer. -/
def secondary : Color := .rgb 115 115 138
/-- Muted text: idle labels, counts and hints. -/
def muted : Color := .rgb 72 72 88
/-- Failures. -/
def accent : Color := .rgb 255 95 95
/-- Behind the selected row. -/
def selectionBg : Color := .rgb 28 28 40
/-- Behind the selected row while a query is typed. -/
def editingBg : Color := .rgb 40 36 20
/-- Behind the query while it is typed. -/
def filterBg : Color := .rgb 20 20 32
/-- The query. -/
def filterFg : Color := .rgb 255 200 80
/-- Behind an occurrence of the query. -/
def matchBg : Color := .rgb 255 200 80
/-- An occurrence of the query. -/
def matchFg : Color := .rgb 18 18 18
/-- The top header. -/
def header : Color := .rgb 120 100 200
/-- The mode name while moving through the logs. -/
def modeNormal : Color := .rgb 115 115 138
/-- The mode name while reading one log. -/
def modeLog : Color := .rgb 120 100 200
/-- The mode name while typing a query. -/
def modeFilter : Color := .rgb 255 200 80
/-- The paused mark. -/
def modePaused : Color := .rgb 255 184 80

end Palette

/-- The styles of the viewer. -/
structure Theme where
  /-- Content rows. -/
  text : Style
  /-- The top header. -/
  header : Style
  /-- The filter label with no query and no focus. -/
  filterIdle : Style
  /-- The filter label while the query is typed. -/
  filterEditing : Style
  /-- The filter label with a query in force. -/
  filterApplied : Style
  /-- What follows the query in the label. -/
  filterSuffix : Style
  /-- The selected row. -/
  selected : Style
  /-- The selected row while the query is typed. -/
  selectedEditing : Style
  /-- Occurrences of the query in rows, laid over the row's style. -/
  highlight : Style
  /-- The position footer of a focused view. -/
  footer : Style
  /-- The position footer of a view without focus. -/
  footerUnfocused : Style
  /-- The text shown instead of rows when there are none. -/
  placeholder : Style
  /-- Counts, notices and key hints. -/
  status : Style
  /-- A notice about a failure. -/
  error : Style
  deriving Repr

/-- Bold, as a style. -/
def Style.bold : Style := { add := { bold := true } }

namespace Theme

/-- The coloured theme. -/
def colored : Theme where
  text := .ofFg Palette.primary
  header := { fg := some Palette.header, add := { bold := true } }
  filterIdle := .ofFg Palette.muted
  filterEditing := { fg := some Palette.filterFg, bg := some Palette.filterBg }
  filterApplied := .ofFg Palette.filterFg
  filterSuffix := .ofFg Palette.secondary
  selected := { fg := some Palette.primary, bg := some Palette.selectionBg, add := { bold := true } }
  selectedEditing := { fg := some Palette.primary, bg := some Palette.editingBg }
  highlight := { fg := some Palette.matchFg, bg := some Palette.matchBg }
  footer := .ofFg Palette.secondary
  footerUnfocused := .ofFg Palette.muted
  placeholder := .ofFg Palette.muted
  status := .ofFg Palette.muted
  error := .ofFg Palette.accent

/-- The theme without colours. -/
def monochrome : Theme where
  text := {}
  header := Style.bold
  filterIdle := { add := { dim := true } }
  filterEditing := { add := { underlined := true } }
  filterApplied := {}
  filterSuffix := { add := { dim := true } }
  selected := { add := { reversed := true } }
  selectedEditing := { add := { underlined := true } }
  highlight := { add := { bold := true, underlined := true } }
  footer := {}
  footerUnfocused := { add := { dim := true } }
  placeholder := { add := { dim := true } }
  status := { add := { dim := true } }
  error := Style.bold

/-- The theme for a colour setting. -/
def ofColor (color : Bool) : Theme := if color then colored else monochrome

end Theme

end LogBrowser
