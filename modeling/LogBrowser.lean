import LogBrowser.CommandLine
import LogBrowser.Display.Paragraph
import LogBrowser.Display.Style
import LogBrowser.Filter.Basic
import LogBrowser.Filter.Label
import LogBrowser.JsonText.Parse
import LogBrowser.JsonText.Pretty
import LogBrowser.JsonText.Value
import LogBrowser.Keymap
import LogBrowser.LineInput
import LogBrowser.Logs.Entry
import LogBrowser.Logs.Line
import LogBrowser.Logs.Page
import LogBrowser.Logs.Single
import LogBrowser.Logs.Source
import LogBrowser.Main
import LogBrowser.Number.Binary64
import LogBrowser.Number.Decimal
import LogBrowser.Pattern.CharSet
import LogBrowser.Pattern.Classes
import LogBrowser.Pattern.Match
import LogBrowser.Pattern.Parse
import LogBrowser.Pattern.Property
import LogBrowser.Pattern.Syntax
import LogBrowser.Proofs.FilteredFrame
import LogBrowser.Proofs.FilteredSync
import LogBrowser.Proofs.FilterPattern
import LogBrowser.Proofs.JsonText.Escapes
import LogBrowser.Proofs.LogsPage.Ledger
import LogBrowser.Proofs.LogsPage.Selection
import LogBrowser.Proofs.LogsPage.Reverse
import LogBrowser.Proofs.LogsPage.Ended
import LogBrowser.Proofs.Logs.LineParse
import LogBrowser.Proofs.Viewer.Highlight
import LogBrowser.Proofs.Viewer.Tail
import LogBrowser.Proofs.MatchCursor
import LogBrowser.Proofs.MatchFocus
import LogBrowser.Proofs.MatchSteps
import LogBrowser.Proofs.Store
import LogBrowser.Proofs.Text.Wrapping
import LogBrowser.Proofs.Text.Panning
import LogBrowser.Proofs.Time.Calendar
import LogBrowser.Proofs.Time.Rfc3339
import LogBrowser.Proofs.Viewport.Follow
import LogBrowser.Proofs.Viewport.Footer
import LogBrowser.Proofs.Viewport.Frame
import LogBrowser.Proofs.Viewport.Lines
import LogBrowser.Proofs.Viewport.Range
import LogBrowser.Proofs.Viewport.Restore
import LogBrowser.Proofs.Viewport.Reveal
import LogBrowser.Proofs.Viewport.Bottom
import LogBrowser.Proofs.Viewport.Rows
import LogBrowser.Proofs.Viewport.Visible
import LogBrowser.Settings
import LogBrowser.Store
import LogBrowser.Text.Columns
import LogBrowser.Text.Find
import LogBrowser.Text.Grapheme
import LogBrowser.Text.Quote
import LogBrowser.Text.Width
import LogBrowser.Text.Word
import LogBrowser.Text.Wrap
import LogBrowser.Time.Calendar
import LogBrowser.Time.Instant
import LogBrowser.Toml.Document
import LogBrowser.Toml.Scan
import LogBrowser.Toml.Value
import LogBrowser.Unicode.Age
import LogBrowser.Unicode.Alphabetic
import LogBrowser.Unicode.Blank
import LogBrowser.Unicode.CaseFold
import LogBrowser.Unicode.Category
import LogBrowser.Unicode.CodeSet
import LogBrowser.Unicode.EastAsianWide
import LogBrowser.Unicode.Emoji
import LogBrowser.Unicode.GraphemeBreak
import LogBrowser.Unicode.Joining
import LogBrowser.Unicode.Property
import LogBrowser.Unicode.Script
import LogBrowser.Unicode.SentenceBreak
import LogBrowser.Unicode.WordBreak
import LogBrowser.Unicode.ZeroWidth
import LogBrowser.View.Event
import LogBrowser.View.Filtered
import LogBrowser.View.Record
import LogBrowser.View.Viewport.Basic
import LogBrowser.View.Viewport.Scroll
import LogBrowser.View.Viewport.Update
import LogBrowser.Viewer.App
import LogBrowser.Viewer.LogView
import LogBrowser.Viewer.Start
import LogBrowser.Viewer.StatusBar
import LogBrowser.Viewer.Theme
