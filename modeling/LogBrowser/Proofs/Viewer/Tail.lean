import LogBrowser.Proofs.LogsPage.Ended
import LogBrowser.Viewer.App

/-!
# Source messages and the logs page

The viewer hands each of its calls to the logs page as page calls: a command as at most one, and
a batch of source messages as merges of the lines gathered so far, each followed by the flag of
a source that ended (`App.page_perform`). What holds of every run of page calls therefore holds
of the viewer's page.

A source's end is flagged on the entries the page holds at that moment: the lines filed so far,
those of the same batch before the end message included. From then on these entries stay
flagged and show the suffix (`App.ended_source_flags_filed_lines`). Lines held back while the
page is paused are not among them: they are filed unflagged when the page resumes
(`App.held_line_stays_unflagged`).
-/

namespace LogBrowser

namespace TailMessage

/-- The source a message reports as ended or failed. -/
def endedSource : TailMessage → Option SourceName
  | .lines _ => none
  | .ended src => some src
  | .failed src _ => some src

end TailMessage

namespace App

/-- A call of the viewer: a command, or a batch of source messages. -/
inductive Request where
  | command (c : Command)
  | tail (msgs : List TailMessage)

/-- Answers a call. -/
def perform (a : App) : Request → App
  | .command c => a.handleCommand c
  | .tail msgs => a.handleTail msgs

/-- The page calls a batch of source messages makes, given the lines not yet merged. -/
def tailCalls : List LogLine → List TailMessage → List LogsPage.Request
  | pending, [] => [.append pending]
  | pending, .lines batch :: rest => tailCalls (pending ++ batch) rest
  | pending, .ended src :: rest => .append pending :: .markSourceEnded src :: tailCalls [] rest
  | pending, .failed src _ :: rest => .append pending :: .markSourceEnded src :: tailCalls [] rest

/-- The page calls a command makes. -/
def commandCalls (a : App) : Command → List LogsPage.Request
  | .view e =>
    match a.screen with
    | .logs => [.handle e]
    | .singleLog => []
  | .toggleContext => [.toggleContext]
  | .reverseOrder => [.reverseOrder]
  | .cycleTimestamps => [.cycleTimestamps]
  | .cycleSources => [.cycleSources]
  | .togglePause => [.togglePause]
  | .clearLogs => [.clear]
  | .nudgeUp | .prevLog => [.scrollUpByOne]
  | .nudgeDown | .nextLog => [.scrollDownByOne]
  | .openLog | .quit => []

/-- The page calls a call of the viewer makes. -/
def pageCalls (a : App) : Request → List LogsPage.Request
  | .command c => a.commandCalls c
  | .tail msgs => tailCalls [] msgs

theorem page_handleTailFrom (a : App) (pending : List LogLine) (msgs : List TailMessage) :
    (a.handleTailFrom pending msgs).page = (tailCalls pending msgs).foldl LogsPage.perform a.page := by
  induction msgs generalizing a pending with
  | nil => rfl
  | cons m msgs ih =>
      cases m with
      | lines batch => exact ih a (pending ++ batch)
      | ended src => exact ih _ []
      | failed src err => exact ih _ []

theorem page_showSelectedLog (a : App) : a.showSelectedLog.page = a.page := by
  unfold showSelectedLog
  split <;> rfl

theorem page_handleCommand (a : App) (c : Command) :
    (a.handleCommand c).page = (a.commandCalls c).foldl LogsPage.perform a.page := by
  cases c with
  | view e =>
      simp only [handleCommand, handleViewEvent, commandCalls]
      -- on the single log page the page is left alone
      cases a.screen with
      | logs => rfl
      | singleLog =>
          dsimp only
          split <;> rfl
  | openLog =>
      simp only [handleCommand, commandCalls]
      split <;> rfl
  | nextLog => exact page_showSelectedLog _
  | prevLog => exact page_showSelectedLog _
  | _ => rfl

/-- Every call of the viewer acts on its page as the page calls it makes. -/
theorem page_perform (a : App) (r : Request) :
    (a.perform r).page = (a.pageCalls r).foldl LogsPage.perform a.page := by
  cases r with
  | command c => exact page_handleCommand a c
  | tail msgs => exact page_handleTailFrom a [] msgs

theorem page_foldl_perform (a : App) (rs : List Request) :
    ∃ prs : List LogsPage.Request, (rs.foldl perform a).page = prs.foldl LogsPage.perform a.page := by
  induction rs generalizing a with
  | nil => exact ⟨[], rfl⟩
  | cons r rs ih =>
      obtain ⟨prs, h⟩ := ih (a.perform r)
      refine ⟨a.pageCalls r ++ prs, ?_⟩
      rw [List.foldl_cons, h, page_perform, List.foldl_append]

/-- In a batch, an end message comes after a merge of the lines gathered before it. -/
theorem tailCalls_append_ended (pending : List LogLine) (msgs₁ msgs₂ : List TailMessage)
    {m : TailMessage} {s : SourceName} (hm : m.endedSource = some s) :
    tailCalls pending (msgs₁ ++ m :: msgs₂) =
      tailCalls pending msgs₁ ++ .markSourceEnded s :: tailCalls [] msgs₂ := by
  induction msgs₁ generalizing pending with
  | nil =>
      cases m with
      | lines batch => simp [TailMessage.endedSource] at hm
      | ended src =>
          cases hm
          rfl
      | failed src err =>
          cases hm
          rfl
  | cons m₁ msgs₁ ih =>
      cases m₁ with
      | lines batch => exact ih (pending ++ batch)
      | ended src => exact congrArg (fun l => _ :: _ :: l) (ih [])
      | failed src err => exact congrArg (fun l => _ :: _ :: l) (ih [])

/-- Handling an end message in a batch flags the source on the page left by the messages
before it. -/
theorem page_handleTail_append_ended (a : App) (msgs₁ msgs₂ : List TailMessage)
    {m : TailMessage} {s : SourceName} (hm : m.endedSource = some s) :
    (a.handleTail (msgs₁ ++ m :: msgs₂)).page =
      (tailCalls [] msgs₂).foldl LogsPage.perform ((a.handleTail msgs₁).page.markSourceEnded s) := by
  unfold handleTail
  rw [page_handleTailFrom, page_handleTailFrom, tailCalls_append_ended [] msgs₁ msgs₂ hm,
    List.foldl_append, List.foldl_cons]
  rfl

/-- Once the viewer has handled the end or the failure of a source `s`, in a batch after the
messages `msgs₁`, every entry of `s` numbered below the page's count at that moment, that is,
every line of `s` filed by then, stays flagged as ended through any later calls, and shows its
source with the suffix or shows no source. -/
theorem ended_source_flags_filed_lines (o : PageOptions) (theme : Theme) (rs₁ rs₂ : List Request)
    (msgs₁ msgs₂ : List TailMessage) {m : TailMessage} {s : SourceName}
    (hm : m.endedSource = some s) :
    let a := rs₁.foldl perform (new (LogsPage.new o) theme)
    let b := rs₂.foldl perform (a.handleTail (msgs₁ ++ m :: msgs₂))
    ∀ e ∈ b.page.store.records, e.source = s → e.seq < (a.handleTail msgs₁).page.nextSeq →
      e.ended = true ∧ (e.shownSource = "" ∨ ∃ label, e.shownSource = label ++ " [ended]") := by
  intro a b e he hs hlt
  -- the flag holds on the page right after the end, and every later page call keeps it
  obtain ⟨prs₂, hb⟩ := page_foldl_perform (a.handleTail (msgs₁ ++ m :: msgs₂)) rs₂
  have hend : LogsPage.EndedBelow s (a.handleTail msgs₁).page.nextSeq b.page := by
    rw [hb, page_handleTail_append_ended a msgs₁ msgs₂ hm, ← List.foldl_append]
    exact (LogsPage.endedBelow_markSourceEnded _ s).foldl_perform _
  -- the page is reached from a new page, so its entries are rendered in its formats
  obtain ⟨prs, hprs⟩ := page_foldl_perform (new (LogsPage.new o) theme)
    (rs₁ ++ .tail (msgs₁ ++ m :: msgs₂) :: rs₂)
  have hst : LogsPage.Styled b.page := by
    have hrun : b = (rs₁ ++ .tail (msgs₁ ++ m :: msgs₂) :: rs₂).foldl perform
        (new (LogsPage.new o) theme) := by
      rw [List.foldl_append, List.foldl_cons]
      rfl
    rw [hrun, hprs]
    exact LogsPage.styled_foldl_perform o prs
  exact ⟨hend.ended e he hs hlt, hend.shownSource hst he hs hlt⟩

/-- One line of a source, then the source's end in the same batch, then a reversal of the
order: the line is flagged. -/
theorem ended_source_flags_filed_lines_reversed :
    let src : SourceName := ⟨"a.log", "/var/log/a.log"⟩
    let line : LogLine := { source := src, timestamp := ⟨0, 1, 0⟩, text := "one" }
    let a := ([] : List Request).foldl perform (new (LogsPage.new {}) Theme.colored)
    let b := [Request.command .reverseOrder].foldl perform
      (a.handleTail ([.lines [line]] ++ TailMessage.ended src :: []))
    (TailMessage.ended src).endedSource = some src ∧
      ∀ e ∈ b.page.store.records, e.source = src →
        e.seq < (a.handleTail [.lines [line]]).page.nextSeq →
        e.ended = true ∧ (e.shownSource = "" ∨ ∃ label, e.shownSource = label ++ " [ended]") :=
  ⟨rfl, ended_source_flags_filed_lines {} Theme.colored [] [.command .reverseOrder]
    [.lines [⟨⟨"a.log", "/var/log/a.log"⟩, ⟨0, 1, 0⟩, "one"⟩]] [] rfl⟩

/-- A line that reaches the viewer while the page is paused, then the end of its source, then
the page resumed: the line is filed unflagged and shows its source without the suffix. -/
theorem held_line_stays_unflagged :
    let src : SourceName := ⟨"a.log", "/var/log/a.log"⟩
    let line : LogLine := { source := src, timestamp := ⟨0, 1, 0⟩, text := "one" }
    let a := [Request.command .togglePause, .tail [.lines [line], .ended src],
      .command .togglePause].foldl perform (new (LogsPage.new {}) Theme.colored)
    ∃ e ∈ a.page.store.records, e.source = src ∧ e.ended = false ∧ e.shownSource = "a.log" := by
  decide +kernel

end App

end LogBrowser
