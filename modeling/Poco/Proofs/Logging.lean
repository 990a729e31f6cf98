import Mathlib.Data.List.Forall2
import Poco.Proofs.Counting
import Poco.Proofs.Events
import Poco.Proofs.Sessions

namespace Poco

theorem Lexeme.length_le_glyphs (lexemes : List Lexeme) :
    lexemes.length ≤ (lexemes.flatMap glyphs).length := by
  induction lexemes with
  | nil => exact Nat.le_refl _
  | cons lexeme rest ih =>
      have first : 0 < lexeme.glyphs.length := List.length_pos_of_mem lexeme.last_mem
      rw [List.flatMap_cons, List.length_append, List.length_cons]
      omega

namespace Glyph

@[simp] theorem length_allBehind (before text : List Char) :
    (allBehind before text).length = text.length := by
  induction text generalizing before with
  | nil => rfl
  | cons c rest ih => simp [ih]

end Glyph

theorem Scan.length_refused_le (policy : RecoveryPolicy) (before text : List Char) :
    (refused policy before text).length ≤ text.length := by
  have others : ((Glyph.allBehind before text).filter (fun glyph => !glyph.isRecognized)).length ≤
      text.length := by
    rw [← Glyph.length_allBehind before text]
    exact List.length_filter_le _ _
  cases policy with
  | resynchronize => exact others
  | halt => exact Nat.le_trans (List.length_take_le' _ _) others

namespace Run

variable (preferences : LexicalPreferences) (source : List Char)

theorem length_lexemes_le :
    (Lexeme.ofSource preferences.recoveryPolicy source).length ≤ source.length := by
  have lexemes := Lexeme.length_le_glyphs (Lexeme.ofSource preferences.recoveryPolicy source)
  have kept := Scan.size_kept_le preferences.recoveryPolicy source
  rw [Scan.whole, List.size_toArray] at kept
  rw [Lexeme.flatMap_glyphs_ofSource] at lexemes
  exact Nat.le_trans lexemes kept

theorem length_tokens_le : (whole preferences source).tokens.length ≤ source.length :=
  Nat.le_trans (List.length_filterMap_le _ _) (length_lexemes_le preferences source)

theorem length_diagnostics_le :
    (whole preferences source).diagnostics.length ≤ 2 * source.length := by
  have refused := Scan.length_refused_le preferences.recoveryPolicy [] source
  have unclosed := Nat.le_trans
    (List.length_filter_le Lexeme.isOpen (Lexeme.ofSource preferences.recoveryPolicy source))
    (length_lexemes_le preferences source)
  rw [diagnostics_whole]
  split <;> simp <;> omega

end Run

/-- The limits cut nothing that a run logs: no message is longer than the one about a halt, and
no value than the name of a policy. -/
structure LogLimits.SparesRuns (limits : LogLimits) : Prop where
  messages : 51 ≤ limits.maxMessageLength
  values : 13 ≤ limits.maxContextValueLength

example : Build.development.log.SparesRuns ∧ Build.production.log.SparesRuns :=
  ⟨⟨by decide, by decide⟩, ⟨by decide, by decide⟩⟩

namespace LogLimits.SparesRuns

variable {limits : LogLimits} (spares : limits.SparesRuns)

include spares

theorem message_fits {message : String} (short : message.length ≤ 51) :
    message.length ≤ limits.maxMessageLength :=
  Nat.le_trans short spares.messages

theorem decimal_fits {n : Nat} (small : n < 10 ^ 10) :
    (Text.decimal n).length ≤ limits.maxContextValueLength := by
  have digits : (Text.decimal n).length ≤ 10 := Text.length_decimal_le small
  exact Nat.le_trans digits (Nat.le_trans (by decide) spares.values)

theorem word_fits (word : UInt32) :
    (Text.decimal word.toNat).length ≤ limits.maxContextValueLength :=
  spares.decimal_fits (Nat.lt_trans word.toNat_lt (by decide))

theorem policy_fits (policy : RecoveryPolicy) :
    policy.name.length ≤ limits.maxContextValueLength := by
  have name : policy.name.length ≤ 13 := by cases policy <;> decide
  exact Nat.le_trans name spares.values

end LogLimits.SparesRuns

namespace Session

variable {σ : Type} (session : Session σ)

/-- The event is the start of a run over `source`. -/
def TellsStart (source : String) (event : Event) : Prop :=
  event.Tells session.journal.limits session.journal.attachedSource .debug "D000"
    "Starting lexical analysis"
    [("chars", Text.decimal source.length), ("policy", session.preferences.recoveryPolicy.name)]

def TellsDiagnostic (diagnostic : Diagnostic) (event : Event) : Prop :=
  ∃ code, diagnostic.code? = some code ∧
    event.Tells session.journal.limits session.journal.attachedSource .error code
      diagnostic.message
      [("line", Text.decimal diagnostic.line.toNat),
        ("column", Text.decimal diagnostic.column.toNat)]

def TellsHalt (position : Position) (event : Event) : Prop :=
  event.Tells session.journal.limits session.journal.attachedSource .warning "W020"
    "Tokenization halted at first unrecognized character"
    [("line", Text.decimal position.line.toNat), ("column", Text.decimal position.column.toNat)]

/-- The event is the end of a run that gave `tokens` and recorded `appended`. -/
def TellsEnd (tokens : List Token) (appended : List Diagnostic) (event : Event) : Prop :=
  event.Tells session.journal.limits session.journal.attachedSource .info "I020"
    "Tokenization completed"
    [("tokens", Text.decimal tokens.length), ("diagnostics", Text.decimal appended.length),
      ("policy", session.preferences.recoveryPolicy.name)]

/-- What a run shows in the journal, from its start to its end. -/
def LogsRun (source : String) (haltedAt : Option Position) (tokens : List Token)
    (appended : List Diagnostic) (events : List Event) : Prop :=
  ∃ started mirrored halts completed,
    events = started ++ mirrored ++ halts ++ [completed] ∧
    (if session.journal.preferences.least = .debug then
      ∃ event, started = [event] ∧ session.TellsStart source event else started = []) ∧
    (if session.preferences.mirrorDiagnostics then
      List.Forall₂ session.TellsDiagnostic appended mirrored else mirrored = []) ∧
    List.Forall₂ session.TellsHalt haltedAt.toList halts ∧
    session.TellsEnd tokens appended completed

theorem debugFor_event (limits : LogLimits) (preferences : LoggingPreferences) (message : String)
    (facts : List (String × String)) (source : Option String) :
    (Entry.debugFor preferences message facts).map (·.event limits source) =
      if preferences.least = .debug then
        [(Entry.debug message facts).event limits source]
      else
        [] := by
  rw [Entry.debugFor]
  cases preferences.least <;> rfl

section

variable {session} (spares : session.journal.limits.SparesRuns)

include spares

theorem tellsStart {source : String} (short : source.length < 10 ^ 10) :
    session.TellsStart source
      ((Entry.debug "Starting lexical analysis"
        [("chars", Text.decimal source.length),
          ("policy", session.preferences.recoveryPolicy.name)]).event session.journal.limits
        session.journal.attachedSource) := by
  refine Entry.tells_event (Entry.fits (spares.message_fits (by decide)) ?_ ?_) _
  · simp [spares.decimal_fits short, spares.policy_fits]
  · simp [Event.sourceKey]

theorem tellsDiagnostics (errors : List LexicalError) :
    List.Forall₂ session.TellsDiagnostic (errors.map (·.diagnostic))
      (((errors.map (·.diagnostic)).filterMap Diagnostic.mirror?).map
        (·.event session.journal.limits session.journal.attachedSource)) := by
  induction errors with
  | nil => exact .nil
  | cons error rest ih =>
      refine .cons ⟨error.code, rfl, Entry.tells_event (Entry.fits ?_ ?_ ?_) _⟩ ih
      · refine spares.message_fits ?_
        change error.kind.message.length ≤ 51
        cases error.kind <;> decide
      · simp [spares.word_fits]
      · simp [Event.sourceKey]

theorem tellsHalt (position : Position) :
    session.TellsHalt position
      ((Entry.warning Code.haltedOnDiagnostic
        "Tokenization halted at first unrecognized character"
        [("line", Text.decimal position.line.toNat),
          ("column", Text.decimal position.column.toNat)]).event session.journal.limits
        session.journal.attachedSource) := by
  refine Entry.tells_event (Entry.fits (spares.message_fits (by decide)) ?_ ?_) _
  · simp [spares.word_fits]
  · simp [Event.sourceKey]

theorem tellsEnd {tokens : List Token} {appended : List Diagnostic}
    (fewTokens : tokens.length < 10 ^ 10) (fewDiagnostics : appended.length < 10 ^ 10) :
    session.TellsEnd tokens appended
      ((Entry.success Code.tokenizationComplete "Tokenization completed"
        [("tokens", Text.decimal tokens.length), ("diagnostics", Text.decimal appended.length),
          ("policy", session.preferences.recoveryPolicy.name)]).event session.journal.limits
        session.journal.attachedSource) := by
  refine Entry.tells_event (Entry.fits (spares.message_fits (by decide)) ?_ ?_) _
  · simp [spares.decimal_fits fewTokens, spares.decimal_fits fewDiagnostics, spares.policy_fits]
  · simp [Event.sourceKey]

theorem logsRun_entries {source : String} (short : source.length ≤ UInt32.size - 2) :
    let run := Run.whole session.preferences source.toList
    session.LogsRun source run.haltedAt run.tokens run.diagnostics
      ((run.entries session.preferences session.journal.preferences source).map
        (·.event session.journal.limits session.journal.attachedSource)) := by
  intro run
  have listShort : source.toList.length ≤ UInt32.size - 2 := by
    rw [String.length_toList]
    exact short
  have tokens : run.tokens.length ≤ source.toList.length := Run.length_tokens_le _ _
  have diagnostics : run.diagnostics.length ≤ 2 * source.toList.length :=
    Run.length_diagnostics_le _ _
  rw [String.length_toList] at tokens diagnostics
  have small : 2 * source.length < 10 ^ 10 := by
    simp only [UInt32.size] at short
    omega
  have counted : run.metrics.diagnosticCount = run.diagnostics.length :=
    (Run.metrics_agree listShort).reported
  rw [entries_eq, counted]
  simp only [List.map_append, List.map_cons, List.map_nil, ← List.append_assoc]
  refine ⟨_, _, _, _, rfl, ?_, ?_, ?_, tellsEnd spares (by omega) (by omega)⟩
  · rw [debugFor_event]
    split
    · exact ⟨_, rfl, tellsStart spares (by omega)⟩
    · rfl
  · rw [mirrored]
    split
    · exact tellsDiagnostics spares _
    · rfl
  · cases run.haltedAt with
    | none => exact .nil
    | some position => exact .cons (tellsHalt spares position) .nil

end

end Session

theorem session_logs_in_order {σ : Type} [Recorder σ] (session : Session σ) (source : String)
    (short : source.length ≤ UInt32.size - 2) (spares : session.journal.limits.SparesRuns) :
    ∃ scan tokens after appended events,
      Scan.ofSource session.preferences.recoveryPolicy source.toList = .ok scan ∧
      session.run source = .ok (tokens, after) ∧
      Recorder.entries after.record = Recorder.entries session.record ++ appended ∧
      after.journal.events.toList = session.journal.events.toList ++ events ∧
      session.LogsRun source scan.haltedAt tokens appended events := by
  have listShort : source.toList.length ≤ UInt32.size - 2 := by
    rw [String.length_toList]
    exact short
  refine ⟨_, _, _, _, _, Scan.ofSource_eq _ listShort, Session.run_eq session short,
    Recorder.entries_appendAll _ _, Journal.events_logAll _ _, Session.logsRun_entries spares short⟩

theorem session_logs_in_order_named :
    let session : Session Findings :=
      { tokenizer := { preferences := { recoveryPolicy := .halt } }
        record := {}
        journal := { preferences := { least := .debug }, source := some "é.poco" } }
    "x = 1.5\nlet\t@y'".length ≤ UInt32.size - 2 ∧ session.journal.limits.SparesRuns ∧
      ∃ scan tokens after appended events,
        Scan.ofSource .halt "x = 1.5\nlet\t@y'".toList = .ok scan ∧
        session.run "x = 1.5\nlet\t@y'" = .ok (tokens, after) ∧
        Recorder.entries after.record = Recorder.entries session.record ++ appended ∧
        after.journal.events.toList = session.journal.events.toList ++ events ∧
        session.LogsRun "x = 1.5\nlet\t@y'" scan.haltedAt tokens appended events := by
  intro session
  have spares : session.journal.limits.SparesRuns := ⟨by decide, by decide⟩
  exact ⟨by decide, spares, session_logs_in_order session "x = 1.5\nlet\t@y'" (by decide) spares⟩

end Poco
