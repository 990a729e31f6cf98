import Poco.Proofs.Running
import Poco.Session

namespace Poco

/-! A session does everything in turn, but its runs come to the same as a run that
is read off its source: the record grows by the diagnostics, the journal by the
entries, and of the metrics nothing is left from before. -/

namespace Journal

variable (journal : Journal)

@[simp] theorem logAll_logAll (first second : List Entry) :
    (journal.logAll first).logAll second = journal.logAll (first ++ second) :=
  List.foldl_append.symm

/-- Every entry becomes one event, in order. -/
theorem events_logAll (entries : List Entry) :
    (journal.logAll entries).events.toList =
      journal.events.toList ++
        entries.map (·.event journal.limits journal.attachedSource) := by
  induction entries generalizing journal with
  | nil => simp [logAll]
  | cons entry rest ih =>
      have logged : (journal.log entry).events.toList =
          journal.events.toList ++ [entry.event journal.limits journal.attachedSource] :=
        Array.toList_push
      change ((journal.log entry).logAll rest).events.toList = _
      rw [ih, logged, List.append_assoc]
      rfl

end Journal

namespace Metrics

variable (preferences : LexicalPreferences) (metrics : Metrics)

/-- Blanks and open strings count besides the tokens. -/
def addSilent (blanks opens : Nat) : Metrics :=
  { metrics with
    whitespaceSkipped := metrics.whitespaceSkipped + blanks
    unterminated := metrics.unterminated + opens }

theorem addSilent_addSilent (blanks opens moreBlanks moreOpens : Nat) :
    (metrics.addSilent blanks opens).addSilent moreBlanks moreOpens =
      metrics.addSilent (blanks + moreBlanks) (opens + moreOpens) := by
  simp only [addSilent, Nat.add_assoc]

theorem addSilent_add (blanks opens : Nat) (token : Token) :
    (metrics.addSilent blanks opens).add preferences token =
      (metrics.add preferences token).addSilent blanks opens := by
  unfold add addDetail
  cases preferences.detailedMetrics with
  | false => rfl
  | true => cases token.kind <;> rfl

theorem addSilent_foldl (blanks opens : Nat) (tokens : List Token) :
    tokens.foldl (add preferences) (metrics.addSilent blanks opens) =
      (tokens.foldl (add preferences) metrics).addSilent blanks opens :=
  List.foldl_hom (addSilent · blanks opens) fun metrics =>
    addSilent_add preferences metrics blanks opens

end Metrics

namespace Lexeme

open Glyph (InOrder)

/-- How many of the lexemes are blanks. -/
def blanks (lexemes : List Lexeme) : Nat :=
  (lexemes.filter (fun lexeme => lexeme.shape == .blank)).length

variable {lexeme : Lexeme} (halted : Bool)

theorem errors_cons (lexeme : Lexeme) (rest : List Lexeme) :
    errors halted (lexeme :: rest) = errors halted [lexeme] ++ errors halted rest := by
  rw [errors_eq, errors_eq, errors_eq]
  split
  · rfl
  · rw [← List.map_append, ← List.filter_append, List.singleton_append]

theorem errors_of_closed (closed : lexeme.isOpen = false) : errors halted [lexeme] = [] := by
  cases halted <;> simp [errors_eq, closed]

end Lexeme

namespace Session

open Glyph (InOrder)

variable {σ : Type}

@[simp] theorem preferences_count (session : Session σ) (change : Metrics → Metrics) :
    (session.count change).preferences = session.preferences := rfl

@[simp] theorem count_count (session : Session σ) (first second : Metrics → Metrics) :
    (session.count first).count second = session.count fun metrics => second (first metrics) := rfl

variable [Recorder σ]

def reportAll (session : Session σ) (diagnostics : List Diagnostic) : Session σ :=
  diagnostics.foldl report session

/-- What the journal shows of the diagnostics of a run. -/
def mirrored (preferences : LexicalPreferences) (diagnostics : List Diagnostic) : List Entry :=
  if preferences.mirrorDiagnostics then diagnostics.filterMap Diagnostic.mirror? else []

theorem mirrored_append (preferences : LexicalPreferences) (first second : List Diagnostic) :
    mirrored preferences (first ++ second) =
      mirrored preferences first ++ mirrored preferences second := by
  unfold mirrored
  split
  · exact List.filterMap_append
  · rfl

theorem report_eq (session : Session σ) (diagnostic : Diagnostic) :
    session.report diagnostic =
      { session with
        record := Recorder.append session.record diagnostic
        journal := session.journal.logAll (mirrored session.preferences [diagnostic]) } := by
  unfold report mirrored
  split
  · cases mirror : diagnostic.mirror? <;> simp [append, logAll, mirror]
  · rfl

/-- Each diagnostic is recorded once, and logged once if it is mirrored. -/
theorem reportAll_eq (session : Session σ) (diagnostics : List Diagnostic) :
    session.reportAll diagnostics =
      { session with
        record := Recorder.appendAll session.record diagnostics
        journal := session.journal.logAll (mirrored session.preferences diagnostics) } := by
  induction diagnostics generalizing session with
  | nil =>
      unfold mirrored
      split <;> rfl
  | cons first rest ih =>
      have split := mirrored_append session.preferences [first] rest
      rw [List.singleton_append] at split
      change (session.report first).reportAll rest = _
      rw [ih, report_eq, split, ← Journal.logAll_logAll]
      rfl

@[simp] theorem preferences_reportAll (session : Session σ) (diagnostics : List Diagnostic) :
    (session.reportAll diagnostics).preferences = session.preferences := by
  rw [reportAll_eq]
  rfl

/-- Diagnostics in turn are diagnostics at once. -/
theorem reportAll_concat (session : Session σ) (diagnostics : List Diagnostic)
    (last : Diagnostic) :
    (session.reportAll diagnostics).report last = session.reportAll (diagnostics ++ [last]) := by
  simp [reportAll]

theorem reportAll_append (session : Session σ) (first second : List Diagnostic) :
    (session.reportAll first).reportAll second = session.reportAll (first ++ second) := by
  simp [reportAll]

theorem reportAll_count (session : Session σ) (change : Metrics → Metrics)
    (diagnostics : List Diagnostic) :
    (session.reportAll diagnostics).count change =
      (session.count change).reportAll diagnostics := by
  rw [reportAll_eq, reportAll_eq]
  rfl

/-- Scanning with reports is scanning, and then reporting all that was rejected. -/
theorem extendScan_eq (policy : RecoveryPolicy) (session : Session σ) (scan : Scan)
    (position : Position) (text : List Char) :
    (session.reportAll (scan.rejected.toList.map (·.diagnostic))).extendScan policy scan
        position text =
      (Scan.extend policy scan position text).map fun after =>
        (after, session.reportAll (after.rejected.toList.map (·.diagnostic))) := by
  -- What the session has reported is always what the scan has set aside so far.
  induction text generalizing scan position with
  | nil => rfl
  | cons c rest ih =>
      rw [extendScan.eq_def, Scan.extend.eq_def]
      by_cases foreign : CharClass.of c = .unrecognized
      · have reported := session.reportAll_concat (scan.rejected.toList.map (·.diagnostic))
          (LexicalError.unrecognizedSyntax c position.line position.column).diagnostic
        have rejected : (scan.reject c position).rejected.toList.map (·.diagnostic) =
            scan.rejected.toList.map (·.diagnostic) ++
              [(LexicalError.unrecognizedSyntax c position.line position.column).diagnostic] := by
          simp [Scan.reject]
        rw [← rejected] at reported
        simp only [foreign, if_true, reported]
        cases policy with
        | halt => rfl
        | resynchronize =>
            cases position.advance c with
            | error fault => rfl
            | ok stop => exact ih (scan.reject c position) stop
      · simp only [foreign, if_false]
        cases position.advance c with
        | error fault => rfl
        | ok stop => exact ih (scan.keep (.of c) c { start := position, stop }) stop

/-- What reading `lexemes` leaves behind. -/
def afterReading (halted : Bool) (session : Session σ) (lexemes : List Lexeme) : Session σ :=
  let errors := Lexeme.errors halted lexemes
  (session.count fun metrics =>
    ((lexemes.filterMap Lexeme.toToken?).foldl (Metrics.add session.preferences)
      metrics).addSilent (Lexeme.blanks lexemes) errors.length).reportAll
    (errors.map (·.diagnostic))

/-- Passing over a lexeme is the reading of a silent one. -/
theorem passOver_eq (halted : Bool) (session : Session σ) {lexeme : Lexeme}
    (silent : lexeme.toToken? = none) :
    session.passOver halted lexeme = session.afterReading halted [lexeme] := by
  have tokens : [lexeme].filterMap Lexeme.toToken? = [] := by simp [silent]
  rw [passOver, afterReading, tokens]
  rcases Lexeme.toToken?_eq_none_iff.mp silent with blank | open_
  · have closed : lexeme.isOpen = false := by simp [Lexeme.isOpen, blank]
    have errors := Lexeme.errors_of_closed halted closed
    simp [blank, errors, Lexeme.blanks, Metrics.addSilent, reportAll]
  · have shape : lexeme.shape = .openString := by simpa [Lexeme.isOpen] using open_
    cases halted with
    | true => simp [shape, Lexeme.errors_eq, Lexeme.blanks, Metrics.addSilent, reportAll, count]
    | false =>
        simp [shape, Lexeme.errors_eq, open_, Lexeme.blanks, Metrics.addSilent, reportAll,
          Lexeme.unclosed]

theorem afterReading_token (halted : Bool) (session : Session σ) {lexeme : Lexeme}
    {token : Token} (speaks : lexeme.toToken? = some token) :
    session.afterReading halted [lexeme] = session.count (·.add session.preferences token) := by
  have audible : ¬ (lexeme.shape = .blank ∨ lexeme.isOpen = true) := by
    rw [← Lexeme.toToken?_eq_none_iff, speaks]
    exact Option.some_ne_none token
  have errors := Lexeme.errors_of_closed halted (by simpa using mt .inr audible)
  have visible : (lexeme.shape == .blank) = false := beq_false_of_ne (mt .inl audible)
  simp [afterReading, speaks, errors, visible, Lexeme.blanks, Metrics.addSilent, reportAll]

/-- The reading of a first lexeme comes before that of the rest. -/
theorem afterReading_cons (halted : Bool) (session : Session σ) (lexeme : Lexeme)
    (rest : List Lexeme) :
    (session.afterReading halted [lexeme]).afterReading halted rest =
      session.afterReading halted (lexeme :: rest) := by
  have errors := Lexeme.errors_cons halted lexeme rest
  have blanks : Lexeme.blanks (lexeme :: rest) =
      Lexeme.blanks [lexeme] + Lexeme.blanks rest := by
    simp only [Lexeme.blanks, ← List.length_append, ← List.filter_append, List.singleton_append]
  have tokens : (lexeme :: rest).filterMap Lexeme.toToken? =
      [lexeme].filterMap Lexeme.toToken? ++ rest.filterMap Lexeme.toToken? := by
    rw [← List.filterMap_append, List.singleton_append]
  simp only [afterReading, errors, blanks, tokens, reportAll_count, reportAll_append,
    preferences_reportAll, preferences_count, count_count, List.map_append, List.length_append,
    List.foldl_append, Metrics.addSilent_foldl, Metrics.addSilent_addSilent]

/-- Reading lexeme by lexeme gives the tokens of the lexemes, and all else that they bring. -/
theorem readOnto_eq (halted : Bool) (session : Session σ) (done : Array Token)
    {glyphs : List Glyph} (inOrder : InOrder glyphs) :
    session.readOnto halted done glyphs =
      .ok (done ++ ((Lexeme.ofGlyphs glyphs).filterMap Lexeme.toToken?).toArray,
        session.afterReading halted (Lexeme.ofGlyphs glyphs)) := by
  match glyphs with
  | [] =>
      have nothing : Lexeme.errors halted [] = [] := by cases halted <;> rfl
      simp [readOnto, afterReading, nothing, Lexeme.blanks, Metrics.addSilent, reportAll, count]
  | first :: tail =>
      have splits := Lexeme.read_glyphs first tail
      have firstInOrder := inOrder.sublist (splits ▸ List.sublist_append_left _ _)
      have laterInOrder := inOrder.sublist (splits ▸ List.sublist_append_right _ _)
      rw [readOnto, Lexeme.ofGlyphs_cons, Lexeme.token?_eq firstInOrder, ← afterReading_cons]
      cases speaks : (Lexeme.read first tail).1.toToken? with
      | none =>
          simp only [readOnto_eq halted _ _ laterInOrder, passOver_eq halted session speaks]
          simp [speaks]
      | some token =>
          simp only [readOnto_eq halted _ _ laterInOrder, afterReading_token halted session speaks]
          simp [speaks]
termination_by glyphs.length
decreasing_by all_goals exact Lexeme.read_shorter first tail

/-- The metrics of a run, put together as a session does it. -/
theorem metrics_ofRun (preferences : LexicalPreferences) (scan : Scan) (lexemes : List Lexeme)
    (tokens : List Token) :
    Metrics.ofRun preferences scan lexemes tokens =
      (tokens.foldl (Metrics.add preferences)
        { unrecognized := scan.rejected.size, halted := scan.halted }).addSilent
          (Lexeme.blanks lexemes) (Lexeme.errors scan.halted lexemes).length := by
  rw [Metrics.ofRun, ← Metrics.addSilent_foldl]
  simp [Metrics.addSilent, Lexeme.blanks]

/-- The entries of a run, put together as a session logs them. -/
theorem entries_eq (preferences : LexicalPreferences) (logging : LoggingPreferences)
    (source : String) (run : Run) :
    run.entries preferences logging source =
      Entry.debugFor logging "Starting lexical analysis"
          [("chars", Text.decimal source.length), ("policy", preferences.recoveryPolicy.name)] ++
        mirrored preferences run.diagnostics ++
        (run.haltedAt.toList.map (fun position =>
          Entry.warning Code.haltedOnDiagnostic
            "Tokenization halted at first unrecognized character"
            [("line", Text.decimal position.line.toNat),
              ("column", Text.decimal position.column.toNat)]) ++
        [Entry.success Code.tokenizationComplete "Tokenization completed"
          [("tokens", Text.decimal run.tokens.length),
            ("diagnostics", Text.decimal run.metrics.diagnosticCount),
            ("policy", preferences.recoveryPolicy.name)]]) :=
  List.append_assoc ..

/-- A session's run is a run over the source, its diagnostics recorded and its entries logged. -/
theorem run_eq (session : Session σ) {source : String}
    (short : source.length ≤ UInt32.size - 2) :
    let run := Run.whole session.preferences source.toList
    session.run source = .ok (run.tokens,
      { tokenizer := { session.tokenizer with metrics := run.metrics }
        record := Recorder.appendAll session.record run.diagnostics
        journal := session.journal.logAll
          (run.entries session.preferences session.journal.preferences source) }) := by
  intro run
  have listShort : source.toList.length ≤ UInt32.size - 2 := by
    rw [String.length_toList]
    exact short
  let policy := session.preferences.recoveryPolicy
  let scan := Scan.whole policy source.toList
  let lexemes := Lexeme.ofSource policy source.toList
  have scanned (started : Session σ) :
      started.extendScan policy {} .start source.toList =
        .ok (scan, started.reportAll (scan.rejected.toList.map (·.diagnostic))) := by
    have whole : Scan.extend policy {} .start source.toList = .ok scan :=
      Scan.ofSource_eq policy listShort
    have extended := extendScan_eq policy started {} .start source.toList
    rw [whole] at extended
    exact extended
  have read (started : Session σ) :
      started.readOnto scan.halted #[] scan.kept.toList =
        .ok (run.tokens.toArray, started.afterReading scan.halted lexemes) := by
    have inOrder := Lexeme.inOrder_ofSource policy listShort
    rw [Lexeme.flatMap_glyphs_ofSource] at inOrder
    have onto := readOnto_eq scan.halted started #[] inOrder
    rw [Array.empty_append] at onto
    exact onto
  have metrics : run.metrics = _ := metrics_ofRun session.preferences scan lexemes run.tokens
  have diagnostics : run.diagnostics = scan.rejected.toList.map (·.diagnostic) ++
      (Lexeme.errors scan.halted lexemes).map (·.diagnostic) := List.map_append
  have logged := mirrored_append session.preferences
    (scan.rejected.toList.map (·.diagnostic))
    ((Lexeme.errors scan.halted lexemes).map (·.diagnostic))
  have recorded : Recorder.appendAll
      (Recorder.appendAll session.record (scan.rejected.toList.map (·.diagnostic)))
      ((Lexeme.errors scan.halted lexemes).map (·.diagnostic)) =
        Recorder.appendAll session.record run.diagnostics := by
    rw [diagnostics]
    exact List.foldl_append.symm
  rw [entries_eq, diagnostics, logged, ← diagnostics, ← recorded, metrics]
  simp only [Session.run, bind, Except.bind]
  rw [scanned]
  simp only []
  rw [read]
  simp only [afterReading, reportAll_eq, count, logAll, preferences, Journal.logAll_logAll,
    List.size_toArray, List.append_assoc]
  rfl

/-- A session makes of a source what its tokenizer makes of it at once. -/
theorem run_refines (session : Session σ) {source : String}
    (short : source.length ≤ UInt32.size - 2) :
    ∃ run tokenizer record,
      session.tokenizer.run source session.record = .ok (run, tokenizer, record) ∧
      session.run source = .ok (run.tokens,
        { tokenizer
          record
          journal := session.journal.logAll
            (run.entries session.preferences session.journal.preferences source) }) := by
  refine ⟨_, _, _, ?_, run_eq session short⟩
  rw [Tokenizer.run, tokenize_eq session.tokenizer.preferences short]
  rfl

end Session

end Poco
