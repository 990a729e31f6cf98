import Poco.Proofs.Running

namespace Poco

open Alphabet (quote recognizes)
open Glyph (behind allBehind)

theorem Alphabet.count_quote_filter (text : List Char) :
    (text.filter recognizes).count quote = text.count quote :=
  List.count_filter (by decide)

/-- A text with characters outside the alphabet has a first one. -/
theorem Alphabet.exists_first_foreign {source : List Char}
    (foreign : ¬ ∀ c ∈ source, recognizes c = true) :
    ∃ before c rest, source = before ++ c :: rest ∧ (∀ d ∈ before, recognizes d = true) ∧
      recognizes c = false := by
  have parts := List.takeWhile_append_dropWhile (p := recognizes) (l := source)
  cases remaining : source.dropWhile recognizes with
  | nil => exact absurd (List.dropWhile_eq_nil_iff.mp remaining) foreign
  | cons c rest =>
      rw [remaining] at parts
      have stops := List.head?_dropWhile_not recognizes source
      rw [remaining] at stops
      exact ⟨_, c, rest, parts.symm, fun d member => List.mem_takeWhile_imp member, stops⟩

theorem Glyph.filter_foreign_eq_nil {source : List Char}
    (known : ∀ d ∈ source, recognizes d = true) :
    (allBehind [] source).filter (fun glyph => !glyph.isRecognized) = [] := by
  apply List.filter_eq_nil_iff.mpr
  intro glyph member
  obtain ⟨passed, d, more, rfl, rfl⟩ := Glyph.mem_allBehind.mp member
  simp [known d (by simp)]

theorem Scan.refused_eq_nil (policy : RecoveryPolicy) {source : List Char}
    (known : ∀ d ∈ source, recognizes d = true) :
    Scan.refused policy [] source = [] := by
  cases policy <;> simp only [refused, Glyph.filter_foreign_eq_nil known, List.take_nil]

section FirstForeign

variable {before : List Char} {c : Char} (known : ∀ d ∈ before, recognizes d = true)
  (foreign : recognizes c = false) (rest : List Char)

include known foreign

theorem Scan.reached_halt : Scan.reached .halt (before ++ c :: rest) = before := by
  rw [reached, List.takeWhile_append_of_pos known,
    List.takeWhile_cons_of_neg (by simp [foreign]), List.append_nil]

theorem Scan.refused_halt : Scan.refused .halt [] (before ++ c :: rest) = [behind before c] := by
  rw [refused, Glyph.allBehind_append, List.filter_append, Glyph.filter_foreign_eq_nil known]
  simp [foreign]

end FirstForeign

namespace Spells

variable {shape : Shape} {text : List Char}

theorem quote_not_mem (spells : Spells shape text) (otherShape : shape ≠ .string) :
    quote ∉ text := by
  intro member
  rcases spells.char_cases member with string | ⟨-, blank⟩ | wordPart |
    ⟨symbol, listed, unquoted, inside⟩
  · exact otherShape string
  · exact absurd blank (by decide)
  · exact absurd wordPart (by decide)
  · exact symbol_unquoted listed unquoted inside

theorem count_quote (spells : Spells shape text) :
    text.count quote = if shape = .string then 2 else 0 := by
  by_cases string : shape = .string
  · subst string
    cases spells with
    | string unquoted => simp [List.count_eq_zero.mpr unquoted]
  · rw [if_neg string]
    exact List.count_eq_zero.mpr (spells.quote_not_mem string)

end Spells

namespace Lexeme

variable {lexemes : List Lexeme}

theorem string_toToken? (lexeme : Lexeme) :
    (lexeme.toToken?.map (·.kind == .string)).getD false = (lexeme.shape == .string) := by
  obtain ⟨shape, first, others⟩ := lexeme
  cases shape with
  | word =>
      simp only [toToken?, tokenKind?]
      split <;> rfl
  | _ => rfl

theorem countP_string_tokens (lexemes : List Lexeme) :
    (lexemes.filterMap toToken?).countP (·.kind == .string) =
      lexemes.countP (·.shape == .string) := by
  rw [List.countP_filterMap]
  exact congrArg (lexemes.countP ·) (funext string_toToken?)

namespace Reading

/-- Two quotes for every string, and one more for an open string. -/
theorem count_quote (reading : Reading lexemes) :
    (lexemes.flatMap chars).count quote =
      2 * lexemes.countP (·.shape == .string) + lexemes.countP isOpen := by
  induction reading with
  | done => rfl
  | @openString first others opens unclosed =>
      have opening : first.char = quote := by simpa [isQuote] using opens
      have none := List.count_eq_zero.mpr (quote_not_mem_map unclosed)
      simp [chars, Lexeme.glyphs, opening, isOpen, none]
  | @step lexeme lexemes leads next ih =>
      have closed := isOpen_of_spells leads.spells
      rw [List.flatMap_cons, List.count_append, ih, leads.spells.count_quote,
        List.countP_cons, List.countP_cons, closed]
      by_cases string : lexeme.shape = .string
      · simp [string]
        omega
      · simp [string]

/-- Only the last lexeme can be open. -/
theorem open_cases (reading : Reading lexemes) :
    lexemes.filter isOpen = [] ∨
      ∃ front opened, lexemes = front ++ [opened] ∧ lexemes.filter isOpen = [opened] ∧
        isQuote opened.first = true ∧ ∀ glyph ∈ opened.others, isQuote glyph = false := by
  induction reading with
  | done => exact .inl rfl
  | openString opens unclosed => exact .inr ⟨[], _, rfl, rfl, opens, unclosed⟩
  | step leads next ih =>
      have closed := isOpen_of_spells leads.spells
      rcases ih with none | ⟨front, opened, rfl, only, opens, unclosed⟩
      · exact .inl (by simp [closed, none])
      · exact .inr ⟨_ :: front, opened, rfl, by simpa [closed] using only, opens, unclosed⟩

/-- A text ends in an open string when its quotes do not pair up. -/
theorem countP_isOpen (reading : Reading lexemes) :
    lexemes.countP isOpen = (lexemes.flatMap chars).count quote % 2 := by
  have quotes := reading.count_quote
  have atMostOne : lexemes.countP isOpen ≤ 1 := by
    rw [List.countP_eq_length_filter]
    rcases reading.open_cases with none | ⟨_, _, -, only, -⟩
    · simp [none]
    · simp [only]
  omega

end Reading

theorem countP_isOpen_ofSource (source : List Char) :
    (ofSource .resynchronize source).countP isOpen = source.count quote % 2 := by
  rw [(reading_ofSource .resynchronize source).countP_isOpen, flatMap_chars_ofSource,
    Scan.keptChars, Alphabet.count_quote_filter]

theorem closed_of_paired {source : List Char} (paired : source.count quote % 2 = 0) :
    ∀ lexeme ∈ ofSource .resynchronize source, lexeme.isOpen = false := by
  have none := countP_isOpen_ofSource source
  rw [paired, List.countP_eq_zero] at none
  intro lexeme member
  simpa using none lexeme member

/-- An open string begins at the last quote of its source. -/
theorem open_at_last_quote {source : List Char} {front : List Lexeme} {opened : Lexeme}
    (parts : ofSource .resynchronize source = front ++ [opened])
    (opens : isQuote opened.first = true)
    (unclosed : ∀ glyph ∈ opened.others, isQuote glyph = false) :
    ∃ before rest, source = before ++ quote :: rest ∧ quote ∉ rest ∧
      opened.first = behind before quote := by
  have kept := flatMap_glyphs_ofSource .resynchronize source
  rw [parts, List.flatMap_append, List.flatMap_singleton] at kept
  obtain ⟨left, right, rfl, -, tail⟩ := Glyph.filter_allBehind_append kept.symm
  obtain ⟨dropped, c, rest, rfl, -, -, first, others⟩ := Glyph.filter_allBehind_cons tail.symm
  obtain rfl : c = quote := by simpa [isQuote, first] using opens
  refine ⟨left ++ dropped, rest, by simp, ?_, by simpa using first⟩
  intro member
  have known : quote ∈ rest.filter recognizes := List.mem_filter.mpr ⟨member, by decide⟩
  rw [← Glyph.map_char_filter_allBehind, ← others] at known
  exact quote_not_mem_map unclosed known

end Lexeme

/-- A diagnostic at the place of whatever follows `before`. -/
def Diagnostic.behind (kind : DiagnosticKind) (before : List Char) : Diagnostic :=
  .ofKind kind (Position.after before).line (Position.after before).column

/-- One diagnostic for every character of `source` outside the alphabet, at its place. -/
def Diagnostic.refusals (source : List Char) : List Diagnostic :=
  ((allBehind [] source).filter fun glyph => !recognizes glyph.char).map fun glyph =>
    .ofKind .unrecognizedSyntax glyph.span.start.line glyph.span.start.column

theorem Diagnostic.refusals_eq_nil_iff (source : List Char) :
    refusals source = [] ↔ ∀ c ∈ source, recognizes c = true := by
  rw [refusals, List.map_eq_nil_iff, List.filter_eq_nil_iff]
  constructor
  · intro known c member
    obtain ⟨before, rest, split⟩ := List.append_of_mem member
    have here := known (Glyph.behind before c) (Glyph.mem_allBehind.mpr ⟨before, c, rest, split, rfl⟩)
    simpa using here
  · intro known glyph member
    obtain ⟨before, c, rest, rfl, rfl⟩ := Glyph.mem_allBehind.mp member
    simp [known c (by simp)]

namespace Run

/-- The exact record of a run that goes through all of `source`. -/
structure Reports (run : Run) (source : List Char) : Prop where
  paired : source.count quote % 2 = 0 → run.diagnostics = Diagnostic.refusals source
  unpaired : source.count quote % 2 = 1 →
    ∃ before rest, source = before ++ quote :: rest ∧ quote ∉ rest ∧
      run.diagnostics = Diagnostic.refusals source ++ [.behind .unterminatedString before]
  strings : run.tokens.countP (·.kind == .string) = source.count quote / 2

/-- The exact record of a run that halts behind `before`. -/
structure ReportsHalt (run : Run) (before : List Char) : Prop where
  refused : run.diagnostics = [.behind .unrecognizedSyntax before]
  strings : run.tokens.countP (·.kind == .string) = before.count quote / 2

variable {preferences : LexicalPreferences} {source before rest : List Char} {c : Char}

theorem countP_string_whole :
    (whole preferences source).tokens.countP (·.kind == .string) =
      (Scan.keptChars preferences.recoveryPolicy source).count quote / 2 := by
  have reading := Lexeme.reading_ofSource preferences.recoveryPolicy source
  have quotes := reading.count_quote
  rw [reading.countP_isOpen, Lexeme.flatMap_chars_ofSource] at quotes
  rw [tokens_whole, Lexeme.countP_string_tokens]
  omega

theorem refused_eq_refusals (source : List Char) :
    (Scan.refused .resynchronize [] source).map (·.refusal.diagnostic) =
      Diagnostic.refusals source := by
  have same : ∀ glyph ∈ allBehind [] source, (!glyph.isRecognized) = !recognizes glyph.char := by
    intro glyph member
    obtain ⟨passed, d, more, -, rfl⟩ := Glyph.mem_allBehind.mp member
    rfl
  rw [Scan.refused, Diagnostic.refusals, List.filter_congr same]
  rfl

theorem reports_whole (policy : preferences.recoveryPolicy = .resynchronize) :
    (whole preferences source).Reports source := by
  have reading := Lexeme.reading_ofSource .resynchronize source
  have opens := Lexeme.countP_isOpen_ofSource source
  rw [List.countP_eq_length_filter] at opens
  have diagnostics : (whole preferences source).diagnostics = Diagnostic.refusals source ++
      ((Lexeme.ofSource .resynchronize source).filter Lexeme.isOpen).map
        (·.unclosed.diagnostic) := by
    rw [diagnostics_resynchronize policy, refused_eq_refusals]
  constructor
  · intro paired
    rcases reading.open_cases with none | ⟨_, _, -, only, -⟩
    · simpa [none] using diagnostics
    · rw [only, List.length_singleton] at opens
      omega
  · intro unpaired
    rcases reading.open_cases with none | ⟨_, opened, parts, only, begins, unclosed⟩
    · rw [none, List.length_nil] at opens
      omega
    · obtain ⟨before, rest, split, last, first⟩ :=
        Lexeme.open_at_last_quote parts begins unclosed
      refine ⟨before, rest, split, last, ?_⟩
      rw [diagnostics, only, List.map_singleton, Lexeme.unclosed, first]
      rfl
  · rw [countP_string_whole, policy, Scan.keptChars, Alphabet.count_quote_filter]

theorem reportsHalt_whole (policy : preferences.recoveryPolicy = .halt)
    (split : source = before ++ c :: rest) (known : ∀ d ∈ before, recognizes d = true)
    (foreign : recognizes c = false) : (whole preferences source).ReportsHalt before := by
  have refused : Scan.refused .halt [] source = [behind before c] := by
    rw [split, Scan.refused_halt known foreign]
  have kept : Scan.keptChars .halt source = before := by
    rw [split]
    exact Scan.reached_halt known foreign rest
  constructor
  · rw [diagnostics_whole, haltedAt_whole, policy, Scan.haltPlace, refused]
    rfl
  · rw [countP_string_whole, policy, kept]

/-- The policy makes no difference to a source of recognized characters. -/
theorem whole_policy_irrelevant (policy : RecoveryPolicy)
    (known : ∀ d ∈ source, recognizes d = true) :
    whole { preferences with recoveryPolicy := policy } source = whole preferences source := by
  have reached (policy : RecoveryPolicy) : Scan.reached policy source = source := by
    cases policy with
    | resynchronize => rfl
    | halt => exact List.takeWhile_eq_self_iff.mpr known
  have kept (policy : RecoveryPolicy) :
      Scan.keptGlyphs policy [] source = (allBehind [] source).filter (·.isRecognized) := by
    rw [Scan.keptGlyphs, reached]
  have scans (policy : RecoveryPolicy) : Scan.whole policy source =
      { kept := ((allBehind [] source).filter (·.isRecognized)).toArray } := by
    cases policy <;> simp [Scan.whole, kept, Scan.refused_eq_nil _ known, Scan.haltPlace]
  simp only [whole, scans, Lexeme.ofSource, kept]
  rfl

theorem isError_of_mem (preferences : LexicalPreferences) (source : List Char) :
    ∀ diagnostic ∈ (whole preferences source).diagnostics, diagnostic.isError = true := by
  intro diagnostic member
  obtain ⟨error, -, rfl⟩ := List.mem_map.mp member
  rfl

theorem isSuccess_iff_of_errors {run : Run}
    (errors : ∀ diagnostic ∈ run.diagnostics, diagnostic.isError = true) :
    run.isSuccess = true ↔ run.hasErrors = false := by
  rw [isSuccess, hasErrors, List.isEmpty_iff, List.any_eq_false]
  constructor
  · intro empty
    simp [empty]
  · intro harmless
    apply List.eq_nil_iff_forall_not_mem.mpr
    intro diagnostic member
    exact harmless diagnostic member (errors diagnostic member)

theorem Reports.isSuccess_iff {run : Run} (reports : run.Reports source) :
    run.isSuccess = true ↔
      (∀ c ∈ source, recognizes c = true) ∧ source.count quote % 2 = 0 := by
  rw [isSuccess, List.isEmpty_iff, ← Diagnostic.refusals_eq_nil_iff]
  rcases Nat.mod_two_eq_zero_or_one (source.count quote) with paired | unpaired
  · simp [reports.paired paired, paired]
  · obtain ⟨before, rest, -, -, diagnostics⟩ := reports.unpaired unpaired
    simp [diagnostics, unpaired]

theorem isSuccess_whole_iff :
    (whole preferences source).isSuccess = true ↔
      (∀ c ∈ source, recognizes c = true) ∧ source.count quote % 2 = 0 := by
  by_cases known : ∀ c ∈ source, recognizes c = true
  · rw [← whole_policy_irrelevant .resynchronize known]
    exact (reports_whole rfl).isSuccess_iff
  · cases policy : preferences.recoveryPolicy with
    | resynchronize => exact (reports_whole policy).isSuccess_iff
    | halt =>
        obtain ⟨before, c, rest, split, knownBefore, foreign⟩ := Alphabet.exists_first_foreign known
        have reports := reportsHalt_whole policy split knownBefore foreign
        simp [isSuccess, reports.refused, known]

end Run

theorem tokenize_reports_exactly (preferences : LexicalPreferences) (source : String)
    (short : source.length ≤ UInt32.size - 2) :
    ∃ run, tokenize preferences source = .ok run ∧
      (preferences.recoveryPolicy = .resynchronize → run.Reports source.toList) ∧
      (preferences.recoveryPolicy = .halt →
        (∀ before c rest, source.toList = before ++ c :: rest →
          (∀ d ∈ before, recognizes d = true) → recognizes c = false → run.ReportsHalt before) ∧
        ((∀ c ∈ source.toList, recognizes c = true) →
          tokenize { preferences with recoveryPolicy := .resynchronize } source = .ok run)) ∧
      (run.isSuccess = true ↔ run.hasErrors = false) ∧
      (run.hasErrors = false ↔
        (∀ c ∈ source.toList, recognizes c = true) ∧ source.toList.count quote % 2 = 0) := by
  have success := Run.isSuccess_iff_of_errors (Run.isError_of_mem preferences source.toList)
  refine ⟨_, tokenize_eq preferences short, Run.reports_whole, ?_, success, ?_⟩
  · intro policy
    constructor
    · intro before c rest split known foreign
      exact Run.reportsHalt_whole policy split known foreign
    · intro known
      rw [tokenize_eq _ short, Run.whole_policy_irrelevant .resynchronize known]
  · rw [← success]
    exact Run.isSuccess_whole_iff

theorem tokenize_reports_exactly_halting :
    "'a' = 'b@ c'".length ≤ UInt32.size - 2 ∧
      ∃ run, tokenize { recoveryPolicy := .halt } "'a' = 'b@ c'" = .ok run ∧
        (RecoveryPolicy.halt = .resynchronize → run.Reports "'a' = 'b@ c'".toList) ∧
        (RecoveryPolicy.halt = .halt →
          (∀ before c rest, "'a' = 'b@ c'".toList = before ++ c :: rest →
            (∀ d ∈ before, recognizes d = true) → recognizes c = false →
              run.ReportsHalt before) ∧
          ((∀ c ∈ "'a' = 'b@ c'".toList, recognizes c = true) →
            tokenize { recoveryPolicy := .resynchronize } "'a' = 'b@ c'" = .ok run)) ∧
        (run.isSuccess = true ↔ run.hasErrors = false) ∧
        (run.hasErrors = false ↔
          (∀ c ∈ "'a' = 'b@ c'".toList, recognizes c = true) ∧
            "'a' = 'b@ c'".toList.count quote % 2 = 0) :=
  ⟨by decide, tokenize_reports_exactly { recoveryPolicy := .halt } "'a' = 'b@ c'" (by decide)⟩

end Poco
