import Mathlib.Algebra.GroupWithZero.Nat
import Poco.Proofs.Fidelity
import Poco.Proofs.Halting
import Poco.Proofs.Validity
import Poco.Tokenizer

namespace Poco

open Alphabet (quote recognizes)

/-- The counts by kind that a run keeps while it goes on. -/
def Metrics.tokenCounts (metrics : Metrics) : TokenCounts :=
  { total := metrics.totalTokens
    statements := metrics.statements
    identifiers := metrics.identifiers
    numbers := metrics.numbers
    strings := metrics.strings
    symbols := metrics.symbols
    compoundOperators := metrics.compoundOperators }

/-- The most characters in the value of a string among `tokens`, or 0 without any. -/
structure Token.LongestString (tokens : List Token) (length : Nat) : Prop where
  bound : ∀ token ∈ tokens, token.kind = .string → token.value.length ≤ length
  attained : length = 0 ∨ ∃ token ∈ tokens, token.kind = .string ∧ token.value.length = length

/-- How often a symbol stands among `tokens`, if it does. -/
def Token.occurrences? (tokens : List Token) (symbol : String) : Option Nat :=
  let count := tokens.countP (·.isSymbol symbol)
  if count = 0 then none else some count

/-- The last quote of a text with everything behind it, when the quotes do not pair up. -/
def openTail (text : List Char) : List Char :=
  if text.count quote % 2 = 0 then
    []
  else
    quote :: (text.reverse.takeWhile (· != quote)).reverse

/-- Symbols longer than one character are the compound operators. -/
theorem Token.Valid.compound_iff {token : Token} (valid : token.Valid)
    (symbol : token.kind = .symbol) :
    1 < token.value.length ↔ Alphabet.isCompoundOperator token.value.toList = true := by
  obtain ⟨kind, value, span⟩ := token
  obtain rfl : kind = .symbol := symbol
  obtain ⟨listed, -⟩ : value.toList ∈ Alphabet.symbols ∧ value.toList ≠ [quote] := valid
  have lengths : ∀ text ∈ Alphabet.symbols,
      1 < text.length ↔ text ∈ Alphabet.compoundOperators := by decide
  rw [← String.length_toList, lengths _ listed]
  simp [Alphabet.isCompoundOperator]

namespace Metrics

variable {preferences : LexicalPreferences} {metrics : Metrics} {token : Token}
  {tokens : List Token}

section Detailed

variable (detailed : preferences.detailedMetrics = true)

include detailed

/-- One more token counts in the metrics as it does in a recount. -/
theorem tokenCounts_add (valid : token.Valid) :
    (metrics.add preferences token).tokenCounts = metrics.tokenCounts.add token := by
  have compound := valid.compound_iff
  obtain ⟨kind, value, span⟩ := token
  cases kind with
  | symbol => simp [add, addDetail, tokenCounts, TokenCounts.add, detailed, compound rfl]
  | _ => simp [add, addDetail, tokenCounts, TokenCounts.add, detailed]

theorem tokenCounts_foldl (valid : ∀ token ∈ tokens, token.Valid) (metrics : Metrics) :
    (tokens.foldl (add preferences) metrics).tokenCounts =
      tokens.foldl TokenCounts.add metrics.tokenCounts := by
  induction tokens generalizing metrics with
  | nil => rfl
  | cons token rest ih =>
      have first := valid token (List.mem_cons_self ..)
      rw [List.foldl_cons, List.foldl_cons, ← tokenCounts_add detailed first]
      exact ih (fun token member => valid token (List.mem_cons_of_mem _ member)) _

theorem longestString_add : (metrics.add preferences token).longestString =
    if token.kind = .string then max metrics.longestString token.value.length
    else metrics.longestString := by
  cases kind : token.kind <;> simp [add, addDetail, detailed, kind]

theorem longestString_foldl (metrics : Metrics) (tokens : List Token) :
    metrics.longestString ≤ (tokens.foldl (add preferences) metrics).longestString ∧
    (∀ token ∈ tokens, token.kind = .string →
      token.value.length ≤ (tokens.foldl (add preferences) metrics).longestString) ∧
    ((tokens.foldl (add preferences) metrics).longestString = metrics.longestString ∨
      ∃ token ∈ tokens, token.kind = .string ∧
        token.value.length = (tokens.foldl (add preferences) metrics).longestString) := by
  induction tokens generalizing metrics with
  | nil => simp
  | cons token rest ih =>
      obtain ⟨grows, bound, attained⟩ := ih (metrics.add preferences token)
      rw [longestString_add detailed] at grows attained
      simp only [List.foldl_cons, List.mem_cons, forall_eq_or_imp, exists_eq_or_imp]
      by_cases string : token.kind = .string
      · rw [if_pos string] at grows attained
        refine ⟨by omega, ⟨fun _ => by omega, bound⟩, ?_⟩
        rcases attained with same | later
        · rw [same]
          rcases Nat.le_total metrics.longestString token.value.length with less | more
          · exact .inr (.inl ⟨string, by omega⟩)
          · exact .inl (by omega)
        · exact .inr (.inr later)
      · rw [if_neg string] at grows attained
        exact ⟨grows, ⟨fun same => absurd same string, bound⟩, attained.imp_right .inr⟩

theorem find?_operators_add (tracked : preferences.trackOperators = true) (symbol : String) :
    (metrics.add preferences token).operators.find? symbol =
      if token.isSymbol symbol then some ((metrics.operators.find? symbol).getD 0 + 1)
      else metrics.operators.find? symbol := by
  obtain ⟨kind, value, span⟩ := token
  cases kind with
  | symbol =>
      simp only [add, addDetail, detailed, tracked, if_true, Dictionary.find?_alter]
      by_cases same : symbol = value
      · subst same
        simp [Token.isSymbol]
      · simp [Token.isSymbol, same, Ne.symm same]
  | _ => simp [add, addDetail, detailed, Token.isSymbol]

theorem find?_operators_foldl (tracked : preferences.trackOperators = true) (metrics : Metrics)
    (tokens : List Token) (symbol : String) :
    (tokens.foldl (add preferences) metrics).operators.find? symbol =
      if tokens.countP (·.isSymbol symbol) = 0 then metrics.operators.find? symbol
      else some ((metrics.operators.find? symbol).getD 0 +
        tokens.countP (·.isSymbol symbol)) := by
  induction tokens generalizing metrics with
  | nil => simp
  | cons token rest ih =>
      rw [List.foldl_cons, ih, find?_operators_add detailed tracked, List.countP_cons]
      by_cases here : token.isSymbol symbol = true
      · simp only [here, if_true]
        split <;> simp_all
        omega
      · simp [here]

end Detailed

theorem foldl_add_plain (plain : preferences.detailedMetrics = false) (metrics : Metrics)
    (tokens : List Token) :
    tokens.foldl (add preferences) metrics =
      { metrics with totalTokens := metrics.totalTokens + tokens.length } := by
  induction tokens generalizing metrics with
  | nil => rfl
  | cons token rest ih =>
      have step : metrics.add preferences token =
          { metrics with totalTokens := metrics.totalTokens + 1 } := by simp [add, plain]
      rw [List.foldl_cons, ih, step, List.length_cons, Nat.add_assoc, Nat.add_comm 1]

theorem operators_foldl_untracked (untracked : preferences.trackOperators = false)
    (metrics : Metrics) (tokens : List Token) :
    (tokens.foldl (add preferences) metrics).operators = metrics.operators := by
  induction tokens generalizing metrics with
  | nil => rfl
  | cons token rest ih =>
      rw [List.foldl_cons, ih]
      unfold add addDetail
      cases preferences.detailedMetrics with
      | false => rfl
      | true => cases token.kind <;> simp [untracked]

/-- Whatever else is counted, tokens always are and blanks never change by them. -/
theorem always_foldl (metrics : Metrics) (tokens : List Token) :
    (tokens.foldl (add preferences) metrics).totalTokens = metrics.totalTokens + tokens.length ∧
      (tokens.foldl (add preferences) metrics).whitespaceSkipped = metrics.whitespaceSkipped := by
  induction tokens generalizing metrics with
  | nil => exact ⟨rfl, rfl⟩
  | cons token rest ih =>
      have step : (metrics.add preferences token).totalTokens = metrics.totalTokens + 1 ∧
          (metrics.add preferences token).whitespaceSkipped = metrics.whitespaceSkipped := by
        unfold add addDetail
        cases preferences.detailedMetrics with
        | false => exact ⟨rfl, rfl⟩
        | true => cases token.kind <;> exact ⟨rfl, rfl⟩
      obtain ⟨total, blanks⟩ := ih (metrics.add preferences token)
      rw [step.1] at total
      rw [step.2] at blanks
      exact ⟨by rw [List.foldl_cons, total, List.length_cons]; omega, blanks⟩

end Metrics

theorem openTail_of_even {text : List Char} (even : text.count quote % 2 = 0) :
    openTail text = [] :=
  if_pos even

theorem openTail_of_odd {before body : List Char} (unquoted : quote ∉ body)
    (odd : (before ++ quote :: body).count quote % 2 = 1) :
    openTail (before ++ quote :: body) = quote :: body := by
  have inside : ∀ c ∈ body.reverse, (c != quote) = true := by
    intro c member
    simp only [bne_iff_ne]
    rintro rfl
    exact unquoted (List.mem_reverse.mp member)
  have uneven : ¬ (before ++ quote :: body).count quote % 2 = 0 := by omega
  rw [openTail, if_neg uneven, List.reverse_append, List.reverse_cons, List.append_assoc,
    List.takeWhile_append_of_pos inside]
  simp

namespace Lexeme

variable {lexemes : List Lexeme}

theorem length_of_silent {lexeme : Lexeme} (spells : Spells lexeme.shape lexeme.chars)
    (blank : lexeme.shape = .blank) : lexeme.chars.length = 1 := by
  rw [blank] at spells
  generalize lexeme.chars = text at spells
  cases spells
  rfl

namespace Reading

/-- Where the reading of a text breaks off. -/
theorem unread_eq (reading : Reading lexemes) :
    unread lexemes = openTail (lexemes.flatMap chars) := by
  have opens := reading.countP_isOpen
  rw [List.countP_eq_length_filter] at opens
  rcases reading.open_cases with none | ⟨front, opened, rfl, only, begins, unclosed⟩
  · rw [none, List.length_nil] at opens
    rw [openTail_of_even opens.symm, unread, none, List.flatMap_nil]
  · rw [only, List.length_singleton] at opens
    have opening : opened.first.char = quote := by simpa [isQuote] using begins
    have parts : (front ++ [opened]).flatMap chars =
        front.flatMap chars ++ quote :: opened.others.map (·.char) := by
      simp [chars, Lexeme.glyphs, opening]
    rw [parts] at opens ⊢
    rw [openTail_of_odd (quote_not_mem_map unclosed) opens.symm, unread, only]
    simp [chars, Lexeme.glyphs, opening]

/-- Every character counts as a blank, in a token or in the open string. -/
theorem length_chars (reading : Reading lexemes) :
    (lexemes.flatMap chars).length =
      (lexemes.filter (fun lexeme => lexeme.shape == .blank)).length +
        ((lexemes.filterMap toToken?).map (·.sourceText.length)).sum +
        (unread lexemes).length := by
  induction reading with
  | done => rfl
  | @openString first others =>
      have silent : toToken? { shape := .openString, first, others } = none :=
        toToken?_eq_none_iff.mpr (.inr rfl)
      simp [unread, isOpen, silent]
  | @step lexeme rest leads next ih =>
      have closed := isOpen_of_spells leads.spells
      rw [List.flatMap_cons, List.length_append, ih]
      cases token : lexeme.toToken? with
      | none =>
          have blank : lexeme.shape = .blank := by
            simpa [closed] using toToken?_eq_none_iff.mp token
          have single := length_of_silent leads.spells blank
          simp [blank, token, single, unread, closed]
          omega
      | some token' =>
          have speaks : lexeme.shape ≠ .blank := by
            intro blank
            rw [toToken?_eq_none_iff.mpr (.inl blank)] at token
            contradiction
          have text := congrArg List.length (sourceText_of_toToken? leads.spells token)
          rw [String.length_toList] at text
          simp [speaks, token, text, unread, closed]
          omega

end Reading

end Lexeme

theorem Scan.haltPlace_isSome_iff (policy : RecoveryPolicy) (source : List Char) :
    (haltPlace policy [] source).isSome = true ↔
      policy = .halt ∧ ∃ c ∈ source, recognizes c = false := by
  cases policy with
  | resynchronize => simp [haltPlace]
  | halt =>
      by_cases known : ∀ c ∈ source, recognizes c = true
      · rw [haltPlace, refused_eq_nil .halt known]
        simpa using known
      · obtain ⟨before, c, rest, rfl, knownBefore, foreign⟩ :=
          Alphabet.exists_first_foreign known
        rw [haltPlace, refused_halt knownBefore foreign]
        exact ⟨fun _ => ⟨rfl, c, by simp, foreign⟩, fun _ => rfl⟩

/-- The metrics of a run over `source` say what its tokens and diagnostics show. -/
structure Metrics.AgreesWith (metrics : Metrics) (preferences : LexicalPreferences)
    (source : List Char) (run : Run) : Prop where
  total : metrics.totalTokens = run.tokens.length
  reported : metrics.diagnosticCount = run.diagnostics.length
  halted : metrics.halted = true ↔
    preferences.recoveryPolicy = .halt ∧ ∃ c ∈ source, recognizes c = false
  kept : (Scan.keptChars preferences.recoveryPolicy source).length =
    metrics.whitespaceSkipped + (run.tokens.map (·.sourceText.length)).sum +
      (openTail (Scan.keptChars preferences.recoveryPolicy source)).length
  detailed : preferences.detailedMetrics = true →
    metrics.tokenCounts = .ofTokens run.tokens ∧
      Token.LongestString run.tokens metrics.longestString
  tracked : preferences.detailedMetrics = true → preferences.trackOperators = true →
    ∀ symbol, metrics.operators.find? symbol = Token.occurrences? run.tokens symbol
  untracked : preferences.trackOperators = false → metrics.operators = .empty
  plain : preferences.detailedMetrics = false →
    metrics.tokenCounts = { total := run.tokens.length } ∧ metrics.longestString = 0 ∧
      metrics.operators = .empty

namespace Run

variable {preferences : LexicalPreferences} {source : List Char}

/-- The metrics of a run are those of its tokens and those of its scan. -/
theorem metrics_whole : (whole preferences source).metrics =
    let lexemes := Lexeme.ofSource preferences.recoveryPolicy source
    let halted := (Scan.haltPlace preferences.recoveryPolicy [] source).isSome
    { (whole preferences source).tokens.foldl (Metrics.add preferences)
        { whitespaceSkipped := (lexemes.filter (fun lexeme => lexeme.shape == .blank)).length } with
      unrecognized := (Scan.refused preferences.recoveryPolicy [] source).length
      unterminated := (Lexeme.errors halted lexemes).length
      halted } := by
  simp only [← Metrics.foldl_add_scanned]
  simp [whole, Metrics.ofRun, Scan.whole, Scan.halted]

theorem metrics_agree (short : source.length ≤ UInt32.size - 2) :
    (whole preferences source).metrics.AgreesWith preferences source
      (whole preferences source) := by
  have reading := Lexeme.reading_ofSource preferences.recoveryPolicy source
  have valid := valid_of_tokenizeChars (tokenizeChars_eq preferences short)
  rw [metrics_whole]
  constructor
  · simp only [Metrics.always_foldl, Nat.zero_add]
  · simp [Metrics.diagnosticCount, whole, Scan.whole, Scan.halted]
  · exact Scan.haltPlace_isSome_iff preferences.recoveryPolicy source
  · have lengths := reading.length_chars
    rw [reading.unread_eq, Lexeme.flatMap_chars_ofSource] at lengths
    simpa only [Metrics.always_foldl, tokens_whole] using lengths
  · intro detailed
    have counts := Metrics.tokenCounts_foldl detailed valid
    obtain ⟨-, bound, attained⟩ := Metrics.longestString_foldl detailed _ _
    exact ⟨counts _, bound, attained⟩
  · intro detailed tracked symbol
    refine (Metrics.find?_operators_foldl detailed tracked _ _ symbol).trans ?_
    simp [Token.occurrences?]
  · intro untracked
    exact Metrics.operators_foldl_untracked untracked _ _
  · intro plain
    simp only [Metrics.foldl_add_plain plain, Metrics.tokenCounts, Nat.zero_add]
    trivial

end Run

theorem metrics_agree_with_output {σ : Type} [Recorder σ] (tokenizer : Tokenizer)
    (source : String) (record : σ) (short : source.length ≤ UInt32.size - 2) :
    ∃ run next after, tokenizer.run source record = .ok (run, next, after) ∧
      Recorder.entries after = Recorder.entries record ++ run.diagnostics ∧
      next.metrics.AgreesWith tokenizer.preferences source.toList run := by
  have ran := tokenize_eq tokenizer.preferences short
  refine ⟨_, _, _, by rw [Tokenizer.run, ran]; rfl, Recorder.entries_appendAll _ _, ?_⟩
  rw [← String.length_toList] at short
  exact Run.metrics_agree short

theorem metrics_agree_with_output_tracked :
    ">= 'é@b' 1.@5 >= let '' 'c".length ≤ UInt32.size - 2 ∧
      ∃ run next after,
        Tokenizer.run { preferences := { trackOperators := true }, metrics := { symbols := 7 } }
            ">= 'é@b' 1.@5 >= let '' 'c" #[Diagnostic.log "earlier" 1 1] = .ok (run, next, after) ∧
          Recorder.entries after =
            Recorder.entries #[Diagnostic.log "earlier" 1 1] ++ run.diagnostics ∧
          next.metrics.AgreesWith { trackOperators := true }
            ">= 'é@b' 1.@5 >= let '' 'c".toList run :=
  ⟨by decide, metrics_agree_with_output
    { preferences := { trackOperators := true }, metrics := { symbols := 7 } }
    ">= 'é@b' 1.@5 >= let '' 'c" #[Diagnostic.log "earlier" 1 1] (by decide)⟩

end Poco
