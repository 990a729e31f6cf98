import Poco.Proofs.Reports

namespace Poco

open Alphabet (recognizes)

/-- Counting tokens leaves alone what the scan has counted. -/
theorem Metrics.foldl_add_scanned (preferences : LexicalPreferences) (tokens : List Token)
    (metrics : Metrics) (unrecognized unterminated : Nat) (halted : Bool) :
    tokens.foldl (add preferences) { metrics with unrecognized, unterminated, halted } =
      { tokens.foldl (add preferences) metrics with unrecognized, unterminated, halted } := by
  have step (metrics : Metrics) (token : Token) :
      add preferences { metrics with unrecognized, unterminated, halted } token =
        { add preferences metrics token with unrecognized, unterminated, halted } := by
    unfold add addDetail
    cases preferences.detailedMetrics with
    | false => rfl
    | true => cases token.kind <;> rfl
  induction tokens generalizing metrics with
  | nil => rfl
  | cons token rest ih => rw [List.foldl_cons, List.foldl_cons, step, ih]

namespace Run

/-- A run that halted behind `before`, next to a run over `before` alone. -/
structure HaltsAs (run alone : Run) (before : List Char) : Prop where
  tokens : run.tokens = alone.tokens
  reported : ∃ place, Position.start.advanceOver before = .ok place ∧ run.haltedAt = some place ∧
    run.diagnostics = [.ofKind .unrecognizedSyntax place.line place.column]
  metrics : run.metrics =
    { alone.metrics with unrecognized := 1, unterminated := 0, halted := true }

variable {preferences : LexicalPreferences} {source before rest : List Char} {c : Char}

theorem haltsAs_whole (short : source.length ≤ UInt32.size - 2)
    (split : source = before ++ c :: rest) (known : ∀ d ∈ before, recognizes d = true)
    (foreign : recognizes c = false) :
    (whole { preferences with recoveryPolicy := .halt } source).HaltsAs
      (whole { preferences with recoveryPolicy := .resynchronize } before) before := by
  have beforeShort : before.length ≤ UInt32.size - 2 :=
    Nat.le_trans (List.IsPrefix.length_le ⟨_, split.symm⟩) short
  have lexemes : Lexeme.ofSource .halt source = Lexeme.ofSource .resynchronize before := by
    rw [Lexeme.ofSource, Scan.keptGlyphs, split, Scan.reached_halt known foreign]
    rfl
  have refused : Scan.refused .halt [] source = [Glyph.behind before c] := by
    rw [split, Scan.refused_halt known foreign]
  have haltedAt : Scan.haltPlace .halt [] source = some (.after before) := by
    rw [Scan.haltPlace, refused]
    rfl
  constructor
  · rw [tokens_whole, tokens_whole, lexemes]
  · refine ⟨_, Position.advanceOver_start beforeShort, haltedAt, ?_⟩
    exact (reportsHalt_whole rfl split known foreign).refused
  · simp only [whole, Metrics.ofRun, Scan.whole, Scan.halted, lexemes, refused, haltedAt,
      Lexeme.errors_eq]
    rw [← Metrics.foldl_add_scanned]
    rfl

end Run

theorem tokenize_halts_as_prefix (preferences : LexicalPreferences) (source : String)
    (short : source.length ≤ UInt32.size - 2) :
    ∃ halting resuming,
      tokenize { preferences with recoveryPolicy := .halt } source = .ok halting ∧
      tokenize { preferences with recoveryPolicy := .resynchronize } source = .ok resuming ∧
      (∀ before c rest, source.toList = before ++ c :: rest →
        (∀ d ∈ before, recognizes d = true) → recognizes c = false →
          ∃ alone, tokenize { preferences with recoveryPolicy := .resynchronize }
            (String.ofList before) = .ok alone ∧ halting.HaltsAs alone before) ∧
      ((∀ c ∈ source.toList, recognizes c = true) → halting = resuming) := by
  refine ⟨_, _, tokenize_eq _ short, tokenize_eq _ short, ?_, ?_⟩
  · intro before c rest split known foreign
    rw [← String.length_toList] at short
    have beforeShort : (String.ofList before).length ≤ UInt32.size - 2 := by
      rw [String.length_ofList]
      exact Nat.le_trans (List.IsPrefix.length_le ⟨_, split.symm⟩) short
    refine ⟨_, tokenize_eq _ beforeShort, ?_⟩
    rw [String.toList_ofList]
    exact Run.haltsAs_whole short split known foreign
  · intro known
    rw [← Run.whole_policy_irrelevant .resynchronize known]

theorem tokenize_halts_as_prefix_in_string :
    "x >= 'a@b'".length ≤ UInt32.size - 2 ∧
      ∃ halting alone, tokenize { recoveryPolicy := .halt } "x >= 'a@b'" = .ok halting ∧
        tokenize {} "x >= 'a" = .ok alone ∧ halting.HaltsAs alone "x >= 'a".toList := by
  refine ⟨by decide, ?_⟩
  obtain ⟨halting, -, halts, -, cut, -⟩ := tokenize_halts_as_prefix {} "x >= 'a@b'" (by decide)
  obtain ⟨alone, ran, same⟩ :=
    cut "x >= 'a".toList '@' "b'".toList (by decide) (List.all_eq_true.mp (by decide)) (by decide)
  rw [String.ofList_toList] at ran
  exact ⟨halting, alone, halts, ran, same⟩

end Poco
