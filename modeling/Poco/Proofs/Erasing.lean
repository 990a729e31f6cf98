import Poco.Proofs.Counting
import Poco.Proofs.LongestMatch

namespace Poco

open Alphabet (recognizes)

namespace Alphabet

/-- The characters of `source` that belong to the alphabet. -/
def erase (source : String) : String :=
  .ofList (source.toList.filter recognizes)

@[simp] theorem toList_erase (source : String) :
    (erase source).toList = source.toList.filter recognizes := by
  simp [erase]

theorem length_erase_le (source : String) : (erase source).length ≤ source.length := by
  rw [← String.length_toList, ← String.length_toList, toList_erase]
  exact List.length_filter_le _ _

end Alphabet

namespace Lexeme

variable {policy : RecoveryPolicy} {source other : List Char}
  (same : Scan.keptChars policy source = Scan.keptChars policy other)

include same

/-- The kept characters decide about the shapes and texts of the lexemes. -/
theorem pieces_congr : pieces (ofSource policy source) = pieces (ofSource policy other) := by
  have first := (reading_ofSource policy source).munches
  have second := (reading_ofSource policy other).munches
  rw [flatMap_chars_ofSource] at first second
  rw [same] at first
  exact (second.unique first).1

theorem unread_congr : unread (ofSource policy source) = unread (ofSource policy other) := by
  rw [(reading_ofSource policy source).unread_eq, (reading_ofSource policy other).unread_eq,
    flatMap_chars_ofSource, flatMap_chars_ofSource, same]

omit same in
theorem length_blanks (lexemes : List Lexeme) :
    (lexemes.filter (fun lexeme => lexeme.shape == .blank)).length =
      (pieces lexemes).countP (fun piece => piece.1 == .blank) := by
  rw [← List.countP_eq_length_filter, pieces, List.countP_map, List.countP_filter]
  refine List.countP_congr ?_
  intro lexeme _
  cases shape : lexeme.shape <;> simp [isOpen, shape]

/-- The quotes among the kept characters decide how many strings are left open. -/
theorem length_errors_congr (halted : Bool) :
    (errors halted (ofSource policy source)).length =
      (errors halted (ofSource policy other)).length := by
  have first := (reading_ofSource policy source).countP_isOpen
  have second := (reading_ofSource policy other).countP_isOpen
  rw [flatMap_chars_ofSource, List.countP_eq_length_filter] at first second
  rw [errors_eq, errors_eq]
  cases halted with
  | true => rfl
  | false => simp [first, second, same]

end Lexeme

/-- Counting looks at the kind and the text of a token, not at its place. -/
theorem Metrics.foldl_add_congr (preferences : LexicalPreferences) {tokens others : List Token}
    (same : tokens.map Token.spelling = others.map Token.spelling) (metrics : Metrics) :
    tokens.foldl (add preferences) metrics = others.foldl (add preferences) metrics := by
  let addSpelled := fun (metrics : Metrics) (spelling : TokenKind × String) =>
    add preferences metrics ⟨spelling.1, spelling.2, .start, .start⟩
  have spelled (tokens : List Token) :
      tokens.foldl (add preferences) metrics =
        (tokens.map Token.spelling).foldl addSpelled metrics := by
    rw [List.foldl_map]
    rfl
  rw [spelled, spelled, same]

namespace Run

def ReportsOpen (run : Run) : Prop :=
  ∃ diagnostic ∈ run.diagnostics, diagnostic.kind = some .unterminatedString

/-- A run next to one over the recognized characters of its source. -/
structure ErasesTo (run erased : Run) : Prop where
  spellings : run.tokens.map Token.spelling = erased.tokens.map Token.spelling
  metrics : erased.metrics = { run.metrics with unrecognized := 0 }
  opens : run.ReportsOpen ↔ erased.ReportsOpen
  refuses_none : ∀ diagnostic ∈ erased.diagnostics, diagnostic.kind ≠ some .unrecognizedSyntax

variable {preferences : LexicalPreferences} {source other : List Char}

theorem spellings_congr
    (same : Scan.keptChars preferences.recoveryPolicy source =
      Scan.keptChars preferences.recoveryPolicy other) :
    (whole preferences source).tokens.map Token.spelling =
      (whole preferences other).tokens.map Token.spelling := by
  rw [tokens_whole, tokens_whole, Lexeme.tokens_spelling, Lexeme.tokens_spelling,
    Lexeme.pieces_congr same]

theorem metrics_congr
    (same : Scan.keptChars preferences.recoveryPolicy source =
      Scan.keptChars preferences.recoveryPolicy other)
    (halts : Scan.haltPlace preferences.recoveryPolicy [] source =
      Scan.haltPlace preferences.recoveryPolicy [] other) :
    (whole preferences other).metrics =
      { (whole preferences source).metrics with
        unrecognized := (Scan.refused preferences.recoveryPolicy [] other).length } := by
  rw [metrics_whole, metrics_whole]
  simp only [Lexeme.length_blanks, Lexeme.pieces_congr same, Lexeme.length_errors_congr same,
    Metrics.foldl_add_congr preferences (spellings_congr same), halts]

theorem refuses_none_of_known (known : ∀ c ∈ source, recognizes c = true) :
    ∀ diagnostic ∈ (whole preferences source).diagnostics,
      diagnostic.kind ≠ some .unrecognizedSyntax := by
  intro diagnostic member
  rw [diagnostics_whole, Scan.refused_eq_nil _ known, List.map_nil, List.nil_append] at member
  split at member
  · contradiction
  · obtain ⟨lexeme, -, rfl⟩ := List.mem_map.mp member
    exact fun refusal => nomatch refusal

theorem erasesTo_whole (policy : preferences.recoveryPolicy = .resynchronize)
    (source : List Char) :
    (whole preferences source).ErasesTo (whole preferences (source.filter recognizes)) := by
  have known : ∀ c ∈ source.filter recognizes, recognizes c = true :=
    fun c member => (List.mem_filter.mp member).2
  have same : Scan.keptChars preferences.recoveryPolicy source =
      Scan.keptChars preferences.recoveryPolicy (source.filter recognizes) := by
    rw [policy, Scan.keptChars, Scan.keptChars, List.filter_eq_self.mpr known]
  have halts (text : List Char) : Scan.haltPlace preferences.recoveryPolicy [] text = none := by
    rw [policy]
    rfl
  refine ⟨spellings_congr same, ?_, ?_, refuses_none_of_known known⟩
  · rw [metrics_congr same (by rw [halts, halts]), Scan.refused_eq_nil _ known]
    rfl
  · rw [ReportsOpen, ReportsOpen, reports_open_iff, reports_open_iff, Lexeme.unread_congr same,
      haltedAt_whole, haltedAt_whole, halts, halts]

end Run

theorem tokenize_erases (preferences : LexicalPreferences) (source : String)
    (policy : preferences.recoveryPolicy = .resynchronize)
    (short : source.length ≤ UInt32.size - 2) :
    ∃ run erased, tokenize preferences source = .ok run ∧
      tokenize preferences (Alphabet.erase source) = .ok erased ∧ run.ErasesTo erased := by
  have erasedShort := Nat.le_trans (Alphabet.length_erase_le source) short
  refine ⟨_, _, tokenize_eq preferences short, tokenize_eq preferences erasedShort, ?_⟩
  rw [Alphabet.toList_erase]
  exact Run.erasesTo_whole policy source.toList

theorem tokenize_erases_inside :
    (({} : LexicalPreferences).recoveryPolicy = .resynchronize ∧
        "1@.@5 <é= re@turn 'a@b' 'c@".length ≤ UInt32.size - 2) ∧
      ∃ run erased, tokenize {} "1@.@5 <é= re@turn 'a@b' 'c@" = .ok run ∧
        tokenize {} (Alphabet.erase "1@.@5 <é= re@turn 'a@b' 'c@") = .ok erased ∧
        run.ErasesTo erased :=
  ⟨⟨rfl, by decide⟩, tokenize_erases {} "1@.@5 <é= re@turn 'a@b' 'c@" rfl (by decide)⟩

end Poco
