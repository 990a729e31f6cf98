import Poco.Proofs.Running

namespace Poco

open Alphabet (quote recognizes)
open Glyph (behind allBehind)

/-- The recognized characters of a text reach from the first of them to the last. -/
theorem Glyph.filter_allBehind_trim {before text : List Char} {first last : Glyph}
    {others initial : List Glyph}
    (fromFirst : (allBehind before text).filter (·.isRecognized) = first :: others)
    (toLast : first :: others = initial ++ [last]) :
    ∃ dropped piece rest, text = dropped ++ piece ++ rest ∧
      first.span.start = .after (before ++ dropped) ∧
      last.span.stop = .after (before ++ dropped ++ piece) ∧
      piece.head?.any recognizes = true ∧ piece.getLast?.any recognizes = true ∧
      piece.filter recognizes = (first :: others).map (·.char) := by
  have spelled := map_char_filter_allBehind before text
  rw [fromFirst] at spelled
  obtain ⟨dropped, c, core, rfl, known, foreign, rfl, rfl⟩ := filter_allBehind_cons fromFirst
  have fromCore : (allBehind (before ++ dropped) (c :: core)).filter (·.isRecognized) =
      initial ++ [last] := by
    rw [← toLast]
    simp [known]
  obtain ⟨left, right, parts, -, final⟩ := filter_allBehind_append fromCore
  obtain ⟨skipped, d, rest, rfl, knownLast, -, rfl, nothing⟩ := filter_allBehind_cons final.symm
  have whole : c :: core = left ++ skipped ++ [d] ++ rest := by simp [parts]
  refine ⟨dropped, left ++ skipped ++ [d], rest, by simp [parts], rfl, by simp [behind], ?_, ?_, ?_⟩
  · cases begins : left ++ skipped ++ [d] with
    | nil => simp at begins
    | cons e more =>
        rw [begins] at whole
        obtain ⟨rfl, -⟩ := List.cons.inj whole
        simp [known]
  · simp [knownLast]
  · have leading : dropped.filter recognizes = [] := by
      simpa using foreign
    have trailing : rest.filter recognizes = [] := by
      rw [← map_char_filter_allBehind, ← nothing]
      rfl
    calc (left ++ skipped ++ [d]).filter recognizes
      _ = (c :: core).filter recognizes := by
          rw [whole, List.filter_append _ rest, trailing, List.append_nil]
      _ = (dropped ++ c :: core).filter recognizes := by
          rw [List.filter_append, leading, List.nil_append]
      _ = _ := spelled.symm

namespace Lexeme

variable {lexeme : Lexeme} {token : Token}

/-- A lexeme has its extent in the source and its characters there. -/
theorem extent_in_source {policy : RecoveryPolicy} {source : List Char}
    (member : lexeme ∈ ofSource policy source) :
    ∃ before piece rest, source = before ++ piece ++ rest ∧
      lexeme.extent = { start := .after before, stop := .after (before ++ piece) } ∧
      piece.head?.any recognizes = true ∧ piece.getLast?.any recognizes = true ∧
      piece.filter recognizes = lexeme.chars := by
  obtain ⟨front, back, parts⟩ := List.append_of_mem member
  obtain ⟨unreached, source_eq⟩ := Scan.reached_prefix policy source
  have kept := flatMap_glyphs_ofSource policy source
  rw [parts, List.flatMap_append, List.flatMap_cons] at kept
  obtain ⟨left, right, reached, -, tail⟩ := Glyph.filter_allBehind_append kept.symm
  obtain ⟨middle, later, rfl, own, -⟩ := Glyph.filter_allBehind_append tail.symm
  obtain ⟨initial, toLast⟩ := lexeme.glyphs_eq_concat
  obtain ⟨dropped, piece, rest, rfl, starts, stops, first, last, spelled⟩ :=
    Glyph.filter_allBehind_trim own.symm toLast
  rw [List.nil_append] at starts stops
  refine ⟨left ++ dropped, piece, rest ++ later ++ unreached, ?_, ?_, first, last, spelled⟩
  · rw [← source_eq, reached]
    simp
  · rw [extent, starts, stops]

theorem sourceText_of_toToken? (spells : Spells lexeme.shape lexeme.chars)
    (found : lexeme.toToken? = some token) : token.sourceText.toList = lexeme.chars := by
  obtain ⟨kind, kindFound, rfl⟩ := Option.map_eq_some_iff.mp found
  obtain ⟨shape, first, others⟩ := lexeme
  cases shape with
  | blank => contradiction
  | openString => contradiction
  | string =>
      obtain rfl := Option.some.inj kindFound
      generalize text_eq : (⟨.string, first, others⟩ : Lexeme).chars = text at spells
      cases spells with
      | @string body unquoted =>
          have tail : others.map (·.char) = body ++ [quote] := by
            simpa [chars, glyphs] using congrArg List.tail text_eq
          have inner : others.dropLast.map (·.char) = body := by
            rw [List.map_dropLast, tail, List.dropLast_concat]
          simp [Token.sourceText, value, inner, quote]
  | number =>
      obtain rfl := Option.some.inj kindFound
      simp [Token.sourceText, value]
  | symbol =>
      obtain rfl := Option.some.inj kindFound
      simp [Token.sourceText, value]
  | word =>
      simp only [tokenKind?] at kindFound
      split at kindFound
      · obtain rfl := Option.some.inj kindFound
        simp [Token.sourceText, value]
      · obtain rfl := Option.some.inj kindFound
        simp [Token.sourceText, value]

end Lexeme

/-- The token stands for `piece`, which follows `before` in `source`. -/
structure Token.StandsFor (token : Token) (source before piece rest : List Char) : Prop where
  split : source = before ++ piece ++ rest
  nonempty : piece ≠ []
  starts : Position.start.advanceOver before = .ok token.span.start
  stops : Position.start.advanceOver (before ++ piece) = .ok token.span.stop
  slice : token.span.slice source = some piece
  first : piece.head?.any recognizes = true
  last : piece.getLast?.any recognizes = true
  spells : piece.filter recognizes = token.sourceText.toList
  exact_of_known : (∀ c ∈ piece, recognizes c = true) →
    token.span.slice source = some token.sourceText.toList

theorem Lexeme.standsFor {policy : RecoveryPolicy} {source : List Char} {lexeme : Lexeme}
    {token : Token} (short : source.length ≤ UInt32.size - 2) (member : lexeme ∈ ofSource policy source)
    (found : lexeme.toToken? = some token) :
    ∃ before piece rest, token.StandsFor source before piece rest := by
  have closed : lexeme.isOpen = false := by
    rw [Bool.eq_false_iff]
    intro open_
    rw [toToken?_eq_none_iff.mpr (.inr open_)] at found
    contradiction
  have spells := (reading_ofSource policy source).spells_of_closed member closed
  have text := sourceText_of_toToken? spells found
  obtain ⟨before, piece, rest, split, extent_eq, first, last, spelled⟩ := extent_in_source member
  have span : token.span = { start := .after before, stop := .after (before ++ piece) } := by
    rw [span_of_toToken? found, extent_eq]
  have pieceShort : (before ++ piece).length ≤ UInt32.size - 2 :=
    Nat.le_trans (List.IsPrefix.length_le ⟨rest, split.symm⟩) short
  have beforeShort : before.length ≤ UInt32.size - 2 :=
    Nat.le_trans (List.prefix_append before piece).length_le pieceShort
  have slice : token.span.slice source = some piece := by
    rw [Span.slice, span, Position.after_offset beforeShort, Position.after_offset pieceShort,
      split]
    exact Text.sliceBytes_byteSize before piece rest
  refine ⟨before, piece, rest, ?_⟩
  constructor
  · exact split
  · rintro rfl
    simp at first
  · rw [span]
    exact Position.advanceOver_start beforeShort
  · rw [span]
    exact Position.advanceOver_start pieceShort
  · exact slice
  · exact first
  · exact last
  · rw [spelled, text]
  · intro known
    rw [slice, text, ← spelled, List.filter_eq_self.mpr known]

theorem tokenize_spans_faithfully (preferences : LexicalPreferences) (source : String)
    (short : source.length ≤ UInt32.size - 2) :
    ∃ run, tokenize preferences source = .ok run ∧
      ∀ token ∈ run.tokens, ∃ before piece rest,
        token.StandsFor source.toList before piece rest := by
  refine ⟨_, tokenize_eq preferences short, ?_⟩
  intro token member
  obtain ⟨lexeme, among, found⟩ := List.mem_filterMap.mp member
  rw [← String.length_toList] at short
  exact Lexeme.standsFor short among found

theorem tokenize_spans_faithfully_mixed :
    "a\u2003<@=\n'x\n@y' 1@.5".length ≤ UInt32.size - 2 ∧
      ∃ run, tokenize {} "a\u2003<@=\n'x\n@y' 1@.5" = .ok run ∧
        ∀ token ∈ run.tokens, ∃ before piece rest,
          token.StandsFor "a\u2003<@=\n'x\n@y' 1@.5".toList before piece rest :=
  ⟨by decide, tokenize_spans_faithfully {} "a\u2003<@=\n'x\n@y' 1@.5" (by decide)⟩

end Poco
