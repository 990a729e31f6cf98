import Poco.Proofs.Fidelity
import Poco.Proofs.Reports
import Poco.Proofs.Shifting

namespace Poco

open Alphabet (quote recognizes)
open Glyph (behind)

namespace Scan

/-- The kept characters of a text below another one are its own, moved down. -/
theorem keptGlyphs_below (first second : List Char) :
    keptGlyphs .resynchronize [] (first ++ '\n' :: second) =
      keptGlyphs .resynchronize [] first ++ behind first '\n' ::
        (keptGlyphs .resynchronize [] second).map
          (·.shift (Text.byteSize first + 1) (first.count '\n' + 1)) := by
  have known : recognizes '\n' = true := by decide
  have moved := Glyph.allBehind_below first [] second
  rw [keptGlyphs_append [] first]
  simp only [keptGlyphs, reached, List.nil_append, Glyph.allBehind_cons, List.filter_cons,
    Glyph.isRecognized_behind, known, if_true, moved, List.filter_map]
  rfl

theorem refused_below (first second : List Char) :
    refused .resynchronize [] (first ++ '\n' :: second) =
      refused .resynchronize [] first ++
        (refused .resynchronize [] second).map
          (·.shift (Text.byteSize first + 1) (first.count '\n' + 1)) := by
  have known : recognizes '\n' = true := by decide
  have moved := Glyph.allBehind_below first [] second
  rw [refused_append [] first]
  simp only [refused, List.nil_append, Glyph.allBehind_cons, List.filter_cons,
    Glyph.isRecognized_behind, known, Bool.not_true, Bool.false_eq_true, if_false, moved,
    List.filter_map]
  rfl

theorem refusals_below (first second : List Char) :
    (refused .resynchronize [] (first ++ '\n' :: second)).map (·.refusal.diagnostic) =
      (refused .resynchronize [] first).map (·.refusal.diagnostic) ++
        ((refused .resynchronize [] second).map (·.refusal.diagnostic)).map
          (·.shift (first.count '\n' + 1)) := by
  rw [refused_below, List.map_append, List.map_map, List.map_map]
  simp only [Function.comp_def, Glyph.refusal_shift]

end Scan

namespace Lexeme

def lineBreak (first : List Char) : Lexeme :=
  { shape := .blank, first := behind first '\n', others := [] }

/-- Behind paired quotes the lexemes of the next line are its own. -/
theorem ofSource_below {first : List Char} (paired : first.count quote % 2 = 0)
    (second : List Char) :
    ofSource .resynchronize (first ++ '\n' :: second) =
      ofSource .resynchronize first ++ lineBreak first ::
        (ofSource .resynchronize second).map
          (·.shift (Text.byteSize first + 1) (first.count '\n' + 1)) := by
  have closed := closed_of_paired paired
  have later : Reading (lineBreak first :: (ofSource .resynchronize second).map
      (·.shift (Text.byteSize first + 1) (first.count '\n' + 1))) :=
    .step (leads_blank rfl) (reading_ofSource .resynchronize second).shift
  have reading := (reading_ofSource .resynchronize first).before_blank closed later rfl rfl
  have kept := Scan.keptGlyphs_below first second
  have whole : (ofSource .resynchronize first ++ lineBreak first ::
      (ofSource .resynchronize second).map
        (·.shift (Text.byteSize first + 1) (first.count '\n' + 1))).flatMap glyphs =
      Scan.keptGlyphs .resynchronize [] (first ++ '\n' :: second) := by
    rw [kept, List.flatMap_append, List.flatMap_cons, flatMap_glyphs_shift,
      flatMap_glyphs_ofSource, flatMap_glyphs_ofSource]
    rfl
  rw [ofSource, ← whole]
  refine reading.ofGlyphs_eq ?_
  rw [whole]
  exact genuine_keptGlyphs .resynchronize [] _

theorem opens_of_paired {first : List Char} (paired : first.count quote % 2 = 0) :
    (ofSource .resynchronize first).filter isOpen = [] := by
  rw [List.filter_eq_nil_iff]
  intro lexeme member
  rw [closed_of_paired paired lexeme member]
  exact Bool.false_ne_true

theorem unclosed_below {first : List Char} (paired : first.count quote % 2 = 0)
    (second : List Char) :
    ((ofSource .resynchronize (first ++ '\n' :: second)).filter isOpen).map
        (·.unclosed.diagnostic) =
      (((ofSource .resynchronize second).filter isOpen).map (·.unclosed.diagnostic)).map
        (·.shift (first.count '\n' + 1)) := by
  have breaks : ¬ (lineBreak first).isOpen = true := Bool.false_ne_true
  rw [ofSource_below paired, List.filter_append, opens_of_paired paired, List.nil_append,
    List.filter_cons_of_neg breaks, List.filter_map, List.map_map, List.map_map]
  simp only [Function.comp_def, isOpen_shift, unclosed_shift]

end Lexeme

namespace Run

/-- One run stands for two, the second `bytes` and `lines` further down. -/
structure Stacks (run upper lower : Run) (bytes lines : Nat) : Prop where
  tokens : run.tokens = upper.tokens ++ lower.tokens.map (·.shift bytes lines)
  diagnostics : run.diagnostics = upper.diagnostics ++ lower.diagnostics.map (·.shift lines)
  tokens_fit : ∀ token ∈ lower.tokens,
    token.span.start.Fits bytes lines ∧ token.span.stop.Fits bytes lines
  diagnostics_fit : ∀ diagnostic ∈ lower.diagnostics,
    diagnostic.line.toNat + lines < UInt32.size

variable {preferences : LexicalPreferences} {first second : List Char}

theorem stacks_whole (policy : preferences.recoveryPolicy = .resynchronize)
    (paired : first.count quote % 2 = 0)
    (short : (first ++ '\n' :: second).length ≤ UInt32.size - 2) :
    (whole preferences (first ++ '\n' :: second)).Stacks (whole preferences first)
      (whole preferences second) (Text.byteSize first + 1) (first.count '\n' + 1) := by
  have fits {before rest : List Char} (split : second = before ++ rest) :
      (Position.after before).Fits (Text.byteSize first + 1) (first.count '\n' + 1) := by
    refine Position.fits_after (Nat.le_trans ?_ short)
    simp [split]
  constructor
  · rw [tokens_whole, tokens_whole, tokens_whole, policy, Lexeme.ofSource_below paired,
      List.filterMap_append, List.filterMap_cons, Lexeme.filterMap_toToken?_shift]
    rfl
  · rw [diagnostics_resynchronize policy, diagnostics_resynchronize policy,
      diagnostics_resynchronize policy, Scan.refusals_below, Lexeme.unclosed_below paired,
      Lexeme.opens_of_paired paired, List.map_nil, List.append_nil, List.map_append,
      List.append_assoc]
  · intro token member
    obtain ⟨lexeme, among, found⟩ := List.mem_filterMap.mp member
    obtain ⟨before, piece, rest, split, extent, -⟩ := Lexeme.extent_in_source among
    rw [Lexeme.span_of_toToken? found, extent]
    exact ⟨fits (by rw [split, List.append_assoc]), fits split⟩
  · intro diagnostic member
    obtain ⟨before, c, rest, split, line, -⟩ := place_of_diagnostic member
    rw [line]
    exact (fits split).line

end Run

theorem tokenize_stacks_lines (preferences : LexicalPreferences) (first second : String)
    (policy : preferences.recoveryPolicy = .resynchronize)
    (paired : first.toList.count quote % 2 = 0)
    (short : (first ++ "\n" ++ second).length ≤ UInt32.size - 2) :
    ∃ run upper lower, tokenize preferences (first ++ "\n" ++ second) = .ok run ∧
      tokenize preferences first = .ok upper ∧ tokenize preferences second = .ok lower ∧
      run.Stacks upper lower (Text.byteSize first.toList + 1) (first.toList.count '\n' + 1) := by
  have lengths : first.length ≤ UInt32.size - 2 ∧ second.length ≤ UInt32.size - 2 := by
    simp only [String.length_append] at short
    omega
  refine ⟨_, _, _, tokenize_eq preferences short, tokenize_eq preferences lengths.1,
    tokenize_eq preferences lengths.2, ?_⟩
  have split : (first ++ "\n" ++ second).toList = first.toList ++ '\n' :: second.toList := by
    simp
  rw [← String.length_toList, split] at short
  rw [split]
  exact Run.stacks_whole policy paired short

theorem tokenize_stacks_lines_mixed :
    (({} : LexicalPreferences).recoveryPolicy = .resynchronize ∧
        "1.@ 'a\n'".toList.count quote % 2 = 0 ∧
        ("1.@ 'a\n'" ++ "\n" ++ "5 é\u3000'b").length ≤ UInt32.size - 2) ∧
      ∃ run upper lower, tokenize {} ("1.@ 'a\n'" ++ "\n" ++ "5 é\u3000'b") = .ok run ∧
        tokenize {} "1.@ 'a\n'" = .ok upper ∧ tokenize {} "5 é\u3000'b" = .ok lower ∧
        run.Stacks upper lower (Text.byteSize "1.@ 'a\n'".toList + 1)
          ("1.@ 'a\n'".toList.count '\n' + 1) :=
  ⟨⟨rfl, by decide, by decide⟩,
    tokenize_stacks_lines {} "1.@ 'a\n'" "5 é\u3000'b" rfl (by decide) (by decide)⟩

end Poco
