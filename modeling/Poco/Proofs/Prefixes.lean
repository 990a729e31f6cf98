import Mathlib.Data.List.Basic
import Poco.Proofs.Following
import Poco.Proofs.Running

namespace Poco

theorem dropLast_prefix_dropLast {α : Type} {left right : List α} (begins : left <+: right) :
    left.dropLast <+: right.dropLast := by
  obtain ⟨rest, rfl⟩ := begins
  cases rest with
  | nil => simp
  | cons next rest =>
      rw [List.dropLast_append_of_ne_nil (List.cons_ne_nil next rest)]
      exact (List.dropLast_prefix left).trans (List.prefix_append _ _)

/-- Dropping the last result drops no more than the last argument gives. -/
theorem prefix_dropLast_filterMap {α β : Type} (f : α → Option β) (list : List α) :
    (list.filterMap f).dropLast <+: list.dropLast.filterMap f := by
  rcases List.eq_nil_or_concat' list with rfl | ⟨initial, last, rfl⟩
  · exact List.nil_prefix
  · rw [List.dropLast_concat, List.filterMap_append]
    cases result : f last with
    | none => simpa [result] using List.dropLast_prefix (initial.filterMap f)
    | some value => simp [result]

namespace Lexeme

variable {front back : List Lexeme} {glyphs more : List Glyph}

/-- Lexemes that two characters follow stay when the text goes on. -/
theorem prefix_ofGlyphs_append (genuine : ∀ glyph ∈ glyphs ++ more, glyph.Genuine)
    (parts : ofGlyphs glyphs = front ++ back) (enough : 2 ≤ (back.flatMap chars).length) :
    front <+: ofGlyphs (glyphs ++ more) := by
  have reading := reading_ofGlyphs glyphs fun glyph member => genuine glyph (by simp [member])
  have split := flatMap_glyphs_ofGlyphs glyphs
  rw [parts] at reading split
  rw [List.flatMap_append] at split
  let next := ofGlyphs (back.flatMap Lexeme.glyphs ++ more)
  have whole : (front ++ next).flatMap Lexeme.glyphs = glyphs ++ more := by
    rw [List.flatMap_append, flatMap_glyphs_ofGlyphs, ← List.append_assoc, split]
  have following : Reading next := by
    refine reading_ofGlyphs _ fun glyph member => genuine glyph ?_
    rw [← split, List.append_assoc]
    exact List.mem_append_right _ member
  have begins : back.flatMap chars <+: next.flatMap chars := by
    rw [flatMap_chars_ofGlyphs, List.map_append, ← flatMap_chars]
    exact List.prefix_append _ _
  have joined := (reading.resume enough following begins).ofGlyphs_eq (by rwa [whole])
  rw [whole] at joined
  rw [joined]
  exact List.prefix_append front next

theorem dropLast_ofGlyphs_prefix (genuine : ∀ glyph ∈ glyphs ++ more, glyph.Genuine) :
    (ofGlyphs glyphs).dropLast.dropLast <+: ofGlyphs (glyphs ++ more) := by
  rcases List.eq_nil_or_concat' (ofGlyphs glyphs) with none | ⟨initial, last, parts⟩
  · rw [none]
    exact List.nil_prefix
  · rcases List.eq_nil_or_concat' initial with rfl | ⟨front, other, rfl⟩
    · rw [parts]
      exact List.nil_prefix
    · have enough : 2 ≤ ([other, last].flatMap chars).length := by
        simp [chars, Lexeme.glyphs]
        omega
      rw [parts, List.dropLast_concat, List.dropLast_concat]
      exact prefix_ofGlyphs_append genuine (by rw [parts]; simp) enough

end Lexeme

theorem Run.dropLast_tokens_prefix {preferences : LexicalPreferences} (front back : List Char)
    (policy : preferences.recoveryPolicy = .resynchronize) :
    (whole preferences front).tokens.dropLast.dropLast <+:
      (whole preferences (front ++ back)).tokens := by
  have kept := Scan.keptGlyphs_append [] front back
  have genuine := Lexeme.genuine_keptGlyphs .resynchronize [] (front ++ back)
  rw [kept] at genuine
  have lexemes := Lexeme.dropLast_ofGlyphs_prefix genuine
  rw [← kept] at lexemes
  let made := (Lexeme.ofSource .resynchronize front).filterMap Lexeme.toToken?
  have once : made.dropLast <+:
      (Lexeme.ofSource .resynchronize front).dropLast.filterMap Lexeme.toToken? :=
    prefix_dropLast_filterMap _ _
  have twice : made.dropLast.dropLast <+:
      (Lexeme.ofSource .resynchronize front).dropLast.dropLast.filterMap Lexeme.toToken? :=
    (dropLast_prefix_dropLast once).trans (prefix_dropLast_filterMap _ _)
  rw [tokens_whole, tokens_whole, policy]
  exact twice.trans (lexemes.filterMap _)

theorem tokenize_prefix_stable (preferences : LexicalPreferences) (front back : String)
    (policy : preferences.recoveryPolicy = .resynchronize)
    (short : (front ++ back).length ≤ UInt32.size - 2) :
    ∃ first whole, tokenize preferences front = .ok first ∧
      tokenize preferences (front ++ back) = .ok whole ∧
      first.tokens.dropLast.dropLast <+: whole.tokens := by
  have frontShort : front.length ≤ UInt32.size - 2 := by
    rw [String.length_append] at short
    omega
  refine ⟨_, _, tokenize_eq preferences frontShort, tokenize_eq preferences short, ?_⟩
  rw [String.toList_append]
  exact Run.dropLast_tokens_prefix _ _ policy

theorem tokenize_prefix_stable_fraction :
    (({} : LexicalPreferences).recoveryPolicy = .resynchronize ∧
        ("x <= 1@." ++ "5 'y").length ≤ UInt32.size - 2) ∧
      ∃ first whole, tokenize {} "x <= 1@." = .ok first ∧
        tokenize {} ("x <= 1@." ++ "5 'y") = .ok whole ∧
        first.tokens.dropLast.dropLast <+: whole.tokens :=
  ⟨⟨rfl, by decide⟩, tokenize_prefix_stable {} "x <= 1@." "5 'y" rfl (by decide)⟩

end Poco
