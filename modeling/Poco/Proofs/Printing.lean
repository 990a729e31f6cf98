import Poco.Proofs.Following
import Poco.Proofs.Reports
import Poco.Proofs.Validity

namespace Poco

open Alphabet (quote isBlank recognizes)

/-- A text in which tokens follow each other with blanks between them. -/
inductive Spaced : List Token → String → Prop
  | nil : Spaced [] ""
  | one {token : Token} : Spaced [token] token.sourceText
  | cons {token next : Token} {tokens : List Token} {blanks text : String} (apart : blanks ≠ "")
      (blank : ∀ c ∈ blanks.toList, isBlank c = true) (rest : Spaced (next :: tokens) text) :
      Spaced (token :: next :: tokens) (token.sourceText ++ blanks ++ text)

/-- The texts of tokens with one space between them. -/
def Token.joined (tokens : List Token) : String :=
  " ".intercalate (tokens.map Token.sourceText)

theorem spaced_joined (tokens : List Token) : Spaced tokens (Token.joined tokens) := by
  match tokens with
  | [] => exact .nil
  | [token] =>
      rw [Token.joined, List.map_singleton, String.intercalate_singleton]
      exact .one
  | token :: next :: tokens =>
      rw [Token.joined, List.map_cons, List.map_cons, String.intercalate_cons_cons]
      exact .cons (by decide) (List.all_eq_true.mp rfl) (spaced_joined (next :: tokens))

/-- A run of blanks is read blank by blank. -/
theorem Munches.behind_blanks {blanks text left : List Char} {items : List (Shape × List Char)}
    (blank : ∀ c ∈ blanks, isBlank c = true) (munches : Munches text items left) :
    Munches (blanks ++ text) (blanks.map (fun c => (.blank, [c])) ++ items) left := by
  induction blanks with
  | nil => exact munches
  | cons c blanks ih =>
      have later := ih fun d member => blank d (List.mem_cons_of_mem c member)
      exact .step (leads_blank (blank c (List.mem_cons_self ..))) later

namespace Spaced

variable {tokens : List Token} {text : String}

theorem recognized (spaced : Spaced tokens text) (valid : ∀ token ∈ tokens, token.Valid) :
    ∀ c ∈ text.toList, recognizes c = true := by
  induction spaced with
  | nil => simp
  | one => exact (valid _ (by simp)).recognized
  | @cons token next tokens blanks text apart blank rest ih =>
      intro c member
      rw [String.toList_append, String.toList_append, List.append_assoc, List.mem_append,
        List.mem_append] at member
      rcases member with own | between | later
      · exact (valid token (by simp)).recognized c own
      · exact Alphabet.recognizes_of_isBlank (blank c between)
      · exact ih (fun token among => valid token (by simp [among])) c later

/-- The longest lexemes of the text are the tokens and the blanks. -/
theorem munches (spaced : Spaced tokens text) (valid : ∀ token ∈ tokens, token.Valid) :
    ∃ items, Munches text.toList items [] ∧
      items.filterMap (fun item => item.1.token? item.2) = tokens.map Token.spelling := by
  induction spaced with
  | nil => exact ⟨[], .stop stuck_of_nil, rfl⟩
  | @one token =>
      have valid := valid token (by simp)
      refine ⟨[(token.kind.shape, token.sourceText.toList)], ?_, by simp [valid.token?]⟩
      have alone := Munches.step (.alone valid.spells) (.stop stuck_of_nil)
      rwa [List.append_nil] at alone
  | @cons token next tokens blanks text apart blank rest ih =>
      obtain ⟨items, munches, spoken⟩ := ih fun token among => valid token (by simp [among])
      have valid := valid token (by simp)
      obtain ⟨c, more, first⟩ := List.exists_cons_of_ne_nil (l := blanks.toList) (by simpa using apart)
      have leads : Leads token.kind.shape token.sourceText.toList (blanks.toList ++ text.toList) := by
        rw [first]
        exact (Leads.alone valid.spells).before_blank (blank c (by simp [first])) _
      refine ⟨(token.kind.shape, token.sourceText.toList) ::
        (blanks.toList.map (fun c => (.blank, [c])) ++ items), ?_, ?_⟩
      · rw [String.toList_append, String.toList_append, List.append_assoc]
        exact .step leads (munches.behind_blanks blank)
      · simp only [List.filterMap_cons, valid.token?, List.filterMap_append, spoken, List.map_cons]
        simp [Shape.token?]

end Spaced

namespace Run

/-- A run over `text` has nothing to report and gives the kinds and values of `tokens`. -/
def ReadsBack (preferences : LexicalPreferences) (tokens : List Token) (text : String) : Prop :=
  ∃ run, tokenize preferences text = .ok run ∧ run.diagnostics = [] ∧
    run.tokens.map Token.spelling = tokens.map Token.spelling

variable {preferences : LexicalPreferences} {source : List Char}
  {items : List (Shape × List Char)}

/-- Recognized characters that split up completely leave nothing to report. -/
theorem whole_of_munches (known : ∀ c ∈ source, recognizes c = true)
    (munches : Munches source items []) :
    (whole preferences source).diagnostics = [] ∧
      (whole preferences source).tokens.map Token.spelling =
        items.filterMap (fun item => item.1.token? item.2) := by
  have reading := Lexeme.reading_ofSource preferences.recoveryPolicy source
  have kept : Scan.keptChars preferences.recoveryPolicy source = source := by
    cases preferences.recoveryPolicy with
    | resynchronize => exact List.filter_eq_self.mpr known
    | halt => exact List.takeWhile_eq_self_iff.mpr known
  have split := reading.munches
  rw [Lexeme.flatMap_chars_ofSource, kept] at split
  obtain ⟨pieces, unread⟩ := split.unique munches
  have closed := (Lexeme.unread_eq_nil_iff _).mp unread.symm
  constructor
  · rw [diagnostics_whole, Scan.refused_eq_nil _ known, closed]
    simp
  · rw [tokens_whole, Lexeme.tokens_spelling, ← pieces]

theorem readsBack_of_spaced {tokens : List Token} {text : String}
    (valid : ∀ token ∈ tokens, token.Valid) (spaced : Spaced tokens text)
    (short : text.length ≤ UInt32.size - 2) : ReadsBack preferences tokens text := by
  obtain ⟨items, munches, spoken⟩ := spaced.munches valid
  obtain ⟨silent, tokens_eq⟩ := whole_of_munches (spaced.recognized valid) munches
  exact ⟨_, tokenize_eq preferences short, silent, tokens_eq.trans spoken⟩

end Run

theorem tokenize_reads_back (preferences : LexicalPreferences) :
    (∀ tokens text, (∀ token ∈ tokens, token.Valid) → Spaced tokens text →
      text.length ≤ UInt32.size - 2 → Run.ReadsBack preferences tokens text) ∧
    ∀ original source run, tokenize original source = .ok run →
      (∀ token ∈ run.tokens, token.Valid) ∧
        ((Token.joined run.tokens).length ≤ UInt32.size - 2 →
          Run.ReadsBack preferences run.tokens (Token.joined run.tokens)) := by
  refine ⟨fun _ _ => Run.readsBack_of_spaced, ?_⟩
  intro original source run ran
  have valid := Run.valid_of_tokenizeChars ran
  exact ⟨valid, Run.readsBack_of_spaced valid (spaced_joined run.tokens)⟩

theorem tokenize_reads_back_mixed :
    Run.ReadsBack { recoveryPolicy := .halt }
        [⟨.number, "1", .start, .start⟩, ⟨.symbol, ".", .start, .start⟩,
          ⟨.statement, "let", .start, .start⟩, ⟨.identifier, "x5", .start, .start⟩,
          ⟨.string, "> ", .start, .start⟩]
        "1 .\t\nlet\u2003x5 '> '" ∧
      ∃ run, tokenize {} "1.@5>=x 'y" = .ok run ∧ (∀ token ∈ run.tokens, token.Valid) ∧
        Run.ReadsBack { recoveryPolicy := .halt } run.tokens (Token.joined run.tokens) := by
  constructor
  · refine (tokenize_reads_back { recoveryPolicy := .halt }).1 _ _ ?_ ?_ (by decide)
    · intro token member
      simp only [List.mem_cons, List.not_mem_nil, or_false] at member
      rcases member with rfl | rfl | rfl | rfl | rfl
      · exact .whole (by decide) (List.all_eq_true.mp rfl)
      · exact ⟨by decide, by decide⟩
      · show "let" ∈ Alphabet.reservedWords
        decide
      · have word : Spells .word ('x' :: ['5']) := .word rfl (List.all_eq_true.mp rfl)
        exact ⟨word, by decide⟩
      · have inside : "> ".toList.all (fun c => recognizes c && c != '\'') = true := by decide
        simpa [Token.Valid, TokenKind.Admits, quote] using inside
    · have text : "1 .\t\nlet\u2003x5 '> '" =
          "1" ++ " " ++ ("." ++ "\t\n" ++ ("let" ++ "\u2003" ++ ("x5" ++ " " ++ "'> '"))) := by decide
      rw [text]
      exact .cons (by decide) (List.all_eq_true.mp rfl)
        (.cons (by decide) (List.all_eq_true.mp rfl)
          (.cons (by decide) (List.all_eq_true.mp rfl)
            (.cons (by decide) (List.all_eq_true.mp rfl) .one)))
  · have short : "1.@5>=x 'y".length ≤ UInt32.size - 2 := by decide
    have ran := tokenize_eq {} short
    obtain ⟨valid, back⟩ := (tokenize_reads_back { recoveryPolicy := .halt }).2 {} _ _ ran
    exact ⟨_, ran, valid, back (by decide +kernel)⟩

end Poco
