import Mathlib.Data.List.DropRight
import Poco.Files.Reading
import Poco.Proofs.Coverage
import Poco.Proofs.Validity

namespace Poco

open Alphabet (isBlank recognizes quote)

/-! A run over a source is silent when it gives no token and reports nothing, and
it is so exactly for sources of the alphabet's blanks.  A file counts as blank
when its text is white space.  The two notions differ in two characters: the
next-line control is white space but not in the alphabet, the byte order mark
the other way round. -/

/-- White space that the alphabet does not know. -/
def nextLine : Char := '\u0085'

/-- A blank of the alphabet that is not white space. -/
def byteOrderMark : Char := '\ufeff'

namespace Text

/-- A text without the white space at both ends. -/
def trim (text : List Char) : List Char :=
  (text.dropWhile isWhiteSpace).rdropWhile isWhiteSpace

theorem isBlankText_iff (text : List Char) :
    isBlankText text = true ↔ ∀ c ∈ text, isWhiteSpace c = true :=
  List.all_eq_true

theorem isBlankText_iff_trim (text : List Char) : isBlankText text = true ↔ trim text = [] := by
  rw [isBlankText_iff, trim, List.rdropWhile_eq_nil_iff]
  constructor
  · intro white c member
    exact white c ((List.dropWhile_sublist _).subset member)
  · intro white c member
    rw [← List.takeWhile_append_dropWhile (p := isWhiteSpace) (l := text)] at member
    rcases List.mem_append.mp member with front | back
    · exact List.mem_takeWhile_imp front
    · exact white c back

end Text

section Characters

variable {c : Char}

theorem isBlank_eq_isWhiteSpace (other : c ≠ nextLine) (unmarked : c ≠ byteOrderMark) :
    isBlank c = Text.isWhiteSpace c := by
  unfold isBlank
  split
  case h_14 => exact absurd rfl unmarked
  case h_15 =>
      unfold Text.isWhiteSpace
      split
      case h_7 => exact absurd rfl other
      case h_15 => rfl
      all_goals contradiction
  all_goals rfl

theorem isBlank_iff :
    isBlank c = true ↔ c ≠ nextLine ∧ (Text.isWhiteSpace c = true ∨ c = byteOrderMark) := by
  by_cases control : c = nextLine
  · rw [control]
    decide
  · by_cases mark : c = byteOrderMark
    · rw [mark]
      decide
    · rw [isBlank_eq_isWhiteSpace control mark]
      simp [control, mark]

end Characters

namespace Scan

variable {policy : RecoveryPolicy} {scan result : Scan} {position : Position}

/-- A scan that comes to its end has kept all it went through, or has set something aside. -/
theorem extend_cases {text : List Char} (ran : extend policy scan position text = .ok result) :
    (∀ c ∈ text, recognizes c = true) ∧
        result.kept.toList.map (·.char) = scan.kept.toList.map (·.char) ++ text ∧
        result.rejected = scan.rejected ∧ result.haltedAt = scan.haltedAt ∨
      (∃ c ∈ text, recognizes c = false) ∧ scan.rejected.size < result.rejected.size := by
  induction text generalizing scan position with
  | nil =>
      rw [extend] at ran
      cases ran
      exact .inl (by simp)
  | cons c rest ih =>
      cases known : recognizes c with
      | true =>
          obtain ⟨stop, advanced⟩ := advances_of_extend ran (.inl known)
          rw [extend_known rest known advanced] at ran
          rcases ih ran with ⟨all, kept, rejected, halted⟩ | ⟨⟨d, later, foreign⟩, more⟩
          · refine .inl ⟨by simpa [known] using all, ?_, rejected, halted⟩
            simpa [keep] using kept
          · exact .inr ⟨⟨d, List.mem_cons_of_mem c later, foreign⟩, more⟩
      | false =>
          have here : ∃ d ∈ c :: rest, recognizes d = false := ⟨c, List.mem_cons_self .., known⟩
          have pushed : scan.rejected.size < (scan.reject c position).rejected.size := by
            simp [reject]
          cases policy with
          | halt =>
              rw [extend_halts rest known] at ran
              cases ran
              exact .inr ⟨here, pushed⟩
          | resynchronize =>
              obtain ⟨stop, advanced⟩ := advances_of_extend ran (.inr rfl)
              rw [extend_foreign rest known advanced] at ran
              rcases ih ran with ⟨-, -, rejected, -⟩ | ⟨-, more⟩
              · exact .inr ⟨here, by rwa [rejected]⟩
              · exact .inr ⟨here, Nat.lt_trans pushed more⟩

end Scan

namespace Lexeme

variable {lexeme : Lexeme} {lexemes : List Lexeme}

theorem Reading.shape_of_blank (reading : Reading lexemes) (among : lexeme ∈ lexemes)
    (blank : ∀ c ∈ lexeme.chars, isBlank c = true) : lexeme.shape = .blank := by
  have first : isBlank lexeme.first.char = true := blank _ (List.mem_cons_self ..)
  have unquoted : lexeme.first.char ≠ quote := by
    intro same
    rw [same] at first
    exact absurd first (by decide)
  rcases reading.opens_or_spells among with ⟨-, opens⟩ | ⟨-, spells⟩
  · exact absurd (by simpa [isQuote] using opens) unquoted
  · have other := Alphabet.not_isAlphanum_of_isBlank first
    simp only [Char.isAlphanum, Bool.or_eq_false_iff] at other
    rw [Spells.shape_eq_opening spells]
    simp [Shape.opening, unquoted, other, first]

end Lexeme

namespace Run

variable {preferences : LexicalPreferences} {source : List Char} {run : Run}

/-- No token and no diagnostic. -/
def IsSilent (run : Run) : Prop :=
  run.tokens = [] ∧ run.diagnostics = []

/-- Where every character is a blank, so is every lexeme. -/
theorem isSilent_of_blank (ran : tokenizeChars preferences source = .ok run)
    (blank : ∀ c ∈ source, isBlank c = true) : run.IsSilent := by
  obtain ⟨scan, scanned, tokens, diagnostics⟩ := parts_of_tokenizeChars ran
  rcases Scan.extend_cases scanned with ⟨-, kept, rejected, -⟩ | ⟨⟨c, member, foreign⟩, -⟩
  · have reading := Lexeme.reading_ofGlyphs _ (Scan.genuine_extend scanned (by simp))
    have chars := Lexeme.flatMap_chars_ofGlyphs scan.kept.toList
    rw [kept] at chars
    have shapes : ∀ lexeme ∈ Lexeme.ofGlyphs scan.kept.toList, lexeme.shape = .blank := by
      intro lexeme among
      apply reading.shape_of_blank among
      intro c inside
      exact blank c (by simpa [chars] using List.mem_flatMap_of_mem among inside)
    have closed : (Lexeme.ofGlyphs scan.kept.toList).filter Lexeme.isOpen = [] := by
      rw [List.filter_eq_nil_iff]
      intro lexeme among
      simp [Lexeme.isOpen, shapes lexeme among]
    constructor
    · rw [tokens, List.filterMap_eq_nil_iff]
      intro lexeme among
      exact Lexeme.toToken?_eq_none_iff.mpr (.inl (shapes lexeme among))
    · rw [diagnostics, rejected, Lexeme.errors_eq, closed]
      simp
  · rw [Alphabet.recognizes_of_isBlank (blank c member)] at foreign
    contradiction

theorem blank_of_isSilent (ran : tokenizeChars preferences source = .ok run)
    (silent : run.IsSilent) : ∀ c ∈ source, isBlank c = true := by
  obtain ⟨scan, scanned, tokens, diagnostics⟩ := parts_of_tokenizeChars ran
  rw [silent.1, eq_comm, List.filterMap_eq_nil_iff] at tokens
  rw [silent.2, eq_comm, List.map_eq_nil_iff, List.append_eq_nil_iff] at diagnostics
  obtain ⟨nothing, closed⟩ := diagnostics
  rcases Scan.extend_cases scanned with ⟨-, kept, -, halted⟩ | ⟨-, more⟩
  · have reading := Lexeme.reading_ofGlyphs _ (Scan.genuine_extend scanned (by simp))
    have chars := Lexeme.flatMap_chars_ofGlyphs scan.kept.toList
    have running : scan.halted = false := by rw [Scan.halted, halted, Option.isSome_none]
    rw [Lexeme.errors_eq, running] at closed
    intro c member
    rw [← List.nil_append source, ← List.map_nil (f := Glyph.char), ← Array.toList_empty, ← kept,
      ← chars] at member
    obtain ⟨lexeme, among, inside⟩ := List.mem_flatMap.mp member
    have shut : lexeme.isOpen = false := by
      simpa using List.filter_eq_nil_iff.mp (List.map_eq_nil_iff.mp closed) lexeme among
    exact Lexeme.isBlank_of_silent (reading.spells_of_closed among shut) shut
      (tokens lexeme among) inside
  · rw [Array.toList_eq_nil_iff] at nothing
    simp [nothing] at more

theorem isSilent_iff (ran : tokenizeChars preferences source = .ok run) :
    run.IsSilent ↔ ∀ c ∈ source, isBlank c = true :=
  ⟨blank_of_isSilent ran, isSilent_of_blank ran⟩

end Run

namespace Text

/-- Nothing but white space and byte order marks, with one of the two characters that only one
notion of blanks has, and without the other. -/
def Contested (text : List Char) : Prop :=
  (∀ c ∈ text, isWhiteSpace c = true ∨ c = byteOrderMark) ∧
    (nextLine ∈ text ↔ byteOrderMark ∉ text)

section Pale

variable {text : List Char} (pale : ∀ c ∈ text, isWhiteSpace c = true ∨ c = byteOrderMark)

include pale

theorem isBlankText_iff_unmarked : isBlankText text = true ↔ byteOrderMark ∉ text := by
  rw [isBlankText_iff]
  constructor
  · intro white member
    exact absurd (white _ member) (by decide)
  · intro unmarked c member
    rcases pale c member with white | rfl
    · exact white
    · exact absurd member unmarked

theorem blank_iff_uncontrolled : (∀ c ∈ text, isBlank c = true) ↔ nextLine ∉ text := by
  constructor
  · intro blank member
    exact absurd (blank _ member) (by decide)
  · intro uncontrolled c member
    refine isBlank_iff.mpr ⟨?_, pale c member⟩
    rintro rfl
    exact uncontrolled member

end Pale

/-- Outside the contested texts the two notions of a blank text agree. -/
theorem isBlankText_iff_blank (text : List Char) :
    (isBlankText text = true ↔ ∀ c ∈ text, isBlank c = true) ↔ ¬ Contested text := by
  by_cases pale : ∀ c ∈ text, isWhiteSpace c = true ∨ c = byteOrderMark
  · rw [isBlankText_iff_unmarked pale, blank_iff_uncontrolled pale, Contested]
    tauto
  · have notWhite : ¬ isBlankText text = true := by
      rw [isBlankText_iff]
      exact fun white => pale fun c member => .inl (white c member)
    have notBlank : ¬ ∀ c ∈ text, isBlank c = true :=
      fun blank => pale fun c member => (isBlank_iff.mp (blank c member)).2
    exact iff_of_true (iff_of_false notWhite notBlank) fun contested => pale contested.1

end Text

namespace Files

theorem blank_files_tokenize_to_nothing (preferences : LexicalPreferences) (file : SourceFile) :
    (file.isBlank = true ↔ Text.trim file.source.toList = []) ∧
    (file.source.length ≤ UInt32.size - 2 → ∃ run, tokenize preferences file.source = .ok run) ∧
    (∀ run, tokenize preferences file.source = .ok run →
      ((file.isBlank = true ↔ run.IsSilent) ↔ ¬ Text.Contested file.source.toList)) := by
  refine ⟨Text.isBlankText_iff_trim _, fun short => ⟨_, tokenize_eq preferences short⟩, ?_⟩
  intro run ran
  rw [Run.isSilent_iff ran]
  exact Text.isBlankText_iff_blank _

theorem blank_files_tokenize_to_nothing_mixed :
    let file : SourceFile :=
      { source := " \t\u2003\u0085\ufeff\n"
        metadata := { path := "/a.poco", size := 11, extension := some "poco" } }
    file.source.length ≤ UInt32.size - 2 ∧
      ∃ run, tokenize { recoveryPolicy := .halt } file.source = .ok run ∧
        ((file.isBlank = true ↔ run.IsSilent) ↔ ¬ Text.Contested file.source.toList) := by
  intro file
  have short : file.source.length ≤ UInt32.size - 2 := by decide
  obtain ⟨-, ran, agree⟩ := blank_files_tokenize_to_nothing { recoveryPolicy := .halt } file
  obtain ⟨run, ran⟩ := ran short
  exact ⟨short, run, ran, agree run ran⟩

/-- A file of one byte order mark is not blank, but tokenizes to nothing; a file of one next-line
control is blank, and the control is reported. -/
theorem blank_files_and_silent_runs_differ :
    let marked : SourceFile :=
      { source := "\ufeff"
        metadata := { path := "/a.poco", size := 3, extension := some "poco" } }
    let controlled : SourceFile :=
      { source := "\u0085"
        metadata := { path := "/a.poco", size := 2, extension := some "poco" } }
    ¬ (marked.isBlank = true ↔ ∃ run, tokenize {} marked.source = .ok run ∧ run.IsSilent) ∧
      ¬ (controlled.isBlank = true ↔
        ∃ run, tokenize {} controlled.source = .ok run ∧ run.IsSilent) := by
  intro marked controlled
  constructor
  · obtain ⟨run, ran⟩ : ∃ run, tokenize {} marked.source = .ok run :=
      ⟨_, tokenize_eq {} (by decide)⟩
    have silent : run.IsSilent := Run.isSilent_of_blank ran (List.all_eq_true.mp (by decide))
    intro agree
    exact absurd (agree.mpr ⟨run, ran, silent⟩) (by decide)
  · intro agree
    obtain ⟨run, ran, silent⟩ := agree.mp (by decide)
    have blank := Run.blank_of_isSilent ran silent
    exact absurd (blank nextLine (by decide)) (by decide)

end Files

end Poco
