import Poco.Files.Reading
import Poco.Proofs.Underlines

namespace Poco

open Position (lineAfter)

/-! A file that is read has as many lines as its text has pieces that newlines end,
and one more if something follows the last newline.  That is the number of the
line on which its last character stands, so nothing that a run over the file
reports is on a later line, whatever the index counts behind the last newline. -/

namespace Files

/-- The pieces of a text between its newlines, without an empty last one. -/
def linePieces (text : List Char) : List (List Char) :=
  let pieces := text.splitOn '\n'
  if pieces.getLast? = some [] then pieces.dropLast else pieces

section Counting

/-- A text has as many lines as the line number of its last character says. -/
theorem lineCount_concat (initial : List Char) (last : Char) :
    lineCount (initial ++ [last]) = lineAfter initial := by
  by_cases newline : last = '\n'
  · simp [lineCount, lineAfter, newline]
  · simp [lineCount, lineAfter, newline]

theorem splitOn_concat (text : List Char) {c : Char} (other : c ≠ '\n') :
    ∃ front last, (text ++ [c]).splitOn '\n' = front ++ [last ++ [c]] := by
  induction text with
  | nil => exact ⟨[], [], List.splitOn_eq_singleton (by simpa using Ne.symm other)⟩
  | cons d text ih =>
      obtain ⟨front, last, pieces⟩ := ih
      rw [List.cons_append, List.splitOn_cons_eq_if_modifyHead, pieces]
      split
      · exact ⟨[] :: front, last, rfl⟩
      · cases front with
        | nil => exact ⟨[], d :: last, rfl⟩
        | cons piece front => exact ⟨(d :: piece) :: front, last, rfl⟩

theorem length_splitOn (text : List Char) :
    (text.splitOn '\n').length = text.count '\n' + 1 := by
  rw [← LineIndex.map_text_lines, List.length_map, Array.length_toList]
  exact LineIndex.lineCount_ofSource text

theorem lineCount_eq_length_linePieces (text : List Char) :
    lineCount text = (linePieces text).length := by
  rcases List.eq_nil_or_concat text with rfl | ⟨initial, c, rfl⟩
  · rfl
  · rw [List.concat_eq_append, lineCount_concat]
    by_cases newline : c = '\n'
    · have pieces : (initial ++ [c]).splitOn '\n' = initial.splitOn '\n' ++ [[]] := by
        rw [newline]
        exact List.splitOn_append_cons_self initial []
      simp only [linePieces, pieces, List.getLast?_concat, if_true, List.dropLast_concat]
      exact (length_splitOn initial).symm
    · obtain ⟨front, last, pieces⟩ := splitOn_concat initial newline
      have lengths := length_splitOn (initial ++ [c])
      rw [pieces] at lengths
      have filled : last ++ [c] ≠ [] := by simp
      have keeps : some (last ++ [c]) ≠ some [] := fun empty => filled (Option.some.inj empty)
      simp only [linePieces, pieces, List.getLast?_concat, if_neg keeps, lengths]
      simp [lineAfter, newline]

theorem lineAfter_le_lineCount {text before rest : List Char} {c : Char}
    (split : text = before ++ c :: rest) : lineAfter before ≤ lineCount text := by
  rcases List.eq_nil_or_concat (c :: rest) with empty | ⟨initial, last, parts⟩
  · contradiction
  · rw [split, parts, List.concat_eq_append, ← List.append_assoc, lineCount_concat]
    simp only [lineAfter, List.count_append]
    omega

/-- The index has a line behind the last newline, and one for the empty text. -/
theorem lineCount_index (text : List Char) : (LineIndex.ofSource text).lineCount =
    if text = [] ∨ text.getLast? = some '\n' then lineCount text + 1 else lineCount text := by
  rw [LineIndex.lineCount_ofSource]
  rcases List.eq_nil_or_concat text with rfl | ⟨initial, c, rfl⟩
  · rfl
  · rw [List.concat_eq_append, lineCount_concat, List.getLast?_concat]
    by_cases newline : c = '\n'
    · simp [lineAfter, newline]
    · simp [lineAfter, newline]

end Counting

section Accepted

theorem Outcome.ok_of_bind {α β : Type} {first : Outcome α} {next : α → Outcome β} {value : β}
    (ran : (first >>= next).result = .ok value) :
    ∃ middle, first.result = .ok middle ∧ (next middle).result = .ok value := by
  change (Outcome.bind first next).result = .ok value at ran
  rw [Outcome.bind] at ran
  cases before : first.result with
  | error error => simp [before] at ran
  | ok middle => exact ⟨middle, rfl, by simpa only [before] using ran⟩

variable {limits : FileLimits} {preferences : FilePreferences} {logging : LoggingPreferences}
  {path : String} {answer : FileAnswer} {elapsed : Duration}

theorem checkMetadata_ok {metadata : FileMetadata} {done : Unit}
    (ran : (checkMetadata limits preferences path metadata).result = .ok done) :
    metadata.size ≤ limits.maxFileSize := by
  rw [checkMetadata] at ran
  split at ran
  · contradiction
  · rename_i notLarger
    exact Nat.le_of_not_lt notLarger

theorem decodeSource_ok {bytes : ByteArray} {source : String}
    (ran : (decodeSource path bytes).result = .ok source) :
    source.utf8ByteSize = bytes.size := by
  rw [decodeSource, String.fromUTF8?] at ran
  by_cases valid : bytes.IsValidUTF8
  · simp only [dif_pos valid] at ran
    obtain rfl := Except.ok.inj ran
    rfl
  · simp only [dif_neg valid] at ran
    contradiction

theorem checkLines_ok {lines : Nat} {done : Unit}
    (ran : (checkLines limits path lines).result = .ok done) : lines ≤ limits.maxLineCount := by
  rw [checkLines] at ran
  split at ran
  · contradiction
  · rename_i notMore
    exact Nat.le_of_not_lt notMore

/-- What holds of every file that is read. -/
theorem accepted_limits {file : SourceFile}
    (accepted : (readSource limits preferences logging path answer elapsed).result = .ok file) :
    file.source.utf8ByteSize ≤ limits.maxFileSize ∧
      file.metadata.lines = lineCount file.source.toList ∧
      file.metadata.lines ≤ limits.maxLineCount := by
  rw [readSource] at accepted
  obtain ⟨_, -, accepted⟩ := Outcome.ok_of_bind accepted
  obtain ⟨⟨fullPath, bytes⟩, -, accepted⟩ := Outcome.ok_of_bind accepted
  obtain ⟨_, -, accepted⟩ := Outcome.ok_of_bind accepted
  obtain ⟨_, checked, accepted⟩ := Outcome.ok_of_bind accepted
  obtain ⟨source, decoded, accepted⟩ := Outcome.ok_of_bind accepted
  obtain ⟨_, counted, accepted⟩ := Outcome.ok_of_bind accepted
  obtain ⟨_, -, accepted⟩ := Outcome.ok_of_bind accepted
  obtain rfl := Except.ok.inj accepted
  have size : source.utf8ByteSize ≤ limits.maxFileSize := by
    rw [decodeSource_ok decoded]
    exact checkMetadata_ok checked
  exact ⟨size, rfl, checkLines_ok counted⟩

end Accepted

/-- A line from the first up to the last of so many. -/
def IsLine (line : UInt32) (lines : Nat) : Prop :=
  1 ≤ line.toNat ∧ line.toNat ≤ lines

/-- Everything that `run` has found stands on one of the first `lines` lines. -/
structure Bounds (lines : Nat) (run : Run) : Prop where
  starts : ∀ token ∈ run.tokens, IsLine token.span.start.line lines
  stops : ∀ token ∈ run.tokens, IsLine token.span.stop.line lines
  reports : ∀ diagnostic ∈ run.diagnostics, IsLine diagnostic.line lines

section Bounds

variable {source before rest : List Char} (short : source.length ≤ UInt32.size - 2)

include short

theorem isLine_after {c : Char} (split : source = before ++ c :: rest) :
    IsLine (Position.after before).line (lineCount source) := by
  have beforeShort : before.length ≤ UInt32.size - 2 :=
    Nat.le_trans (List.IsPrefix.length_le ⟨c :: rest, split.symm⟩) short
  rw [IsLine, Position.after_line beforeShort]
  exact ⟨Nat.succ_pos _, lineAfter_le_lineCount split⟩

theorem isLine_behind {c : Char} (split : source = before ++ c :: rest) (other : c ≠ '\n') :
    IsLine (Position.after (before ++ [c])).line (lineCount source) := by
  have same : (Position.after (before ++ [c])).line = (Position.after before).line := by
    simp only [Position.after, Position.lineAfter_concat, if_neg other]
  rw [same]
  exact isLine_after short split

theorem bounds_whole (preferences : LexicalPreferences) :
    Bounds (lineCount source) (Run.whole preferences source) where
  starts := by
    intro token member
    obtain ⟨valid, before, piece, rest, stands⟩ := Run.stands_of_mem short member
    obtain ⟨c, core, begins, -⟩ := stands.first_visible valid
    have split : source = before ++ c :: (core ++ rest) := by
      rw [stands.split, begins]
      simp
    rw [stands.span_eq short]
    exact isLine_after short split
  stops := by
    intro token member
    obtain ⟨valid, before, piece, rest, stands⟩ := Run.stands_of_mem short member
    obtain ⟨initial, d, ends, visible⟩ := stands.last_visible valid
    have split : source = before ++ initial ++ d :: rest := by
      rw [stands.split, ends]
      simp
    rw [stands.span_eq short, ends, ← List.append_assoc]
    exact isLine_behind short split (Alphabet.not_line_end_of_visible visible).1
  reports := by
    intro diagnostic member
    obtain ⟨before, c, rest, split, line, -⟩ := Run.place_of_diagnostic member
    rw [line]
    exact isLine_after short split

end Bounds

/-- The lines of a file as counted when it is read. -/
structure SourceFile.CountsLines (limits : FileLimits) (file : SourceFile) : Prop where
  pieces : file.metadata.lines = (linePieces file.source.toList).length
  within : file.metadata.lines ≤ limits.maxLineCount
  index : (LineIndex.ofSource file.source.toList).lineCount =
    if file.source.toList = [] ∨ file.source.toList.getLast? = some '\n' then
      file.metadata.lines + 1
    else
      file.metadata.lines
  bounds : ∀ lexical : LexicalPreferences, ∃ run, tokenize lexical file.source = .ok run ∧
    Bounds file.metadata.lines run

theorem accepted_files_count_lines (limits : FileLimits) (preferences : FilePreferences)
    (logging : LoggingPreferences) (path : String) (answer : FileAnswer) (elapsed : Duration)
    (file : SourceFile)
    (accepted : (readSource limits preferences logging path answer elapsed).result = .ok file) :
    file.CountsLines limits := by
  obtain ⟨size, lines, within⟩ := accepted_limits accepted
  have listShort : file.source.toList.length ≤ UInt32.size - 2 := by
    have bytes := Text.length_le_byteSize file.source.toList
    rw [Text.byteSize_eq, String.ofList_toList] at bytes
    have largest := limits.sizeBounded
    simp only [UInt32.size]
    omega
  have short : file.source.length ≤ UInt32.size - 2 := by
    rw [← String.length_toList]
    exact listShort
  constructor
  · rw [lines, lineCount_eq_length_linePieces]
  · exact within
  · rw [lines]
    exact lineCount_index _
  · intro lexical
    rw [lines]
    exact ⟨_, tokenize_eq lexical short, bounds_whole listShort lexical⟩

theorem accepted_files_count_lines_mixed :
    (readSource Build.development.files { requireExtension := true } {} "a.POCO"
        (.regular "/a.POCO" "x@\n'é\r\n".toUTF8) {}).result =
      .ok
        { source := "x@\n'é\r\n"
          metadata := { path := "/a.POCO", size := 8, extension := some "poco", lines := 2 } } ∧
      SourceFile.CountsLines Build.development.files
        { source := "x@\n'é\r\n"
          metadata := { path := "/a.POCO", size := 8, extension := some "poco", lines := 2 } } :=
  ⟨rfl, accepted_files_count_lines Build.development.files { requireExtension := true } {} "a.POCO"
    (.regular "/a.POCO" "x@\n'é\r\n".toUTF8) {} _ rfl⟩

end Files

end Poco
