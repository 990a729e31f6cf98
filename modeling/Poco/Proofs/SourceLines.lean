import Mathlib.Data.List.DropRight
import Poco.LineIndex
import Poco.Proofs.Munching
import Poco.Proofs.Places

namespace Poco

/-- The line of `source` that begins behind `before` and that `rest` follows. -/
structure SourceLine.Behind (line : SourceLine) (source before rest : List Char) : Prop where
  split : source = before ++ line.text ++ rest
  start : line.start = Text.byteSize before
  begins : Position.columnAfter before = 1
  single : '\n' ∉ line.text
  ends : rest = [] ∨ ∃ below, rest = '\n' :: below

namespace LineIndex

open Position (lineAfter columnAfter)

/-- The lines from the one that begins behind `before`, of which `text` has gone by. -/
def linesBehind (before text : List Char) : List Char → List SourceLine
  | [] => [{ start := Text.byteSize before, text }]
  | c :: rest =>
      if c = '\n' then
        { start := Text.byteSize before, text } :: linesBehind (before ++ text ++ [c]) [] rest
      else
        linesBehind before (text ++ [c]) rest

theorem linesOnto_toList (done : Array SourceLine) (before text rest : List Char) :
    (linesOnto done (Text.byteSize before) text.reverse (Text.byteSize (before ++ text))
      rest).toList = done.toList ++ linesBehind before text rest := by
  induction rest generalizing done before text with
  | nil => simp [linesOnto, linesBehind]
  | cons c rest ih =>
      have next : Text.byteSize (before ++ text) + c.utf8Size =
          Text.byteSize (before ++ text ++ [c]) := by simp [Nat.add_assoc]
      rw [linesOnto, linesBehind, next]
      by_cases newline : c = '\n'
      · have below := ih (done.push { start := Text.byteSize before, text })
          (before ++ text ++ [c]) []
        rw [List.append_nil, List.reverse_nil, Array.toList_push] at below
        rw [if_pos newline, if_pos newline, List.reverse_reverse, below, List.append_assoc,
          List.singleton_append]
      · have onward := ih done before (text ++ [c])
        rw [List.reverse_append, List.reverse_singleton, List.singleton_append,
          ← List.append_assoc] at onward
        rw [if_neg newline, if_neg newline]
        exact onward

theorem lines_ofSource (source : List Char) :
    (ofSource source).lines.toList = linesBehind [] [] source := by
  simpa [ofSource] using linesOnto_toList #[] [] [] source

theorem length_linesBehind (before text rest : List Char) :
    (linesBehind before text rest).length = rest.count '\n' + 1 := by
  induction rest generalizing before text with
  | nil => rfl
  | cons c rest ih =>
      by_cases newline : c = '\n'
      · simp [linesBehind, newline, ih]
      · simp [linesBehind, newline, ih]

/-- The lines are numbered as places are. -/
theorem behind_of_linesBehind {before text rest : List Char} {index : Nat} {line : SourceLine}
    (begins : columnAfter before = 1) (single : '\n' ∉ text)
    (found : (linesBehind before text rest)[index]? = some line) :
    ∃ above below, line.Behind (before ++ text ++ rest) above below ∧
      lineAfter above = lineAfter before + index := by
  induction rest generalizing before text index with
  | nil =>
      obtain ⟨rfl, rfl⟩ : index = 0 ∧ _ = line := by
        simpa [linesBehind, List.getElem?_singleton] using found
      exact ⟨before, [], ⟨by simp, rfl, begins, single, .inl rfl⟩, rfl⟩
  | cons c rest ih =>
      rw [linesBehind] at found
      by_cases newline : c = '\n'
      · rw [if_pos newline] at found
        cases index with
        | zero =>
            obtain rfl : _ = line := by simpa using found
            exact ⟨before, c :: rest, ⟨rfl, rfl, begins, single, .inr ⟨rest, by rw [newline]⟩⟩, rfl⟩
        | succ index =>
            rw [List.getElem?_cons_succ] at found
            have column : columnAfter (before ++ text ++ [c]) = 1 := by
              rw [Position.columnAfter_concat, if_pos newline]
            obtain ⟨above, below, behind, number⟩ := ih column (by simp) found
            refine ⟨above, below, by simpa using behind, ?_⟩
            have passed := List.count_eq_zero.mpr single
            rw [number, Position.lineAfter_concat, if_pos newline]
            simp only [lineAfter, List.count_append, passed]
            omega
      · rw [if_neg newline] at found
        have sameLine : '\n' ∉ text ++ [c] := by
          simpa [Ne.symm newline] using single
        obtain ⟨above, below, behind, number⟩ := ih begins sameLine found
        exact ⟨above, below, by simpa using behind, number⟩

theorem lineCount_ofSource (source : List Char) :
    (ofSource source).lineCount = source.count '\n' + 1 := by
  rw [lineCount, ← Array.length_toList, lines_ofSource, length_linesBehind]

/-- Nothing before a character that is kept is left out at the end. -/
theorem rdropWhile_append_cons (trims : Char → Bool) {c : Char} (keeps : trims c = false)
    (before rest : List Char) :
    (before ++ c :: rest).rdropWhile trims = before ++ c :: rest.rdropWhile trims := by
  induction rest using List.reverseRecOn with
  | nil => rw [List.rdropWhile_concat_neg _ _ _ (by simp [keeps]), List.rdropWhile_nil]
  | append_singleton rest d ih =>
      have regrouped : before ++ c :: (rest ++ [d]) = before ++ c :: rest ++ [d] := by simp
      rw [regrouped, List.rdropWhile_concat, List.rdropWhile_concat]
      split
      · exact ih
      · simp

theorem lineText?_eq (index : LineIndex) (number : UInt32) :
    index.lineText? number = (index.line? number).map (·.text.rdropWhile (· == '\r')) :=
  rfl

theorem toNat_pos {number : UInt32} (nonzero : number ≠ 0) : 0 < number.toNat :=
  Nat.pos_of_ne_zero fun zero => nonzero (UInt32.toNat_inj.mp zero)

variable {source : List Char} {number : UInt32} {line : SourceLine}

/-- A line that is found begins where places get its number. -/
theorem behind_of_line? (found : (ofSource source).line? number = some line) :
    ∃ before rest, line.Behind source before rest ∧ lineAfter before = number.toNat := by
  rw [line?] at found
  split at found
  · contradiction
  · rename_i nonzero
    rw [← Array.getElem?_toList, lines_ofSource] at found
    obtain ⟨before, rest, behind, counted⟩ := behind_of_linesBehind rfl (by simp) found
    have positive := toNat_pos nonzero
    refine ⟨before, rest, behind, ?_⟩
    rw [counted]
    simp only [lineAfter, List.count_nil]
    omega

theorem line?_exists (source : List Char) (number : UInt32) (positive : 0 < number.toNat)
    (within : number.toNat ≤ source.count '\n' + 1) :
    ∃ line, (ofSource source).line? number = some line := by
  have nonzero : number ≠ 0 := by
    rintro rfl
    contradiction
  have inside : number.toNat - 1 < (ofSource source).lines.size := by
    rw [← lineCount, lineCount_ofSource]
    omega
  exact ⟨_, by rw [line?, if_neg nonzero, Array.getElem?_eq_getElem inside]⟩

end LineIndex

namespace SourceLine.Behind

open Position (lineAfter columnAfter)

variable {line : SourceLine} {source before rest : List Char}

theorem lineAfter_source (behind : line.Behind source before rest) :
    source.count '\n' + 1 = lineAfter before + rest.count '\n' := by
  have passed := List.count_eq_zero.mpr behind.single
  rw [behind.split]
  simp only [lineAfter, List.count_append, passed]
  omega

/-- A line is the last one when nothing follows it. -/
theorem last_iff (behind : line.Behind source before rest) :
    lineAfter before < source.count '\n' + 1 ↔ rest ≠ [] := by
  rw [behind.lineAfter_source]
  rcases behind.ends with rfl | ⟨below, rfl⟩
  · simp
  · simp

theorem split_newline (behind : line.Behind source before rest) :
    source = before ++ (line.text ++ rest.take 1) ++ rest.drop 1 := by
  rw [List.append_assoc, List.append_assoc, List.take_append_drop, ← List.append_assoc]
  exact behind.split

theorem short (behind : line.Behind source before rest) {limit : Nat}
    (within : source.length ≤ limit) : (before ++ (line.text ++ rest.take 1)).length ≤ limit := by
  rw [behind.split_newline] at within
  exact Position.short_front within

/-- Places on a line come behind its beginning, without a newline in between. -/
theorem passed {upTo behindIt : List Char} (stands : line.Behind source before rest)
    (split : source = upTo ++ behindIt) (number : lineAfter upTo = lineAfter before) :
    ∃ passed, upTo = before ++ passed ∧ '\n' ∉ passed := by
  have begins : before <+: source := ⟨line.text ++ rest, by rw [stands.split, List.append_assoc]⟩
  rcases List.prefix_or_prefix_of_prefix begins ⟨behindIt, split.symm⟩ with
    ⟨piece, rfl⟩ | ⟨piece, rfl⟩
  · exact ⟨piece, rfl, Position.lineAfter_append_iff.mp number⟩
  · have column := stands.begins
    have positive : 0 < columnAfter upTo := Nat.succ_pos _
    rw [Position.columnAfter_append (Position.lineAfter_append_iff.mp number.symm)] at column
    obtain rfl : piece = [] := List.eq_nil_of_length_eq_zero (by omega)
    exact ⟨[], by simp, by simp⟩

/-- A piece without a newline behind the beginning of a line is the front of its text. -/
theorem piece_prefix {piece behindIt : List Char} (stands : line.Behind source before rest)
    (split : source = before ++ piece ++ behindIt) (sameLine : '\n' ∉ piece) :
    ∃ others, line.text = piece ++ others ∧ behindIt = others ++ rest := by
  have following : line.text ++ rest = piece ++ behindIt := by
    have whole := stands.split.symm.trans split
    rw [List.append_assoc, List.append_assoc] at whole
    exact List.append_cancel_left whole
  have inside : ∀ d ∈ piece, (d != '\n') = true := by
    intro d member
    simp only [bne_iff_ne]
    rintro rfl
    exact sameLine member
  have boundary : ∀ d, rest.head? = some d → (d != '\n') = false := by
    intro d first
    rcases stands.ends with rfl | ⟨below, rfl⟩
    · contradiction
    · obtain rfl := Option.some.inj first
      rfl
  have within := run_length_le inside boundary ⟨behindIt, following.symm⟩
  obtain ⟨others, text⟩ :=
    List.prefix_of_prefix_length_le ⟨behindIt, following.symm⟩ ⟨rest, rfl⟩ within
  rw [← text, List.append_assoc, List.append_cancel_left_eq] at following
  exact ⟨others, text.symm, following.symm⟩

/-- What goes from the beginning of a line to a newline is all of its text. -/
theorem piece_eq {piece behindIt : List Char} (stands : line.Behind source before rest)
    (split : source = before ++ piece ++ '\n' :: behindIt) (sameLine : '\n' ∉ piece) :
    line.text = piece := by
  obtain ⟨others, text, following⟩ := stands.piece_prefix split sameLine
  cases others with
  | nil => rw [text, List.append_nil]
  | cons d others =>
      obtain ⟨rfl, -⟩ := List.cons.inj following
      exact absurd (by simp [text]) stands.single

/-- The characters of a line, its newline included, are those in places with its number. -/
theorem holds {upTo behindIt : List Char} {c : Char} (stands : line.Behind source before rest)
    (split : source = upTo ++ c :: behindIt) (number : lineAfter upTo = lineAfter before) :
    ∃ passed more, upTo = before ++ passed ∧ '\n' ∉ passed ∧
      line.text ++ rest.take 1 = passed ++ c :: more := by
  obtain ⟨passed, rfl, sameLine⟩ := stands.passed split number
  obtain ⟨others, text, following⟩ := stands.piece_prefix split sameLine
  refine ⟨passed, (others ++ rest.take 1).tail, rfl, sameLine, ?_⟩
  rw [text, List.append_assoc, List.append_cancel_left_eq]
  cases others with
  | nil =>
      rw [List.nil_append] at following
      simp [← following]
  | cons d others =>
      obtain ⟨rfl, -⟩ := List.cons.inj following
      rfl

end SourceLine.Behind

end Poco
