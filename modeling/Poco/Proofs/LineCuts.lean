import Mathlib.Data.List.DropRight
import Poco.Proofs.SourceLines

namespace Poco

/-! The offsets at which lines begin are enough to show a line: it goes from its
start up to the newline before the next start, or to the end.  What is cut out
this way is a piece of the source between newlines, without the carriage
returns at its end, and no cut falls within a character. -/

/-- What is dropped from the end of a text is a run of carriage returns, and the longest one. -/
theorem SourceLine.trimmed_returns (text : List Char) :
    ∃ returns, text = text.rdropWhile (· == '\r') ++ List.replicate returns '\r' ∧
      (text.rdropWhile (· == '\r')).getLast? ≠ some '\r' := by
  have dropped : text.rtakeWhile (· == '\r') =
      List.replicate (text.rtakeWhile (· == '\r')).length '\r' := by
    apply List.eq_replicate_iff.mpr
    refine ⟨rfl, ?_⟩
    intro c member
    have kept := List.mem_rtakeWhile_imp (p := (· == '\r')) member
    exact beq_iff_eq.mp kept
  have parts : text.rdropWhile (· == '\r') ++ text.rtakeWhile (· == '\r') = text :=
    List.rdropWhile_append_rtakeWhile
  rw [dropped] at parts
  refine ⟨_, parts.symm, ?_⟩
  intro last
  rw [List.rdropWhile, List.getLast?_reverse] at last
  have stops := List.head?_dropWhile_not (· == '\r') text.reverse
  rw [last] at stops
  exact absurd stops (by decide)

namespace LineIndex

/-- The offsets behind the newlines of a text that begins at `offset`. -/
def startsBehind (offset : Nat) : List Char → List Nat
  | [] => []
  | c :: rest =>
      if c = '\n' then
        (offset + 1) :: startsBehind (offset + 1) rest
      else
        startsBehind (offset + c.utf8Size) rest

/-- Where a line ends that the line numbered `next` follows, if there is one. -/
def stopBefore (index : LineIndex) (next : Nat) : Nat :=
  match index.lineStarts[next]? with
  | some start => start - 1
  | none => Text.byteSize index.source

/-- A line cut out of the source between line starts, without the carriage returns at its end. -/
def cutLine? (index : LineIndex) (number : UInt32) : Option (List Char) :=
  if number = 0 then
    none
  else do
    let start ← index.lineStarts[number.toNat - 1]?
    let line ← Text.sliceBytes start (index.stopBefore number.toNat) index.source
    some (line.rdropWhile (· == '\r'))

section Starts

theorem lt_of_mem_startsBehind {offset start : Nat} {text : List Char}
    (member : start ∈ startsBehind offset text) : offset < start := by
  induction text generalizing offset with
  | nil => simp [startsBehind] at member
  | cons c rest ih =>
      rw [startsBehind] at member
      split at member
      · rcases List.mem_cons.mp member with rfl | later
        · exact Nat.lt_succ_self offset
        · exact Nat.lt_of_succ_lt (ih later)
      · exact Nat.lt_of_le_of_lt (Nat.le_add_right ..) (ih member)

theorem pairwise_startsBehind (offset : Nat) (text : List Char) :
    (startsBehind offset text).Pairwise (· < ·) := by
  induction text generalizing offset with
  | nil => exact .nil
  | cons c rest ih =>
      rw [startsBehind]
      split
      · exact .cons (fun _ later => lt_of_mem_startsBehind later) (ih (offset + 1))
      · exact ih (offset + c.utf8Size)

/-- Every start is right behind a newline. -/
theorem boundary_of_mem_startsBehind {before text : List Char} {start : Nat}
    (member : start ∈ startsBehind (Text.byteSize before) text) :
    ∃ passed rest, text = passed ++ '\n' :: rest ∧
      start = Text.byteSize (before ++ passed ++ ['\n']) := by
  induction text generalizing before with
  | nil => simp [startsBehind] at member
  | cons c rest ih =>
      have next : Text.byteSize before + c.utf8Size = Text.byteSize (before ++ [c]) := by simp
      rw [startsBehind] at member
      split at member
      · rename_i newline
        subst newline
        rw [← Text.byteSize_newline] at member
        rcases List.mem_cons.mp member with rfl | later
        · exact ⟨[], rest, rfl, by simp⟩
        · obtain ⟨passed, more, rfl, rfl⟩ := ih later
          exact ⟨'\n' :: passed, more, rfl, by simp⟩
      · rw [next] at member
        obtain ⟨passed, more, rfl, rfl⟩ := ih member
        exact ⟨c :: passed, more, rfl, by simp⟩

theorem map_start_linesBehind (before text rest : List Char) :
    (linesBehind before text rest).map (·.start) =
      Text.byteSize before :: startsBehind (Text.byteSize (before ++ text)) rest := by
  induction rest generalizing before text with
  | nil => rfl
  | cons c rest ih =>
      have next : Text.byteSize (before ++ text) + c.utf8Size =
          Text.byteSize (before ++ text ++ [c]) := by simp [Nat.add_assoc]
      rw [linesBehind, startsBehind]
      by_cases newline : c = '\n'
      · subst newline
        rw [if_pos rfl, if_pos rfl, ← Text.byteSize_newline, List.map_cons, ih, List.append_nil]
      · rw [if_neg newline, if_neg newline, next, ih, List.append_assoc]

theorem lineStarts_ofSource (source : List Char) :
    (ofSource source).lineStarts = 0 :: startsBehind 0 source := by
  rw [lineStarts, lines_ofSource, map_start_linesBehind]
  rfl

/-- A line starts at the beginning or right behind a newline. -/
theorem boundary_of_mem_lineStarts {source : List Char} {start : Nat}
    (member : start ∈ (ofSource source).lineStarts) :
    ∃ before rest, source = before ++ rest ∧ start = Text.byteSize before ∧
      (before = [] ∨ before.getLast? = some '\n') := by
  rw [lineStarts_ofSource] at member
  rcases List.mem_cons.mp member with rfl | later
  · exact ⟨[], source, rfl, rfl, .inl rfl⟩
  · rw [← Text.byteSize_nil] at later
    obtain ⟨passed, rest, rfl, rfl⟩ := boundary_of_mem_startsBehind later
    exact ⟨passed ++ ['\n'], rest, by simp, by simp, .inr (by simp)⟩

end Starts

section Texts

/-- The lines are the pieces between newlines. -/
theorem map_text_linesBehind (before text rest : List Char) :
    (linesBehind before text rest).map (·.text) = (rest.splitOn '\n').modifyHead (text ++ ·) := by
  induction rest generalizing before text with
  | nil => simp [linesBehind]
  | cons c rest ih =>
      rw [linesBehind, List.splitOn_cons_eq_if_modifyHead]
      by_cases newline : c = '\n'
      · have same : (fun piece : List Char => [] ++ piece) = id := rfl
        rw [if_pos newline, List.map_cons, ih, same, List.modifyHead_id]
        simp [newline]
      · have shifted : (text ++ [c] ++ ·) = (text ++ ·) ∘ (c :: ·) := by
          funext piece
          simp
        simp only [newline, if_false, beq_iff_eq, ih, List.modifyHead_modifyHead, shifted]

theorem map_text_lines (source : List Char) :
    (ofSource source).lines.toList.map (·.text) = source.splitOn '\n' := by
  have same : (fun piece : List Char => [] ++ piece) = id := rfl
  rw [lines_ofSource, map_text_linesBehind, same, List.modifyHead_id, id]

/-- Between its start and the newline before the next start a line has its text. -/
theorem sliceBytes_linesBehind {before text rest : List Char} {index : Nat} {line : SourceLine}
    (found : (linesBehind before text rest)[index]? = some line) :
    Text.sliceBytes line.start
        (match ((linesBehind before text rest).map (·.start))[index + 1]? with
          | some start => start - 1
          | none => Text.byteSize (before ++ text ++ rest))
        (before ++ text ++ rest) = some line.text := by
  induction rest generalizing before text index with
  | nil =>
      obtain ⟨rfl, rfl⟩ : index = 0 ∧ _ = line := by
        simpa [linesBehind, List.getElem?_singleton] using found
      simpa [linesBehind] using Text.sliceBytes_byteSize before text []
  | cons c rest ih =>
      rw [linesBehind] at found ⊢
      by_cases newline : c = '\n'
      · rw [if_pos newline] at found ⊢
        have regrouped : before ++ text ++ c :: rest = before ++ text ++ [c] ++ [] ++ rest := by simp
        cases index with
        | zero =>
            obtain rfl : _ = line := by simpa using found
            have stop : Text.byteSize (before ++ text ++ [c]) - 1 =
                Text.byteSize (before ++ text) := by
              rw [newline, Text.byteSize_newline, Nat.add_sub_cancel]
            simp only [List.map_cons, map_start_linesBehind, List.getElem?_cons_succ,
              List.getElem?_cons_zero, stop]
            exact Text.sliceBytes_byteSize before text (c :: rest)
        | succ index =>
            rw [List.getElem?_cons_succ] at found
            rw [regrouped, List.map_cons, List.getElem?_cons_succ]
            exact ih found
      · rw [if_neg newline] at found ⊢
        have regrouped : before ++ text ++ c :: rest = before ++ (text ++ [c]) ++ rest := by simp
        rw [regrouped]
        exact ih found

variable (source : List Char) (number : UInt32)

/-- Cutting a line out of the source gives the text that the index has for it. -/
theorem cutLine?_eq : (ofSource source).cutLine? number = (ofSource source).lineText? number := by
  by_cases zero : number = 0
  · simp [cutLine?, lineText?, line?, zero]
  · have next : number.toNat - 1 + 1 = number.toNat := Nat.sub_add_cancel (toNat_pos zero)
    rw [cutLine?, if_neg zero, lineText?, line?, if_neg zero, stopBefore, lineStarts,
      ← Array.getElem?_toList, lines_ofSource, List.getElem?_map]
    cases found : (linesBehind [] [] source)[number.toNat - 1]? with
    | none => rfl
    | some line =>
        have cut := sliceBytes_linesBehind found
        rw [next, List.nil_append, List.nil_append] at cut
        have whole : (ofSource source).source = source := rfl
        simp only [Option.map_some, whole]
        rw [Option.bind_eq_bind, Option.bind_some, cut]
        rfl

theorem isSome_lineText?_iff : ((ofSource source).lineText? number).isSome = true ↔
    1 ≤ number.toNat ∧ number.toNat ≤ (ofSource source).lineCount := by
  rw [lineText?, Option.isSome_map, line?, lineCount]
  by_cases zero : number = 0
  · simp [zero]
  · have positive := toNat_pos zero
    rw [if_neg zero, Option.isSome_iff_ne_none, ne_eq, Array.getElem?_eq_none_iff]
    omega

/-- A line that is shown is a piece between newlines, up to its last carriage returns. -/
theorem piece_of_lineText? {text : List Char}
    (shown : (ofSource source).lineText? number = some text) :
    ∃ returns, (source.splitOn '\n')[number.toNat - 1]? =
        some (text ++ List.replicate returns '\r') ∧ text.getLast? ≠ some '\r' := by
  rw [lineText?_eq] at shown
  obtain ⟨line, found, rfl⟩ := Option.map_eq_some_iff.mp shown
  rw [line?] at found
  split at found
  · contradiction
  · obtain ⟨returns, parts, last⟩ := SourceLine.trimmed_returns line.text
    refine ⟨returns, ?_, last⟩
    rw [← parts, ← map_text_lines, List.getElem?_map, Array.getElem?_toList, found]
    rfl

end Texts

/-- The index tells the lines of `source`, and cuts them out of it. -/
structure Cuts (index : LineIndex) (source : List Char) : Prop where
  starts : index.lineStarts = 0 :: startsBehind 0 source
  increasing : index.lineStarts.Pairwise (· < ·)
  boundary : ∀ start ∈ index.lineStarts, ∃ before rest, source = before ++ rest ∧
    start = (String.ofList before).utf8ByteSize ∧ (before = [] ∨ before.getLast? = some '\n')
  count : index.lineCount = source.count '\n' + 1
  shows : ∀ number : UInt32, (index.cutLine? number).isSome = true ↔
    1 ≤ number.toNat ∧ number.toNat ≤ index.lineCount
  piece : ∀ number text, index.cutLine? number = some text →
    ∃ returns, (source.splitOn '\n')[number.toNat - 1]? =
      some (text ++ List.replicate returns '\r') ∧ text.getLast? ≠ some '\r'
  stored : ∀ number, index.cutLine? number = index.lineText? number

theorem ofSource_cuts_lines (source : String) : (ofSource source.toList).Cuts source.toList where
  starts := lineStarts_ofSource _
  increasing := by
    rw [lineStarts_ofSource]
    exact .cons (fun _ later => lt_of_mem_startsBehind later) (pairwise_startsBehind 0 _)
  boundary := by
    intro start member
    obtain ⟨before, rest, split, rfl, begins⟩ := boundary_of_mem_lineStarts member
    exact ⟨before, rest, split, Text.byteSize_eq before, begins⟩
  count := lineCount_ofSource _
  shows := by
    intro number
    rw [cutLine?_eq]
    exact isSome_lineText?_iff _ number
  piece := by
    intro number text shown
    rw [cutLine?_eq] at shown
    exact piece_of_lineText? _ number shown
  stored := cutLine?_eq _

end LineIndex

end Poco
