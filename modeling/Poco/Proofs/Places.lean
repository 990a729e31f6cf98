import Poco.Span

namespace Poco

/-! The place that a text leads to, read off the text itself.  Walking there from
the start gives the same position as long as columns fit their words; two
prefixes of one text that lead to the same line and column are the same.  Any
walk that comes to an end has counted the bytes on its way. -/

namespace Text

theorem byteSize_le (text : List Char) : byteSize text ≤ 4 * text.length := by
  induction text with
  | nil => simp
  | cons c rest ih =>
      have small := c.utf8Size_le_four
      simp only [byteSize_cons, List.length_cons]
      omega

theorem length_le_byteSize (text : List Char) : text.length ≤ byteSize text := by
  induction text with
  | nil => simp
  | cons c rest ih =>
      have positive := c.utf8Size_pos
      simp only [byteSize_cons, List.length_cons]
      omega

theorem byteSize_pos {text : List Char} (nonempty : text ≠ []) : 0 < byteSize text := by
  cases text with
  | nil => exact absurd rfl nonempty
  | cons c rest =>
      have positive := c.utf8Size_pos
      simp only [byteSize_cons]
      omega

/-- Prefixes of one text compare by their sizes. -/
theorem prefix_of_byteSize_le {source front back : List Char} (first : front <+: source)
    (second : back <+: source) (size : byteSize front ≤ byteSize back) : front <+: back := by
  rcases List.prefix_or_prefix_of_prefix first second with shorter | ⟨piece, rfl⟩
  · exact shorter
  · cases piece with
    | nil => simp
    | cons c piece =>
        have positive := byteSize_pos (List.cons_ne_nil c piece)
        rw [byteSize_append] at size
        omega

theorem byteSize_eq (text : List Char) : byteSize text = (String.ofList text).utf8ByteSize := by
  induction text with
  | nil => rfl
  | cons c rest ih =>
      rw [byteSize_cons, ih, String.ofList_cons, String.utf8ByteSize_append,
        String.utf8ByteSize_singleton]

theorem byteSize_newline (text : List Char) : byteSize (text ++ ['\n']) = byteSize text + 1 := by
  have size : ('\n' : Char).utf8Size = 1 := rfl
  rw [byteSize_append, byteSize_cons, byteSize_nil, size]

/-- What a cut into bytes has to know about a text that is not empty. -/
theorem byteSize_cons_succ (c : Char) (rest : List Char) :
    ∃ bytes, byteSize (c :: rest) = bytes + 1 ∧ c.utf8Size ≤ bytes + 1 ∧
      bytes + 1 - c.utf8Size = byteSize rest := by
  have positive := c.utf8Size_pos
  refine ⟨byteSize (c :: rest) - 1, ?_, ?_, ?_⟩ <;> simp only [byteSize_cons] <;> omega

theorem dropBytes_byteSize (before rest : List Char) :
    dropBytes (byteSize before) (before ++ rest) = some rest := by
  induction before with
  | nil => cases rest <;> rfl
  | cons c before ih =>
      obtain ⟨bytes, size, enough, remaining⟩ := byteSize_cons_succ c before
      rw [size, List.cons_append, dropBytes, if_pos enough, remaining]
      exact ih

theorem takeBytesOnto_byteSize (taken : Array Char) (piece rest : List Char) :
    takeBytesOnto taken (byteSize piece) (piece ++ rest) = some (taken.toList ++ piece) := by
  induction piece generalizing taken with
  | nil => cases rest <;> simp [takeBytesOnto]
  | cons c piece ih =>
      obtain ⟨bytes, size, enough, remaining⟩ := byteSize_cons_succ c piece
      rw [size, List.cons_append, takeBytesOnto, if_pos enough, remaining, ih]
      simp

/-- Cutting at the byte sizes of a split gives back its middle piece. -/
theorem sliceBytes_byteSize (before piece rest : List Char) :
    sliceBytes (byteSize before) (byteSize (before ++ piece)) (before ++ piece ++ rest) =
      some piece := by
  have inOrder : byteSize before ≤ byteSize (before ++ piece) := by simp
  have size : byteSize (before ++ piece) - byteSize before = byteSize piece := by simp
  rw [sliceBytes, if_pos inOrder, size, List.append_assoc, dropBytes_byteSize]
  simp [takeBytes, takeBytesOnto_byteSize]

end Text

namespace Position

def lineAfter (text : List Char) : Nat :=
  text.count '\n' + 1

/-- One more than the characters behind the last newline of `text`. -/
def columnAfter (text : List Char) : Nat :=
  (text.reverse.takeWhile (· != '\n')).length + 1

/-- The place of whatever follows `text`. -/
def after (text : List Char) : Position :=
  { offset := .ofNat (Text.byteSize text)
    line := .ofNat (lineAfter text)
    column := .ofNat (columnAfter text) }

@[simp] theorem after_nil : after [] = start := rfl

theorem lineAfter_concat (text : List Char) (c : Char) :
    lineAfter (text ++ [c]) = if c = '\n' then lineAfter text + 1 else lineAfter text := by
  by_cases newline : c = '\n'
  · simp [lineAfter, newline]
  · simp [lineAfter, newline]

theorem columnAfter_concat (text : List Char) (c : Char) :
    columnAfter (text ++ [c]) = if c = '\n' then 1 else columnAfter text + 1 := by
  by_cases newline : c = '\n'
  · simp [columnAfter, newline]
  · simp [columnAfter, newline]

theorem lineAfter_le (text : List Char) : lineAfter text ≤ text.length + 1 := by
  have count := List.count_le_length (a := '\n') (l := text)
  unfold lineAfter
  omega

theorem columnAfter_le (text : List Char) : columnAfter text ≤ text.length + 1 := by
  have shorter := (List.takeWhile_prefix (· != '\n') (l := text.reverse)).length_le
  rw [List.length_reverse] at shorter
  unfold columnAfter
  omega

/-- What is short enough for a text is short enough for its front. -/
theorem short_front {limit : Nat} {front back : List Char}
    (short : (front ++ back).length ≤ limit) : front.length ≤ limit :=
  Nat.le_trans (List.prefix_append front back).length_le short

section Short

variable {text : List Char} (short : text.length ≤ UInt32.size - 2)

include short

theorem after_offset : (after text).offset.toNat = Text.byteSize text := by
  have bound := Text.byteSize_le text
  exact UInt64.toNat_ofNat_of_lt' (by simp only [UInt64.size, UInt32.size] at short ⊢; omega)

theorem after_line : (after text).line.toNat = lineAfter text := by
  have bound := lineAfter_le text
  exact UInt32.toNat_ofNat_of_lt' (by simp only [UInt32.size] at short ⊢; omega)

theorem after_column : (after text).column.toNat = columnAfter text := by
  have bound := columnAfter_le text
  exact UInt32.toNat_ofNat_of_lt' (by simp only [UInt32.size] at short ⊢; omega)

end Short

theorem after_offset_le {text piece : List Char} (short : (text ++ piece).length ≤ UInt32.size - 2) :
    (after text).offset ≤ (after (text ++ piece)).offset := by
  have textShort := short_front short
  rw [UInt64.le_iff_toNat_le, after_offset textShort, after_offset short]
  simp

theorem after_offset_lt {text piece : List Char} (short : (text ++ piece).length ≤ UInt32.size - 2)
    (nonempty : piece ≠ []) : (after text).offset < (after (text ++ piece)).offset := by
  have textShort := short_front short
  have positive := Text.byteSize_pos nonempty
  rw [UInt64.lt_iff_toNat_lt, after_offset textShort, after_offset short]
  simp only [Text.byteSize_append]
  omega

theorem after_offset_le_iff {left right : List Char} (leftShort : left.length ≤ UInt32.size - 2)
    (rightShort : right.length ≤ UInt32.size - 2) :
    (after left).offset ≤ (after right).offset ↔ Text.byteSize left ≤ Text.byteSize right := by
  rw [UInt64.le_iff_toNat_le, after_offset leftShort, after_offset rightShort]

theorem advance_after {text : List Char} {c : Char} (short : (text ++ [c]).length ≤ UInt32.size - 2) :
    (after text).advance c = .ok (after (text ++ [c])) := by
  have shorter : text.length + 1 ≤ UInt32.size - 2 := by simpa using short
  have textShort : text.length ≤ UInt32.size - 2 := by omega
  have bytes : (after text).offset.toNat + c.utf8Size < UInt64.size := by
    have bound := Text.byteSize_le text
    have small := c.utf8Size_le_four
    rw [after_offset textShort]
    simp only [UInt64.size, UInt32.size] at textShort ⊢
    omega
  have offset : addOffset (after text).offset c.utf8Size = .ok (after (text ++ [c])).offset := by
    rw [addOffset, if_pos bytes]
    simp [after, UInt64.ofNat_add]
  by_cases newline : c = '\n'
  · have line : nextIndex (after text).line = .ok (after (text ++ [c])).line := by
      have bound := lineAfter_le text
      have room : (after text).line.toNat + 1 < UInt32.size := by
        rw [after_line textShort]
        simp only [UInt32.size] at shorter ⊢
        omega
      rw [nextIndex, if_pos room]
      simp [after, lineAfter_concat, newline, UInt32.ofNat_add]
    subst newline
    have size : ('\n' : Char).utf8Size = 1 := rfl
    rw [size] at offset
    simp only [advance, if_true, offset, line]
    simp [after, columnAfter_concat, bind, Except.bind]
  · have column : nextIndex (after text).column = .ok (after (text ++ [c])).column := by
      have bound := columnAfter_le text
      have room : (after text).column.toNat + 1 < UInt32.size := by
        rw [after_column textShort]
        simp only [UInt32.size] at shorter ⊢
        omega
      rw [nextIndex, if_pos room]
      simp [after, columnAfter_concat, newline, UInt32.ofNat_add]
    simp only [advance, if_neg newline, offset, column]
    simp [after, lineAfter_concat, newline, bind, Except.bind]

theorem advanceOver_after (before text : List Char)
    (short : (before ++ text).length ≤ UInt32.size - 2) :
    (after before).advanceOver text = .ok (after (before ++ text)) := by
  induction text generalizing before with
  | nil => simp
  | cons c rest ih =>
      have regrouped : before ++ c :: rest = before ++ [c] ++ rest := by simp
      rw [regrouped] at short ⊢
      rw [advanceOver_cons, advance_after (short_front short)]
      exact ih (before ++ [c]) short

/-- A walk from the start ends at the place that the text says. -/
theorem advanceOver_start {text : List Char} (short : text.length ≤ UInt32.size - 2) :
    start.advanceOver text = .ok (after text) :=
  advanceOver_after [] text short

section Advancing

variable {position stop : Position}

theorem offset_of_advance {c : Char} (advanced : position.advance c = .ok stop) :
    stop.offset.toNat = position.offset.toNat + c.utf8Size := by
  unfold advance at advanced
  split at advanced
  case isTrue newline =>
      subst newline
      obtain ⟨offset, added, advanced⟩ := Fault.ok_of_bind advanced
      obtain ⟨line, -, advanced⟩ := Fault.ok_of_bind advanced
      obtain rfl := Except.ok.inj advanced
      exact addOffset_exact added
  case isFalse =>
      obtain ⟨offset, added, advanced⟩ := Fault.ok_of_bind advanced
      obtain ⟨column, -, advanced⟩ := Fault.ok_of_bind advanced
      obtain rfl := Except.ok.inj advanced
      exact addOffset_exact added

theorem offset_of_advanceOver {text : List Char} (advanced : position.advanceOver text = .ok stop) :
    stop.offset.toNat = position.offset.toNat + Text.byteSize text := by
  induction text generalizing position with
  | nil =>
      obtain rfl := Except.ok.inj advanced
      rfl
  | cons c rest ih =>
      rw [advanceOver_cons] at advanced
      obtain ⟨next, first, later⟩ := Fault.ok_of_bind advanced
      rw [ih later, offset_of_advance first, Text.byteSize_cons, Nat.add_assoc]

end Advancing

theorem columnAfter_append {text piece : List Char} (sameLine : '\n' ∉ piece) :
    columnAfter (text ++ piece) = columnAfter text + piece.length := by
  have keeps : ∀ c ∈ piece.reverse, (c != '\n') = true := by
    intro c member
    simp only [bne_iff_ne]
    rintro rfl
    exact sameLine (List.mem_reverse.mp member)
  unfold columnAfter
  rw [List.reverse_append, List.takeWhile_append_of_pos keeps]
  simp only [List.length_append, List.length_reverse]
  omega

theorem lineAfter_append_iff {text piece : List Char} :
    lineAfter (text ++ piece) = lineAfter text ↔ '\n' ∉ piece := by
  rw [← List.count_eq_zero]
  simp [lineAfter]

/-- Two places are on one line if there is no newline between them. -/
theorem after_line_eq_iff {text piece : List Char}
    (short : (text ++ piece).length ≤ UInt32.size - 2) :
    (after text).line = (after (text ++ piece)).line ↔ '\n' ∉ piece := by
  rw [← UInt32.toNat_inj, after_line (short_front short), after_line short, eq_comm]
  exact lineAfter_append_iff

/-- Within a line columns tell places apart. -/
theorem eq_nil_of_same_column {text piece : List Char} (sameLine : '\n' ∉ piece)
    (column : columnAfter (text ++ piece) = columnAfter text) : piece = [] := by
  rw [columnAfter_append sameLine] at column
  exact List.eq_nil_of_length_eq_zero (by omega)

/-- A longer prefix is on a later line or, on the same line, in a later column. -/
theorem eq_nil_of_same_place {text piece : List Char}
    (line : lineAfter (text ++ piece) = lineAfter text)
    (column : columnAfter (text ++ piece) = columnAfter text) : piece = [] :=
  eq_nil_of_same_column (lineAfter_append_iff.mp line) column

/-- Line and column tell the prefixes of one text apart. -/
theorem prefix_eq_of_same_place {text left right : List Char}
    (short : text.length ≤ UInt32.size - 2) (first : left <+: text) (second : right <+: text)
    (line : (after left).line = (after right).line)
    (column : (after left).column = (after right).column) : left = right := by
  have leftShort := Nat.le_trans first.length_le short
  have rightShort := Nat.le_trans second.length_le short
  have lines := congrArg UInt32.toNat line
  have columns := congrArg UInt32.toNat column
  rw [after_line leftShort, after_line rightShort] at lines
  rw [after_column leftShort, after_column rightShort] at columns
  rcases List.prefix_or_prefix_of_prefix first second with ⟨piece, rfl⟩ | ⟨piece, rfl⟩
  · rw [eq_nil_of_same_place lines.symm columns.symm, List.append_nil]
  · rw [eq_nil_of_same_place lines columns, List.append_nil]

end Position

end Poco
