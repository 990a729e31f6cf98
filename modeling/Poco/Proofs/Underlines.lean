import Poco.Proofs.Carets
import Poco.Proofs.Fidelity
import Poco.Proofs.LineCuts
import Poco.Proofs.Validity

namespace Poco

open Alphabet (quote recognizes isBlank)
open Position (columnAfter)

/-! A token is shown in the line in which it begins, with a caret below each of its
characters there.  No token begins or ends with a character that could be left
out at the end of a line, so its carets stay below characters that are shown;
only a string goes on behind its first line. -/

theorem Alphabet.not_line_end_of_visible {c : Char} (visible : isBlank c = false) :
    c ≠ '\n' ∧ c ≠ '\r' := by
  constructor
  · rintro rfl
    exact absurd visible (by decide)
  · rintro rfl
    exact absurd visible (by decide)

namespace Spells

variable {shape : Shape} {text : List Char}

/-- Only strings and blanks have blanks in them. -/
theorem visible_of_mem {c : Char} (spells : Spells shape text) (otherShape : shape ≠ .string)
    (speaks : shape ≠ .blank) (member : c ∈ text) : isBlank c = false := by
  rcases spells.char_cases member with string | ⟨blank, -⟩ | wordPart | ⟨symbol, listed, -, inside⟩
  · exact absurd string otherShape
  · exact absurd blank speaks
  · rw [Bool.eq_false_iff]
    intro blank
    rw [Alphabet.not_isAlphanum_of_isBlank blank] at wordPart
    contradiction
  · exact (Alphabet.symbol_chars listed inside).2

/-- A string begins and ends with a quote, so no lexeme but a blank begins or ends with a blank. -/
theorem ends_visible {c : Char} (spells : Spells shape text) (speaks : shape ≠ .blank)
    (atEnd : text.head? = some c ∨ text.getLast? = some c) : isBlank c = false := by
  by_cases string : shape = .string
  · subst string
    cases spells with
    | string =>
        have opens : c = quote := by
          rcases atEnd with first | last
          · exact (by simpa using first : quote = c).symm
          · rw [List.getLast?_concat] at last
            exact (Option.some.inj last).symm
        rw [opens]
        decide
  · apply spells.visible_of_mem string speaks
    rcases atEnd with first | last
    · exact List.mem_of_mem_head? first
    · exact List.mem_of_mem_getLast? last

end Spells

theorem TokenKind.shape_ne_blank (kind : TokenKind) : kind.shape ≠ .blank := by
  cases kind <;> decide

namespace Token.StandsFor

variable {token : Token} {source before piece rest : List Char}
  (stands : token.StandsFor source before piece rest) (valid : token.Valid)

include stands valid

theorem first_visible : ∃ c core, piece = c :: core ∧ isBlank c = false := by
  obtain ⟨c, core, split⟩ := List.exists_cons_of_ne_nil stands.nonempty
  have known : recognizes c = true := by simpa [split] using stands.first
  refine ⟨c, core, split, valid.spells.ends_visible token.kind.shape_ne_blank (.inl ?_)⟩
  rw [← stands.spells, split, List.filter_cons_of_pos known, List.head?_cons]

theorem last_visible : ∃ initial d, piece = initial ++ [d] ∧ isBlank d = false := by
  rcases List.eq_nil_or_concat piece with empty | ⟨initial, d, split⟩
  · exact absurd empty stands.nonempty
  · rw [List.concat_eq_append] at split
    have known : recognizes d = true := by simpa [split] using stands.last
    refine ⟨initial, d, split, valid.spells.ends_visible token.kind.shape_ne_blank (.inr ?_)⟩
    rw [← stands.spells, split, List.filter_append, List.filter_cons_of_pos known]
    simp

/-- What goes on behind a newline begins before it. -/
theorem first_line (newline : '\n' ∈ piece) :
    ∃ c more lower, piece = c :: more ++ '\n' :: lower ∧ '\n' ∉ c :: more ∧ c ≠ '\r' := by
  obtain ⟨head, lower, ends, sameLine⟩ := List.eq_append_cons_of_mem newline
  obtain ⟨c, core, begins, visible⟩ := stands.first_visible valid
  obtain ⟨notNewline, kept⟩ := Alphabet.not_line_end_of_visible visible
  cases head with
  | nil => exact absurd (List.cons.inj (begins.symm.trans ends)).1 notNewline
  | cons d more =>
      obtain rfl := (List.cons.inj (begins.symm.trans ends)).1
      exact ⟨c, more, lower, ends, sameLine, kept⟩

/-- Only a string goes on behind a newline. -/
theorem string_of_newline (member : '\n' ∈ piece) : token.kind = .string := by
  by_contra otherKind
  have spelled : '\n' ∈ token.sourceText.toList := by
    rw [← stands.spells]
    exact List.mem_filter.mpr ⟨member, by decide⟩
  have otherShape : token.kind.shape ≠ .string := by
    cases kind : token.kind with
    | string => exact absurd kind otherKind
    | _ => decide
  have visible := valid.spells.visible_of_mem otherShape token.kind.shape_ne_blank spelled
  exact absurd visible (by decide)

omit valid in
theorem span_eq (short : source.length ≤ UInt32.size - 2) :
    token.span = { start := .after before, stop := .after (before ++ piece) } := by
  have pieceShort : (before ++ piece).length ≤ UInt32.size - 2 :=
    Position.short_front (stands.split ▸ short)
  have starts := stands.starts
  have stops := stands.stops
  rw [Position.advanceOver_start (Position.short_front pieceShort)] at starts
  rw [Position.advanceOver_start pieceShort] at stops
  rw [Except.ok.inj starts, Except.ok.inj stops]

end Token.StandsFor

namespace LineIndex

/-- The difference of two columns, or zero when it would be less. -/
def columnsUpTo (stop start : UInt32) : UInt32 :=
  if start ≤ stop then stop - start else 0

/-- The number of carets, counted in machine words. -/
def caretWord (span : Span) (width : UInt32) : Except Fault UInt32 :=
  if span.start.line = span.stop.line then
    .ok (max (columnsUpTo span.stop.column span.start.column) 1)
  else do
    let behind ← nextIndex width
    .ok (max (columnsUpTo behind span.start.column) 1)

/-- What is shown for `span` over a line: its place, the line and so many carets. -/
def overCarets (span : Span) (message : String) (text : List Char) (carets : Nat) : String :=
  let number := Text.decimal span.start.line.toNat
  let margin := Text.spaces number.length
  "Error: " ++ message ++ "\n  --> " ++ span.start.describe ++ "\n" ++
    margin ++ " |\n" ++
    number ++ " | " ++ String.ofList text ++ "\n" ++
    margin ++ " | " ++ Text.spaces (span.start.column.toNat - 1) ++
      String.ofList (List.replicate carets '^') ++ "\n"

/-- A message with its line cut out of the source and its carets counted in machine words. -/
def underlineCut (index : LineIndex) (span : Span) (message : String) : Except Fault String :=
  match index.cutLine? span.start.line with
  | none => .ok ("Error: " ++ message ++ "\n  --> " ++ span.start.describe ++ "\n")
  | some text => do
      let carets ← caretWord span (.ofNat text.length)
      .ok (overCarets span message text carets.toNat)

theorem toNat_columnsUpTo (stop start : UInt32) :
    (columnsUpTo stop start).toNat = stop.toNat - start.toNat := by
  rw [columnsUpTo]
  split
  · rename_i inOrder
    exact UInt32.toNat_sub_of_le _ _ inOrder
  · rename_i reversed
    rw [UInt32.le_iff_toNat_le] at reversed
    have none : (0 : UInt32).toNat = 0 := rfl
    omega

theorem toNat_max_one (count : UInt32) : (max count 1).toNat = max 1 count.toNat := by
  have one : (1 : UInt32).toNat = 1 := rfl
  have cases : max count 1 = if count ≤ 1 then 1 else count := rfl
  rw [cases]
  split
  · rename_i small
    rw [UInt32.le_iff_toNat_le] at small
    omega
  · rename_i large
    rw [UInt32.le_iff_toNat_le] at large
    omega

/-- Counting carets in machine words gives their number where the width of the line fits. -/
theorem caretWord_eq (span : Span) {width : Nat} (short : width ≤ UInt32.size - 2) :
    ∃ carets, caretWord span (.ofNat width) = .ok carets ∧
      carets.toNat = caretCount span width := by
  have fits : (UInt32.ofNat width).toNat = width :=
    UInt32.toNat_ofNat_of_lt' (by simp only [UInt32.size] at short ⊢; omega)
  by_cases oneLine : span.start.line = span.stop.line
  · refine ⟨_, if_pos oneLine, ?_⟩
    rw [toNat_max_one, toNat_columnsUpTo, caretCount, if_pos oneLine]
  · have room : (UInt32.ofNat width).toNat + 1 < UInt32.size := by
      rw [fits]
      simp only [UInt32.size] at short ⊢
      omega
    have behind : nextIndex (.ofNat width) = .ok (UInt32.ofNat width + 1) := if_pos room
    refine ⟨max (columnsUpTo (UInt32.ofNat width + 1) span.start.column) 1, ?_, ?_⟩
    · rw [caretWord, if_neg oneLine, behind]
      rfl
    · have next : (UInt32.ofNat width + 1).toNat = width + 1 := by
        have one : (1 : UInt32).toNat = 1 := rfl
        rw [UInt32.toNat_add, fits, one]
        exact Nat.mod_eq_of_lt (by rw [← fits]; exact room)
      rw [toNat_max_one, toNat_columnsUpTo, next, caretCount, if_neg oneLine]

theorem underline_line {index : LineIndex} {span : Span} {text : List Char}
    (line : index.lineText? span.start.line = some text) (message : String) :
    index.underline span message =
      overCarets span message text (caretCount span text.length) := by
  rw [underline, line]
  dsimp only [overCarets]

theorem length_lineText?_le {source text : List Char} {number : UInt32}
    (shown : (ofSource source).lineText? number = some text) : text.length ≤ source.length := by
  rw [lineText?_eq] at shown
  obtain ⟨line, found, rfl⟩ := Option.map_eq_some_iff.mp shown
  obtain ⟨before, rest, stands, -⟩ := behind_of_line? found
  have trimmed := (List.rdropWhile_prefix (· == '\r') (l := line.text)).length_le
  have lengths := congrArg List.length stands.split
  simp only [List.length_append] at lengths
  omega

/-- Nothing overflows on the way to a message with its line. -/
theorem underlineCut_eq {source : List Char} (short : source.length ≤ UInt32.size - 2)
    (span : Span) (message : String) :
    (ofSource source).underlineCut span message =
      .ok ((ofSource source).underline span message) := by
  rw [underlineCut, cutLine?_eq]
  cases line : (ofSource source).lineText? span.start.line with
  | none => rw [underline, line]
  | some text =>
      obtain ⟨carets, counted, count⟩ :=
        caretWord_eq span (Nat.le_trans (length_lineText?_le line) short)
      rw [underline_line line message, ← count]
      simp only [counted]
      rfl

/-- A line with a message, and a caret below each character of `marked`, which stands
behind `lead` in it. -/
def flagged (message : String) (line : Nat) (lead marked trail : List Char) : String :=
  let number := Text.decimal line
  let margin := Text.spaces number.length
  "Error: " ++ message ++ "\n  --> " ++ (number ++ ":" ++ Text.decimal (lead.length + 1)) ++ "\n" ++
    margin ++ " |\n" ++
    number ++ " | " ++ String.ofList (lead ++ marked ++ trail) ++ "\n" ++
    margin ++ " | " ++ String.ofList (lead.map fun _ => ' ') ++
      String.ofList (marked.map fun _ => '^') ++ "\n"

theorem overCarets_eq_flagged {span : Span} {lead marked trail : List Char}
    (begins : span.start.column.toNat = lead.length + 1)
    (count : caretCount span (lead ++ marked ++ trail).length = marked.length) (message : String) :
    overCarets span message (lead ++ marked ++ trail)
        (caretCount span (lead ++ marked ++ trail).length) =
      flagged message span.start.line.toNat lead marked trail := by
  have blanks : lead.map (fun _ => ' ') = List.replicate lead.length ' ' := List.map_const' ..
  have carets : marked.map (fun _ => '^') = List.replicate marked.length '^' := List.map_const' ..
  rw [count]
  dsimp only [overCarets, flagged, Position.describe]
  rw [begins, Nat.add_sub_cancel, blanks, carets]
  dsimp only [Text.spaces]

/-- A span that goes on behind its line has carets up to the end of that line. -/
theorem caretCount_broken {before piece : List Char}
    (short : (before ++ piece).length ≤ UInt32.size - 2) (newline : '\n' ∈ piece) (width : Nat) :
    caretCount { start := .after before, stop := .after (before ++ piece) } width =
      max 1 (width + 1 - columnAfter before) := by
  have broken : (Position.after before).line ≠ (Position.after (before ++ piece)).line :=
    fun same => (Position.after_line_eq_iff short).mp same newline
  rw [caretCount, if_neg broken, Position.after_column (Position.short_front short)]

/-- A piece up to a newline is shown to the end of the line, the last carriage returns apart. -/
theorem lineText?_broken {source before more lower : List Char} {c : Char}
    (short : source.length ≤ UInt32.size - 2)
    (split : source = before ++ c :: more ++ '\n' :: lower) (sameLine : '\n' ∉ c :: more)
    (kept : c ≠ '\r') :
    ∃ above lead shown returns, before = above ++ lead ∧ columnAfter above = 1 ∧ '\n' ∉ lead ∧
      c :: more = c :: shown ++ List.replicate returns '\r' ∧
      (ofSource source).lineText? (Position.after before).line = some (lead ++ c :: shown) := by
  obtain ⟨line, above, below, lead, lookup, stands, rfl, leads, passed⟩ :=
    line_of_piece short split sameLine
  have regrouped : source = above ++ (lead ++ c :: more) ++ '\n' :: lower := by
    rw [split]
    simp only [List.append_assoc]
  have text := stands.piece_eq regrouped passed
  have trimmed := rdropWhile_append_cons (· == '\r') (beq_false_of_ne kept) lead more
  obtain ⟨returns, dropped, -⟩ := SourceLine.trimmed_returns more
  refine ⟨above, lead, more.rdropWhile (· == '\r'), returns, rfl, stands.begins, leads, ?_, ?_⟩
  · rw [List.cons_append, ← dropped]
  · rw [lineText?_eq, lookup, Option.map_some, text, trimmed]

end LineIndex

theorem Position.at_line_start {text : List Char} (begins : columnAfter text = 1) :
    text = [] ∨ text.getLast? = some '\n' := by
  rcases List.eq_nil_or_concat text with rfl | ⟨initial, c, rfl⟩
  · exact .inl rfl
  · rw [List.concat_eq_append, columnAfter_concat] at begins
    split at begins
    · rename_i newline
      exact .inr (by simp [newline])
    · have positive : 0 < columnAfter initial := Nat.succ_pos _
      omega

/-- The token is shown in the line behind `above`, with a caret below each character of `marked`,
which are all its characters on that line that are shown. -/
structure Token.UnderlinedIn (token : Token) (source above lead marked trail : List Char) :
    Prop where
  within : above ++ lead ++ marked <+: source
  lineStart : above = [] ∨ above.getLast? = some '\n'
  oneLine : '\n' ∉ lead ++ marked
  begins : Position.start.advanceOver (above ++ lead) = .ok token.span.start
  printed : (LineIndex.ofSource source).lineText? token.span.start.line =
    some (lead ++ marked ++ trail)
  nonempty : marked ≠ []
  whole : token.span.start.line = token.span.stop.line → token.span.slice source = some marked
  broken : token.span.start.line ≠ token.span.stop.line →
    token.kind = .string ∧ trail = [] ∧ ∃ returns below, token.span.slice source =
      some (marked ++ List.replicate returns '\r' ++ '\n' :: below)
  shown : ∀ message, (LineIndex.ofSource source).underline token.span message =
    LineIndex.flagged message token.span.start.line.toNat lead marked trail
  total : ∀ message, (LineIndex.ofSource source).underlineCut token.span message =
    .ok ((LineIndex.ofSource source).underline token.span message)

theorem LineIndex.underline_flagged {source lead marked trail : List Char} {span : Span}
    (printed : (ofSource source).lineText? span.start.line = some (lead ++ marked ++ trail))
    (column : span.start.column.toNat = lead.length + 1)
    (count : caretCount span (lead ++ marked ++ trail).length = marked.length) (message : String) :
    (ofSource source).underline span message =
      flagged message span.start.line.toNat lead marked trail := by
  rw [underline_line printed, overCarets_eq_flagged column count]

namespace Token.StandsFor

variable {token : Token} {source before piece rest : List Char}
  (short : source.length ≤ UInt32.size - 2)
  (stands : token.StandsFor source before piece rest) (valid : token.Valid)

include short stands valid

theorem underlined_whole (sameLine : '\n' ∉ piece) :
    ∃ above lead marked trail, token.UnderlinedIn source above lead marked trail := by
  obtain ⟨initial, d, ends, visible⟩ := stands.last_visible valid
  obtain ⟨above, lead, trail, rfl, lineStart, leads, printed⟩ :=
    LineIndex.lineText?_piece short stands.split sameLine ends
      (Alphabet.not_line_end_of_visible visible).2
  have pieceShort : (above ++ lead ++ piece).length ≤ UInt32.size - 2 :=
    Position.short_front (stands.split ▸ short)
  have span := stands.span_eq short
  have column := LineIndex.column_in_line lineStart leads (Position.short_front pieceShort)
  have count : LineIndex.caretCount token.span (lead ++ piece ++ trail).length = piece.length := by
    rw [span, LineIndex.caretCount_piece pieceShort sameLine]
    exact Nat.max_eq_right (List.length_pos_iff.mpr stands.nonempty)
  have oneLine : token.span.start.line = token.span.stop.line := by
    rw [span]
    exact (Position.after_line_eq_iff pieceShort).mpr sameLine
  have place : token.span.start = .after (above ++ lead) := by rw [span]
  rw [← place] at printed column
  exact ⟨above, lead, piece, trail,
    { within := ⟨rest, stands.split.symm⟩
      lineStart := Position.at_line_start lineStart
      oneLine := by simp [leads, sameLine]
      begins := stands.starts
      printed := printed
      nonempty := stands.nonempty
      whole := fun _ => stands.slice
      broken := fun broken => absurd oneLine broken
      shown := LineIndex.underline_flagged printed column count
      total := LineIndex.underlineCut_eq short token.span }⟩

theorem underlined_broken (newline : '\n' ∈ piece) :
    ∃ above lead marked trail, token.UnderlinedIn source above lead marked trail := by
  obtain ⟨c, more, lower, ends, sameLine, kept⟩ := stands.first_line valid newline
  have split : source = before ++ c :: more ++ '\n' :: (lower ++ rest) := by
    rw [stands.split, ends]
    simp
  obtain ⟨above, lead, shown, returns, rfl, lineStart, leads, dropped, printed⟩ :=
    LineIndex.lineText?_broken short split sameLine kept
  have pieceShort : (above ++ lead ++ piece).length ≤ UInt32.size - 2 :=
    Position.short_front (stands.split ▸ short)
  have leadShort := Position.short_front pieceShort
  have span := stands.span_eq short
  have column := LineIndex.column_in_line lineStart leads leadShort
  have count : LineIndex.caretCount token.span (lead ++ c :: shown ++ []).length =
      (c :: shown).length := by
    rw [span, LineIndex.caretCount_broken pieceShort newline, ← Position.after_column leadShort,
      column]
    simp only [List.length_append, List.length_cons, List.length_nil]
    omega
  have broken : token.span.start.line ≠ token.span.stop.line := by
    rw [span]
    exact fun same => (Position.after_line_eq_iff pieceShort).mp same newline
  have slice : token.span.slice source =
      some (c :: shown ++ List.replicate returns '\r' ++ '\n' :: lower) := by
    rw [stands.slice, ends, dropped]
  have place : token.span.start = .after (above ++ lead) := by rw [span]
  rw [← place] at printed column
  rw [← List.append_nil (lead ++ c :: shown)] at printed
  exact ⟨above, lead, c :: shown, [],
    { within := by
        refine ⟨List.replicate returns '\r' ++ '\n' :: (lower ++ rest), ?_⟩
        rw [split, dropped]
        simp
      lineStart := Position.at_line_start lineStart
      oneLine := by
        rw [dropped, List.mem_append, not_or] at sameLine
        rw [List.mem_append, not_or]
        exact ⟨leads, sameLine.1⟩
      begins := stands.starts
      printed := printed
      nonempty := List.cons_ne_nil _ _
      whole := fun same => absurd same broken
      broken := fun _ => ⟨stands.string_of_newline valid newline, rfl, returns, lower, slice⟩
      shown := LineIndex.underline_flagged printed column count
      total := LineIndex.underlineCut_eq short token.span }⟩

end Token.StandsFor

/-- Every token of a run is valid and has its place in the source. -/
theorem Run.stands_of_mem {preferences : LexicalPreferences} {source : List Char} {token : Token}
    (short : source.length ≤ UInt32.size - 2) (member : token ∈ (whole preferences source).tokens) :
    token.Valid ∧ ∃ before piece rest, token.StandsFor source before piece rest := by
  obtain ⟨lexeme, among, found⟩ := List.mem_filterMap.mp member
  exact ⟨valid_of_tokenizeChars (tokenizeChars_eq preferences short) token member,
    Lexeme.standsFor short among found⟩

theorem tokens_underlined_in_line (preferences : LexicalPreferences) (source : String)
    (short : source.length ≤ UInt32.size - 2) :
    ∃ run, tokenize preferences source = .ok run ∧
      ∀ token ∈ run.tokens, ∃ above lead marked trail,
        token.UnderlinedIn source.toList above lead marked trail := by
  have listShort : source.toList.length ≤ UInt32.size - 2 := by
    rw [String.length_toList]
    exact short
  refine ⟨_, tokenize_eq preferences short, ?_⟩
  intro token member
  obtain ⟨valid, before, piece, rest, stands⟩ := Run.stands_of_mem listShort member
  by_cases newline : '\n' ∈ piece
  · exact stands.underlined_broken listShort valid newline
  · exact stands.underlined_whole listShort valid newline

theorem tokens_underlined_in_line_mixed :
    "\r\tx@y = 'é\u2003\r\r\n@\r\n' <=\r".length ≤ UInt32.size - 2 ∧
      ∃ run, tokenize {} "\r\tx@y = 'é\u2003\r\r\n@\r\n' <=\r" = .ok run ∧
        ∀ token ∈ run.tokens, ∃ above lead marked trail,
          token.UnderlinedIn "\r\tx@y = 'é\u2003\r\r\n@\r\n' <=\r".toList above lead marked trail :=
  ⟨by decide, tokens_underlined_in_line {} "\r\tx@y = 'é\u2003\r\r\n@\r\n' <=\r" (by decide)⟩

end Poco
