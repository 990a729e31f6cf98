import Poco.Proofs.Reports
import Poco.Proofs.Resolving

namespace Poco

open Alphabet (quote recognizes)
open Glyph (behind allBehind)
open Position (lineAfter columnAfter)

/-- What is wrong with `c` between `before` and `rest`: it is foreign, or a quote that opens
a string which nothing closes. -/
def DiagnosticKind.Blames (kind : DiagnosticKind) (before : List Char) (c : Char)
    (rest : List Char) : Prop :=
  match kind with
  | .unrecognizedSyntax => recognizes c = false
  | .unterminatedString => c = quote ∧ before.count quote % 2 = 0 ∧ quote ∉ rest

theorem DiagnosticKind.Blames.visible {kind : DiagnosticKind} {before rest : List Char} {c : Char}
    (blames : kind.Blames before c rest) : c ≠ '\n' ∧ c ≠ '\r' := by
  cases kind with
  | unrecognizedSyntax =>
      have newline : recognizes '\n' = true := by decide
      have carriageReturn : recognizes '\r' = true := by decide
      constructor
      · rintro rfl
        exact absurd blames (by simp [Blames, newline])
      · rintro rfl
        exact absurd blames (by simp [Blames, carriageReturn])
  | unterminatedString =>
      obtain ⟨rfl, -⟩ := blames
      decide

section Offender

variable {source : List Char} {diagnostic : Diagnostic}

theorem Diagnostic.offender_of_refusal (member : diagnostic ∈ refusals source) :
    ∃ kind before c rest, source = before ++ c :: rest ∧ diagnostic = behind kind before ∧
      kind.Blames before c rest := by
  obtain ⟨glyph, among, rfl⟩ := List.mem_map.mp member
  obtain ⟨inside, foreign⟩ := List.mem_filter.mp among
  obtain ⟨before, c, rest, split, rfl⟩ := Glyph.mem_allBehind.mp inside
  have unknown : recognizes c = false := by simpa using foreign
  exact ⟨.unrecognizedSyntax, before, c, rest, split, rfl, unknown⟩

theorem Run.Reports.offender_of_mem {run : Run} (reports : run.Reports source)
    (member : diagnostic ∈ run.diagnostics) :
    ∃ kind before c rest, source = before ++ c :: rest ∧ diagnostic = .behind kind before ∧
      kind.Blames before c rest := by
  rcases Nat.mod_two_eq_zero_or_one (source.count quote) with paired | unpaired
  · rw [reports.paired paired] at member
    exact Diagnostic.offender_of_refusal member
  · obtain ⟨before, rest, split, last, diagnostics⟩ := reports.unpaired unpaired
    rw [diagnostics, List.mem_append, List.mem_singleton] at member
    rcases member with refused | rfl
    · exact Diagnostic.offender_of_refusal refused
    · have opens : before.count quote % 2 = 0 := by
        rw [split, List.count_append, List.count_cons_self, List.count_eq_zero.mpr last] at unpaired
        omega
      exact ⟨.unterminatedString, before, quote, rest, split, rfl, rfl, opens, last⟩

/-- Every diagnostic is about one character and stands at its place. -/
theorem Run.offender_of_mem (preferences : LexicalPreferences)
    (member : diagnostic ∈ (whole preferences source).diagnostics) :
    ∃ kind before c rest, source = before ++ c :: rest ∧ diagnostic = .behind kind before ∧
      kind.Blames before c rest := by
  by_cases known : ∀ c ∈ source, recognizes c = true
  · rw [← whole_policy_irrelevant .resynchronize known] at member
    exact (reports_whole rfl).offender_of_mem member
  · cases policy : preferences.recoveryPolicy with
    | resynchronize => exact (reports_whole policy).offender_of_mem member
    | halt =>
        obtain ⟨before, c, rest, split, knownBefore, foreign⟩ :=
          Alphabet.exists_first_foreign known
        rw [(reportsHalt_whole policy split knownBefore foreign).refused,
          List.mem_singleton] at member
        exact ⟨.unrecognizedSyntax, before, c, rest, split, member, foreign⟩

end Offender

namespace LineIndex

/-- A piece of one line has a caret for every character. -/
theorem caretCount_piece {before piece : List Char}
    (short : (before ++ piece).length ≤ UInt32.size - 2) (sameLine : '\n' ∉ piece) (width : Nat) :
    caretCount { start := .after before, stop := .after (before ++ piece) } width =
      max 1 piece.length := by
  have oneLine := (Position.after_line_eq_iff short).mpr sameLine
  rw [caretCount, if_pos oneLine, Position.after_column (Position.short_front short),
    Position.after_column short, Position.columnAfter_append sameLine, Nat.add_sub_cancel_left]

section Piece

variable {source before piece rest : List Char} (short : source.length ≤ UInt32.size - 2)
  (split : source = before ++ piece ++ rest) (sameLine : '\n' ∉ piece)

include short split sameLine

/-- A piece without a newline stands in one line. -/
theorem line_of_piece :
    ∃ line above below lead, (ofSource source).line? (Position.after before).line = some line ∧
      line.Behind source above below ∧ before = above ++ lead ∧ '\n' ∉ lead ∧
      '\n' ∉ lead ++ piece := by
  have regrouped : source = before ++ (piece ++ rest) := by rw [split, List.append_assoc]
  obtain ⟨line, above, below, lookup, stands, -, number⟩ := line?_after short regrouped
  obtain ⟨lead, rfl, leads⟩ := stands.passed regrouped number
  refine ⟨line, above, below, lead, lookup, stands, rfl, leads, ?_⟩
  simp [leads, sameLine]

/-- All of a piece is shown that does not end in a carriage return. -/
theorem lineText?_piece {initial : List Char} {d : Char} (ends : piece = initial ++ [d])
    (kept : d ≠ '\r') :
    ∃ above lead trail, before = above ++ lead ∧ columnAfter above = 1 ∧ '\n' ∉ lead ∧
      (ofSource source).lineText? (Position.after before).line = some (lead ++ piece ++ trail) := by
  obtain ⟨line, above, below, lead, lookup, stands, rfl, leads, passed⟩ :=
    line_of_piece short split sameLine
  have regrouped : source = above ++ (lead ++ piece) ++ rest := by
    rw [split]
    simp only [List.append_assoc]
  obtain ⟨others, text, -⟩ := stands.piece_prefix regrouped passed
  have parts : line.text = lead ++ initial ++ d :: others := by
    rw [text, ends]
    simp
  have trimmed := rdropWhile_append_cons (· == '\r') (beq_false_of_ne kept) (lead ++ initial) others
  refine ⟨above, lead, others.rdropWhile (· == '\r'), rfl, stands.begins, leads, ?_⟩
  rw [lineText?_eq, lookup, Option.map_some, parts, trimmed, ends]
  simp

end Piece

theorem column_in_line {above lead : List Char} (begins : columnAfter above = 1)
    (leads : '\n' ∉ lead) (short : (above ++ lead).length ≤ UInt32.size - 2) :
    (Position.after (above ++ lead)).column.toNat = lead.length + 1 := by
  rw [Position.after_column short, Position.columnAfter_append leads, begins, Nat.add_comm]

section Character

variable {source before rest : List Char} {c : Char}
  (short : source.length ≤ UInt32.size - 2) (split : source = before ++ c :: rest)
  (visible : c ≠ '\n' ∧ c ≠ '\r')

include short split visible

/-- A character that is neither a newline nor a carriage return is seen in its line and column. -/
theorem lineText?_behind :
    ∃ text, (ofSource source).lineText? (Position.after before).line = some text ∧
      text[(Position.after before).column.toNat - 1]? = some c := by
  rw [List.append_cons] at split
  have sameLine : '\n' ∉ [c] := by simpa using Ne.symm visible.1
  obtain ⟨above, lead, trail, rfl, begins, leads, line⟩ :=
    lineText?_piece short split sameLine (List.nil_append [c]).symm visible.2
  have leadShort : (above ++ lead).length ≤ UInt32.size - 2 := by
    rw [split, List.append_assoc] at short
    exact Position.short_front short
  refine ⟨_, line, ?_⟩
  rw [column_in_line begins leads leadShort, Nat.add_sub_cancel]
  simp

theorem caretCount_behind (width : Nat) : caretCount (behind before c).span width = 1 := by
  rw [List.append_cons] at split
  have sameLine : '\n' ∉ [c] := by simpa using Ne.symm visible.1
  exact caretCount_piece (Position.short_front (split ▸ short)) sameLine width

end Character

end LineIndex

/-- A heading with its place and line, and one caret below a character of the line. -/
def Cli.pointed (heading : String) (line column : Nat) (text : List Char) : String :=
  let number := Text.decimal line
  let pad := Text.spaces number.length
  "Error: " ++ heading ++ "\n  --> " ++ (number ++ ":" ++ Text.decimal column) ++ "\n" ++
    pad ++ " |\n" ++
    number ++ " | " ++ String.ofList text ++ "\n" ++
    pad ++ " | " ++ Text.spaces (column - 1) ++ "^" ++ "\n"

theorem LineIndex.underline_behind {source before rest : List Char} {c : Char} {text : List Char}
    (short : source.length ≤ UInt32.size - 2) (split : source = before ++ c :: rest)
    (visible : c ≠ '\n' ∧ c ≠ '\r')
    (line : (ofSource source).lineText? (Position.after before).line = some text)
    (heading : String) :
    (ofSource source).underline (behind before c).span heading =
      Cli.pointed heading (Position.after before).line.toNat
        (Position.after before).column.toNat text := by
  have carets := caretCount_behind short split visible text.length
  have begins : (behind before c).span.start = Position.after before := rfl
  have caret : String.ofList (List.replicate 1 '^') = "^" := rfl
  rw [underline, begins, line]
  simp only [carets, caret]
  dsimp only [Position.describe, Cli.pointed]

/-- The diagnostic is about `c`, and it is shown with a caret below `c`. -/
structure Diagnostic.PointsAt (diagnostic : Diagnostic) (source before : List Char) (c : Char)
    (rest : List Char) : Prop where
  split : source = before ++ c :: rest
  place : ∃ place, Position.start.advanceOver before = .ok place ∧
    place.line = diagnostic.line ∧ place.column = diagnostic.column
  blames : ∃ kind, diagnostic.kind = some kind ∧ kind.Blames before c rest
  shown : ∃ code text, diagnostic.code? = some code ∧
    (LineIndex.ofSource source).lineText? diagnostic.line = some text ∧
    text[diagnostic.column.toNat - 1]? = some c ∧
    Cli.renderDiagnostic (.ofSource source) diagnostic =
      .ok (Cli.pointed ("[" ++ code ++ "] " ++ diagnostic.message) diagnostic.line.toNat
        diagnostic.column.toNat text)

theorem Diagnostic.pointsAt_behind {source before rest : List Char} {c : Char}
    {kind : DiagnosticKind} (short : source.length ≤ UInt32.size - 2)
    (split : source = before ++ c :: rest) (blames : kind.Blames before c rest) :
    (Diagnostic.behind kind before).PointsAt source before c rest where
  split := split
  place := by
    have beforeShort : before.length ≤ UInt32.size - 2 :=
      Nat.le_trans (List.IsPrefix.length_le ⟨c :: rest, split.symm⟩) short
    exact ⟨_, Position.advanceOver_start beforeShort, rfl, rfl⟩
  blames := ⟨kind, rfl, blames⟩
  shown := by
    have visible := blames.visible
    obtain ⟨text, line, character⟩ := LineIndex.lineText?_behind short split visible
    have found := LineIndex.spanAt?_complete short split
    have shown := LineIndex.underline_behind short split visible line
      ("[" ++ kind.code ++ "] " ++ kind.message)
    refine ⟨kind.code, text, rfl, line, character, ?_⟩
    change ((LineIndex.ofSource source).spanAt? (Position.after before).line
      (Position.after before).column >>= _) = _
    rw [found]
    exact congrArg Except.ok shown

theorem diagnostics_point_at_offenders (preferences : LexicalPreferences) (source : String)
    (short : source.length ≤ UInt32.size - 2) :
    ∃ run, tokenize preferences source = .ok run ∧
      ∀ diagnostic ∈ run.diagnostics, ∃ before c rest,
        diagnostic.PointsAt source.toList before c rest := by
  have listShort : source.toList.length ≤ UInt32.size - 2 := by
    rw [String.length_toList]
    exact short
  refine ⟨_, tokenize_eq preferences short, ?_⟩
  intro diagnostic member
  obtain ⟨kind, before, c, rest, split, rfl, blames⟩ := Run.offender_of_mem preferences member
  exact ⟨before, c, rest, Diagnostic.pointsAt_behind listShort split blames⟩

theorem diagnostics_point_at_offenders_mixed :
    "\n\n\n\n\n\n\n\n\n\tlé@\r\n'x\u2003\r\r".length ≤ UInt32.size - 2 ∧
      ∃ run, tokenize { mirrorDiagnostics := false }
          "\n\n\n\n\n\n\n\n\n\tlé@\r\n'x\u2003\r\r" = .ok run ∧
        ∀ diagnostic ∈ run.diagnostics, ∃ before c rest,
          diagnostic.PointsAt "\n\n\n\n\n\n\n\n\n\tlé@\r\n'x\u2003\r\r".toList before c rest :=
  ⟨by decide, diagnostics_point_at_offenders { mirrorDiagnostics := false }
    "\n\n\n\n\n\n\n\n\n\tlé@\r\n'x\u2003\r\r" (by decide)⟩

end Poco
