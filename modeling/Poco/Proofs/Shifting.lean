import Mathlib.Data.List.Basic
import Mathlib.Data.List.Induction
import Poco.Proofs.Following
import Poco.Proofs.Running

namespace Poco

/-! Behind complete lines the same text has the same columns, further offsets and
lower lines.  What is read from it moves along and is otherwise the same, since
reading looks at characters and their classes only. -/

/-- The same place with more bytes and more lines before it. -/
def Position.shift (bytes lines : Nat) (position : Position) : Position :=
  { offset := position.offset + .ofNat bytes
    line := position.line + .ofNat lines
    column := position.column }

def Span.shift (bytes lines : Nat) (span : Span) : Span :=
  { start := span.start.shift bytes lines, stop := span.stop.shift bytes lines }

def Token.shift (bytes lines : Nat) (token : Token) : Token :=
  { token with span := token.span.shift bytes lines }

def Diagnostic.shift (lines : Nat) (diagnostic : Diagnostic) : Diagnostic :=
  { diagnostic with line := diagnostic.line + .ofNat lines }

def Glyph.shift (bytes lines : Nat) (glyph : Glyph) : Glyph :=
  { glyph with span := glyph.span.shift bytes lines }

def Lexeme.shift (bytes lines : Nat) (lexeme : Lexeme) : Lexeme :=
  { lexeme with
    first := lexeme.first.shift bytes lines
    others := lexeme.others.map (·.shift bytes lines) }

namespace Position

/-- Whether the shifted place is exact, without a sum that wraps around. -/
structure Fits (bytes lines : Nat) (position : Position) : Prop where
  offset : position.offset.toNat + bytes < UInt64.size
  line : position.line.toNat + lines < UInt32.size

theorem columnAfter_below (first rest : List Char) :
    columnAfter (first ++ '\n' :: rest) = columnAfter rest := by
  induction rest using List.reverseRecOn with
  | nil => simp [columnAfter]
  | append_singleton rest c ih =>
      rw [← List.cons_append, ← List.append_assoc, columnAfter_concat, columnAfter_concat, ih]

theorem byteSize_below (first rest : List Char) :
    Text.byteSize (first ++ '\n' :: rest) = Text.byteSize rest + (Text.byteSize first + 1) := by
  have size : ('\n' : Char).utf8Size = 1 := rfl
  rw [Text.byteSize_append, Text.byteSize_cons, size]
  omega

theorem lineAfter_below (first rest : List Char) :
    lineAfter (first ++ '\n' :: rest) = lineAfter rest + (first.count '\n' + 1) := by
  simp only [lineAfter, List.count_append, List.count_cons_self]
  omega

theorem after_below (first rest : List Char) :
    after (first ++ '\n' :: rest) =
      (after rest).shift (Text.byteSize first + 1) (first.count '\n' + 1) := by
  simp only [after, shift, byteSize_below, lineAfter_below, columnAfter_below, UInt64.ofNat_add,
    UInt32.ofNat_add]

theorem fits_after {first rest : List Char}
    (short : (first ++ '\n' :: rest).length ≤ UInt32.size - 2) :
    (after rest).Fits (Text.byteSize first + 1) (first.count '\n' + 1) := by
  have restShort : rest.length ≤ UInt32.size - 2 := by
    simp only [List.length_append, List.length_cons] at short
    omega
  have bytes := Text.byteSize_le (first ++ '\n' :: rest)
  have lines := lineAfter_le (first ++ '\n' :: rest)
  constructor
  · rw [after_offset restShort, ← byteSize_below]
    simp only [UInt64.size, UInt32.size] at short ⊢
    omega
  · rw [after_line restShort, ← lineAfter_below]
    simp only [UInt32.size] at short ⊢
    omega

end Position

namespace Glyph

theorem allBehind_below (first before rest : List Char) :
    allBehind (first ++ '\n' :: before) rest =
      (allBehind before rest).map (·.shift (Text.byteSize first + 1) (first.count '\n' + 1)) := by
  induction rest generalizing before with
  | nil => rfl
  | cons c rest ih =>
      rw [allBehind_cons, allBehind_cons, List.map_cons, ← ih, behind, behind]
      simp [shift, Span.shift, ← Position.after_below]

theorem refusal_shift (bytes lines : Nat) (glyph : Glyph) :
    (glyph.shift bytes lines).refusal.diagnostic = glyph.refusal.diagnostic.shift lines := rfl

end Glyph

namespace Lexeme

variable {bytes lines : Nat} {lexeme : Lexeme} {lexemes : List Lexeme}

@[simp] theorem glyphs_shift : (lexeme.shift bytes lines).glyphs =
    lexeme.glyphs.map (·.shift bytes lines) := rfl

@[simp] theorem chars_shift : (lexeme.shift bytes lines).chars = lexeme.chars := by
  simp [chars, Glyph.shift, Function.comp_def]

theorem isOpen_shift : (lexeme.shift bytes lines).isOpen = lexeme.isOpen := rfl

theorem flatMap_glyphs_shift : (lexemes.map (·.shift bytes lines)).flatMap glyphs =
    (lexemes.flatMap glyphs).map (·.shift bytes lines) := by
  rw [List.flatMap_map, List.map_flatMap]
  rfl

theorem flatMap_chars_shift :
    (lexemes.map (·.shift bytes lines)).flatMap chars = lexemes.flatMap chars := by
  simp [List.flatMap_map]

theorem value_shift : (lexeme.shift bytes lines).value = lexeme.value := by
  obtain ⟨shape, first, others⟩ := lexeme
  cases shape with
  | string => simp [value, shift, Glyph.shift, ← List.map_dropLast, Function.comp_def]
  | _ => exact congrArg String.ofList chars_shift

theorem tokenKind?_shift : (lexeme.shift bytes lines).tokenKind? = lexeme.tokenKind? := by
  unfold tokenKind?
  rw [value_shift]
  rfl

theorem extent_shift : (lexeme.shift bytes lines).extent = lexeme.extent.shift bytes lines := by
  obtain ⟨shape, first, others⟩ := lexeme
  rcases List.eq_nil_or_concat' others with rfl | ⟨initial, final, rfl⟩
  · rfl
  · simp [extent, last, shift, Glyph.shift, Span.shift]

theorem toToken?_shift :
    (lexeme.shift bytes lines).toToken? = lexeme.toToken?.map (·.shift bytes lines) := by
  simp [toToken?, tokenKind?_shift, value_shift, extent_shift, Token.shift, Function.comp_def]

theorem filterMap_toToken?_shift (lexemes : List Lexeme) :
    (lexemes.map (·.shift bytes lines)).filterMap toToken? =
      (lexemes.filterMap toToken?).map (·.shift bytes lines) := by
  rw [List.filterMap_map, List.map_filterMap]
  exact congrArg (lexemes.filterMap ·) (funext fun _ => toToken?_shift)

theorem unclosed_shift : (lexeme.shift bytes lines).unclosed.diagnostic =
    lexeme.unclosed.diagnostic.shift lines := rfl

theorem Reading.shift (reading : Reading lexemes) :
    Reading (lexemes.map (·.shift bytes lines)) := by
  induction reading with
  | done => exact .done
  | openString opens unclosed =>
      refine .openString opens ?_
      intro glyph member
      obtain ⟨original, among, rfl⟩ := List.mem_map.mp member
      exact unclosed original among
  | step leads _ ih =>
      rw [List.map_cons]
      refine .step ?_ ih
      rw [flatMap_chars_shift, chars_shift]
      exact leads

end Lexeme

end Poco
