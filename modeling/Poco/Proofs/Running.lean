import Poco.Proofs.Reading
import Poco.Tokenize

namespace Poco

/-! The kept characters stand in the order of their source, so every lexeme has a
span and a run never fails.  What it gives is then read off the source: its
lexemes, the characters set aside and the place where the scan halted.  A run
over a longer source may fail, but what it gives is still that of its lexemes. -/

namespace Glyph

/-- Characters that take up room and follow each other in a text. -/
structure InOrder (glyphs : List Glyph) : Prop where
  solid : ∀ glyph ∈ glyphs, glyph.span.start.offset < glyph.span.stop.offset
  follows : glyphs.Pairwise fun earlier later => earlier.span.stop.offset ≤ later.span.start.offset

theorem InOrder.sublist {part whole : List Glyph} (inOrder : InOrder whole)
    (within : part.Sublist whole) : InOrder part where
  solid glyph member := inOrder.solid glyph (within.subset member)
  follows := inOrder.follows.sublist within

theorem inOrder_allBehind (before text : List Char)
    (short : (before ++ text).length ≤ UInt32.size - 2) : InOrder (allBehind before text) := by
  induction text generalizing before with
  | nil => exact ⟨by simp, .nil⟩
  | cons c rest ih =>
      have regrouped : before ++ c :: rest = before ++ [c] ++ rest := by simp
      rw [regrouped] at short
      have later := ih (before ++ [c]) short
      constructor
      · intro glyph member
        rcases List.mem_cons.mp member with rfl | later'
        · exact Position.after_offset_lt (Position.short_front short) (by simp)
        · exact later.solid glyph later'
      · refine .cons ?_ later.follows
        intro glyph member
        obtain ⟨passed, d, more, rfl, rfl⟩ := mem_allBehind.mp member
        apply Position.after_offset_le
        simp only [List.length_append] at short ⊢
        omega

end Glyph

namespace Lexeme

open Glyph (InOrder)

theorem glyphs_eq_concat (lexeme : Lexeme) :
    ∃ initial, lexeme.glyphs = initial ++ [lexeme.last] := by
  obtain ⟨shape, first, others⟩ := lexeme
  rcases List.eq_nil_or_concat others with rfl | ⟨initial, final, rfl⟩
  · exact ⟨[], rfl⟩
  · exact ⟨first :: initial, by simp [glyphs, last]⟩

theorem last_mem (lexeme : Lexeme) : lexeme.last ∈ lexeme.glyphs := by
  obtain ⟨initial, split⟩ := lexeme.glyphs_eq_concat
  simp [split]

/-- From the first character to the last. -/
def extent (lexeme : Lexeme) : Span :=
  { start := lexeme.first.span.start, stop := lexeme.last.span.stop }

def toToken? (lexeme : Lexeme) : Option Token :=
  lexeme.tokenKind?.map fun kind => { kind, value := lexeme.value, span := lexeme.extent }

variable {lexeme : Lexeme} {lexemes : List Lexeme} {token : Token}

theorem span_of_toToken? (found : lexeme.toToken? = some token) : token.span = lexeme.extent := by
  obtain ⟨kind, -, rfl⟩ := Option.map_eq_some_iff.mp found
  rfl

theorem toToken?_eq_none_iff :
    lexeme.toToken? = none ↔ lexeme.shape = .blank ∨ lexeme.isOpen = true := by
  obtain ⟨shape, first, others⟩ := lexeme
  cases shape with
  | word =>
      simp only [toToken?, tokenKind?, isOpen]
      split <;> simp
  | _ => simp [toToken?, tokenKind?, isOpen]

/-- A character of a lexeme lies within its extent. -/
theorem within_extent (inOrder : InOrder lexeme.glyphs) {glyph : Glyph}
    (member : glyph ∈ lexeme.glyphs) :
    lexeme.extent.start.offset ≤ glyph.span.start.offset ∧
      glyph.span.stop.offset ≤ lexeme.extent.stop.offset := by
  have firstSolid := inOrder.solid lexeme.first (List.mem_cons_self ..)
  obtain ⟨initial, split⟩ := lexeme.glyphs_eq_concat
  have lastSolid := inOrder.solid lexeme.last lexeme.last_mem
  constructor
  · rcases List.mem_cons.mp member with rfl | among
    · exact UInt64.le_refl _
    · exact UInt64.le_trans (UInt64.le_of_lt firstSolid)
        (List.rel_of_pairwise_cons inOrder.follows among)
  · have follows := inOrder.follows
    rw [split] at member follows
    rcases List.mem_append.mp member with among | final
    · exact UInt64.le_trans ((List.pairwise_append.mp follows).2.2 glyph among _ (by simp))
        (UInt64.le_of_lt lastSolid)
    · obtain rfl := List.mem_singleton.mp final
      exact UInt64.le_refl _

theorem extent_solid (inOrder : InOrder lexeme.glyphs) :
    lexeme.extent.start.offset < lexeme.extent.stop.offset := by
  have firstMember : lexeme.first ∈ lexeme.glyphs := List.mem_cons_self ..
  have solid := inOrder.solid lexeme.first firstMember
  exact UInt64.lt_of_lt_of_le solid (within_extent inOrder firstMember).2

theorem inOrder_of_mem (inOrder : InOrder (lexemes.flatMap glyphs)) (member : lexeme ∈ lexemes) :
    InOrder lexeme.glyphs := by
  obtain ⟨before, after, rfl⟩ := List.append_of_mem member
  rw [List.flatMap_append, List.flatMap_cons] at inOrder
  exact inOrder.sublist ((List.sublist_append_left _ _).trans (List.sublist_append_right _ _))

theorem span_eq (inOrder : InOrder lexeme.glyphs) : lexeme.span = .ok lexeme.extent :=
  if_pos (UInt64.le_of_lt (extent_solid inOrder))

theorem eq_extent_of_span {span : Span} (found : lexeme.span = .ok span) :
    span = lexeme.extent := by
  rw [Lexeme.span, Span.between] at found
  split at found
  · exact (Except.ok.inj found).symm
  · contradiction

theorem token?_eq (inOrder : InOrder lexeme.glyphs) : lexeme.token? = .ok lexeme.toToken? := by
  cases kind : lexeme.tokenKind? with
  | none => simp [token?, toToken?, kind]
  | some kind' =>
      simp only [token?, toToken?, kind, span_eq inOrder, Option.map_some]
      rfl

theorem eq_toToken?_of_token? {found : Option Token} (made : lexeme.token? = .ok found) :
    found = lexeme.toToken? := by
  cases kind : lexeme.tokenKind? with
  | none =>
      rw [token?, kind] at made
      rw [toToken?, kind, ← Except.ok.inj made, Option.map_none]
  | some kind' =>
      rw [token?, kind] at made
      obtain ⟨span, place, made⟩ := Fault.ok_of_bind made
      obtain rfl := eq_extent_of_span place
      rw [toToken?, kind, ← Except.ok.inj made, Option.map_some]

theorem tokensOnto_toList (done : Array Token) (inOrder : InOrder (lexemes.flatMap glyphs)) :
    (tokensOnto done lexemes).map (·.toList) =
      .ok (done.toList ++ lexemes.filterMap toToken?) := by
  induction lexemes generalizing done with
  | nil => simp [tokensOnto, Except.map]
  | cons lexeme rest ih =>
      have first := token?_eq (inOrder_of_mem inOrder (List.mem_cons_self ..))
      have later : InOrder (rest.flatMap glyphs) := by
        rw [List.flatMap_cons] at inOrder
        exact inOrder.sublist (List.sublist_append_right _ _)
      rw [tokensOnto, first]
      cases token : lexeme.toToken? with
      | none => simp only [ih done later, List.filterMap_cons, token]
      | some token' => simp [ih (done.push token') later, token]

theorem tokens_eq (inOrder : InOrder (lexemes.flatMap glyphs)) :
    tokens lexemes = .ok (lexemes.filterMap toToken?) := by
  simpa [tokens] using tokensOnto_toList #[] inOrder

theorem toList_of_tokensOnto {done made : Array Token}
    (ran : tokensOnto done lexemes = .ok made) :
    made.toList = done.toList ++ lexemes.filterMap toToken? := by
  induction lexemes generalizing done with
  | nil =>
      rw [tokensOnto] at ran
      cases ran
      simp
  | cons lexeme rest ih =>
      rw [tokensOnto] at ran
      cases first : lexeme.token? with
      | error fault => simp [first] at ran
      | ok found =>
          have same := eq_toToken?_of_token? first
          cases found with
          | none =>
              simp only [first] at ran
              rw [ih ran]
              simp [← same]
          | some token =>
              simp only [first] at ran
              rw [ih ran]
              simp [← same]

/-- Tokens that come out at all are those of the lexemes. -/
theorem eq_of_tokens {made : List Token} (ran : tokens lexemes = .ok made) :
    made = lexemes.filterMap toToken? := by
  rw [tokens] at ran
  cases pushed : tokensOnto #[] lexemes with
  | error fault => simp [pushed, Except.map] at ran
  | ok tokens =>
      obtain rfl : tokens.toList = made := by simpa [pushed, Except.map] using ran
      simpa using toList_of_tokensOnto pushed

def unclosed (lexeme : Lexeme) : LexicalError :=
  .unterminatedString lexeme.first.span.start.line lexeme.first.span.start.column

theorem errors_eq (halted : Bool) (lexemes : List Lexeme) :
    errors halted lexemes = if halted then [] else (lexemes.filter isOpen).map unclosed := by
  rw [errors]
  congr 1
  induction lexemes with
  | nil => rfl
  | cons lexeme rest ih =>
      by_cases shape : lexeme.shape = .openString
      · simp [shape, isOpen, ih, unclosed]
      · simp [shape, isOpen, ih]

theorem unread_eq_nil_iff (lexemes : List Lexeme) :
    unread lexemes = [] ↔ lexemes.filter isOpen = [] := by
  rw [unread, List.flatMap_eq_nil_iff]
  constructor
  · intro empty
    apply List.eq_nil_iff_forall_not_mem.mpr
    intro lexeme member
    have nothing := empty lexeme member
    simp [chars, glyphs] at nothing
  · intro nothing
    simp [nothing]

/-- The lexemes of the characters that a scan of `source` keeps. -/
def ofSource (policy : RecoveryPolicy) (source : List Char) : List Lexeme :=
  ofGlyphs (Scan.keptGlyphs policy [] source)

theorem genuine_keptGlyphs (policy : RecoveryPolicy) (before text : List Char) :
    ∀ glyph ∈ Scan.keptGlyphs policy before text, glyph.Genuine := by
  intro glyph member
  obtain ⟨among, recognized⟩ := List.mem_filter.mp member
  obtain ⟨passed, c, rest, -, rfl⟩ := Glyph.mem_allBehind.mp among
  exact ⟨rfl, recognized⟩

theorem reading_ofSource (policy : RecoveryPolicy) (source : List Char) :
    Reading (ofSource policy source) :=
  reading_ofGlyphs _ (genuine_keptGlyphs policy [] source)

theorem flatMap_glyphs_ofSource (policy : RecoveryPolicy) (source : List Char) :
    (ofSource policy source).flatMap glyphs = Scan.keptGlyphs policy [] source :=
  flatMap_glyphs_ofGlyphs _

theorem flatMap_chars_ofSource (policy : RecoveryPolicy) (source : List Char) :
    (ofSource policy source).flatMap chars = Scan.keptChars policy source := by
  rw [ofSource, flatMap_chars_ofGlyphs, Scan.map_char_keptGlyphs]

theorem inOrder_ofSource (policy : RecoveryPolicy) {source : List Char}
    (short : source.length ≤ UInt32.size - 2) : InOrder ((ofSource policy source).flatMap glyphs) := by
  have reachedShort : (Scan.reached policy source).length ≤ UInt32.size - 2 :=
    Nat.le_trans (Scan.reached_prefix policy source).length_le short
  rw [flatMap_glyphs_ofSource]
  exact (Glyph.inOrder_allBehind [] _ reachedShort).sublist List.filter_sublist

theorem mem_keptGlyphs_of_mem {policy : RecoveryPolicy} {source : List Char}
    (among : lexeme ∈ ofSource policy source) {glyph : Glyph} (member : glyph ∈ lexeme.glyphs) :
    glyph ∈ Scan.keptGlyphs policy [] source := by
  rw [← flatMap_glyphs_ofSource]
  exact List.mem_flatMap_of_mem among member

theorem first_behind {policy : RecoveryPolicy} {source : List Char}
    (among : lexeme ∈ ofSource policy source) :
    ∃ before c rest, source = before ++ c :: rest ∧ lexeme.first = Glyph.behind before c := by
  obtain ⟨before, c, rest, split, first, -⟩ := Scan.behind_of_mem_keptGlyphs
    (mem_keptGlyphs_of_mem among (List.mem_cons_self ..))
  exact ⟨before, c, rest, split, first⟩

end Lexeme

/-- A whole run, read off its source. -/
def Run.whole (preferences : LexicalPreferences) (source : List Char) : Run :=
  let scan := Scan.whole preferences.recoveryPolicy source
  let lexemes := Lexeme.ofSource preferences.recoveryPolicy source
  let tokens := lexemes.filterMap Lexeme.toToken?
  { tokens
    diagnostics :=
      (scan.rejected.toList ++ Lexeme.errors scan.halted lexemes).map (·.diagnostic)
    metrics := Metrics.ofRun preferences scan lexemes tokens
    haltedAt := scan.haltedAt }

namespace Run

variable {preferences : LexicalPreferences} {source : List Char} {diagnostic : Diagnostic}

@[simp] theorem haltedAt_whole : (whole preferences source).haltedAt =
    Scan.haltPlace preferences.recoveryPolicy [] source := rfl

theorem tokens_whole : (whole preferences source).tokens =
    (Lexeme.ofSource preferences.recoveryPolicy source).filterMap Lexeme.toToken? := rfl

theorem haltedAt_resynchronize (policy : preferences.recoveryPolicy = .resynchronize) :
    (whole preferences source).haltedAt = none := by
  simp [policy, Scan.haltPlace]

theorem diagnostics_whole :
    (whole preferences source).diagnostics =
      (Scan.refused preferences.recoveryPolicy [] source).map (·.refusal.diagnostic) ++
        if (whole preferences source).haltedAt.isSome then []
        else ((Lexeme.ofSource preferences.recoveryPolicy source).filter Lexeme.isOpen).map
          (·.unclosed.diagnostic) := by
  simp only [whole, Lexeme.errors_eq, Scan.halted, Scan.whole, List.map_append, List.map_map]
  split <;> simp [Function.comp_def]

theorem diagnostics_resynchronize (policy : preferences.recoveryPolicy = .resynchronize) :
    (whole preferences source).diagnostics =
      (Scan.refused .resynchronize [] source).map (·.refusal.diagnostic) ++
        ((Lexeme.ofSource .resynchronize source).filter Lexeme.isOpen).map
          (·.unclosed.diagnostic) := by
  rw [diagnostics_whole, haltedAt_resynchronize policy, policy]
  rfl

/-- Whatever is reported has its place in the source. -/
theorem place_of_diagnostic (member : diagnostic ∈ (whole preferences source).diagnostics) :
    ∃ before c rest, source = before ++ c :: rest ∧
      diagnostic.line = (Position.after before).line ∧
      diagnostic.column = (Position.after before).column := by
  rw [diagnostics_whole, List.mem_append] at member
  rcases member with refused | unclosed
  · obtain ⟨glyph, among, rfl⟩ := List.mem_map.mp refused
    obtain ⟨before, c, rest, split, rfl⟩ := Glyph.mem_allBehind.mp (Scan.refused_subset _ among)
    exact ⟨before, c, rest, split, rfl, rfl⟩
  · split at unclosed
    · contradiction
    · obtain ⟨lexeme, among, rfl⟩ := List.mem_map.mp unclosed
      obtain ⟨before, c, rest, split, first⟩ := Lexeme.first_behind (List.mem_filter.mp among).1
      refine ⟨before, c, rest, split, ?_, ?_⟩
      · rw [Lexeme.unclosed, first]
        rfl
      · rw [Lexeme.unclosed, first]
        rfl

theorem open_diagnostic_iff :
    diagnostic ∈ (whole preferences source).diagnostics ∧
        diagnostic.kind = some .unterminatedString ↔
      (whole preferences source).haltedAt = none ∧
        ∃ lexeme ∈ Lexeme.ofSource preferences.recoveryPolicy source,
          lexeme.isOpen = true ∧ lexeme.unclosed.diagnostic = diagnostic := by
  rw [diagnostics_whole, List.mem_append]
  constructor
  · rintro ⟨refused | unclosed, kind⟩
    · obtain ⟨glyph, -, rfl⟩ := List.mem_map.mp refused
      cases kind
    · split at unclosed
      · contradiction
      · rename_i running
        obtain ⟨lexeme, among, rfl⟩ := List.mem_map.mp unclosed
        obtain ⟨member, open_⟩ := List.mem_filter.mp among
        exact ⟨by simpa using running, lexeme, member, open_, rfl⟩
  · rintro ⟨running, lexeme, member, open_, rfl⟩
    refine ⟨.inr ?_, rfl⟩
    rw [running]
    exact List.mem_map_of_mem (List.mem_filter.mpr ⟨member, open_⟩)

end Run

/-- What a run gives, whether or not its source is short. -/
theorem Run.parts_of_tokenizeChars {preferences : LexicalPreferences} {source : List Char} {run : Run}
    (ran : tokenizeChars preferences source = .ok run) :
    ∃ scan, Scan.ofSource preferences.recoveryPolicy source = .ok scan ∧
      run.tokens = (Lexeme.ofGlyphs scan.kept.toList).filterMap Lexeme.toToken? ∧
      run.diagnostics = (scan.rejected.toList ++
        Lexeme.errors scan.halted (Lexeme.ofGlyphs scan.kept.toList)).map (·.diagnostic) := by
  rw [tokenizeChars] at ran
  obtain ⟨scan, scanned, ran⟩ := Fault.ok_of_bind ran
  obtain ⟨tokens, made, ran⟩ := Fault.ok_of_bind ran
  obtain rfl := Except.ok.inj ran
  exact ⟨scan, scanned, Lexeme.eq_of_tokens made, rfl⟩

/-- No run fails on a source whose columns fit their words. -/
theorem tokenizeChars_eq (preferences : LexicalPreferences) {source : List Char}
    (short : source.length ≤ UInt32.size - 2) :
    tokenizeChars preferences source = .ok (Run.whole preferences source) := by
  have tokens := Lexeme.tokens_eq (Lexeme.inOrder_ofSource preferences.recoveryPolicy short)
  rw [tokenizeChars, Scan.ofSource_eq _ short]
  change (Lexeme.tokens (Lexeme.ofSource preferences.recoveryPolicy source)).bind _ = _
  rw [tokens]
  rfl

theorem tokenize_eq (preferences : LexicalPreferences) {source : String}
    (short : source.length ≤ UInt32.size - 2) :
    tokenize preferences source = .ok (Run.whole preferences source.toList) :=
  tokenizeChars_eq preferences (by rw [String.length_toList]; exact short)

end Poco
