import Mathlib.Logic.ExistsUnique
import Poco.Proofs.Running

namespace Poco

open Alphabet (quote recognizes isBlank)
open Glyph (InOrder behind allBehind)

namespace Lexeme

variable {lexeme : Lexeme} {lexemes front back : List Lexeme} {glyph : Glyph} {token : Token}

theorem glyphs_follow (inOrder : InOrder (lexemes.flatMap glyphs)) :
    lexemes.Pairwise fun earlier later => ∀ x ∈ earlier.glyphs, ∀ y ∈ later.glyphs,
      x.span.stop.offset ≤ y.span.start.offset :=
  (List.pairwise_flatMap.mp inOrder.follows).2

theorem tokens_follow (inOrder : InOrder (lexemes.flatMap glyphs)) :
    (lexemes.filterMap toToken?).Pairwise fun earlier later =>
      earlier.span.stop.offset ≤ later.span.start.offset := by
  refine List.pairwise_filterMap.mpr ((glyphs_follow inOrder).imp ?_)
  intro earlier later follows token found other otherFound
  rw [span_of_toToken? found, span_of_toToken? otherFound]
  exact follows _ earlier.last_mem _ (List.mem_cons_self ..)

theorem tokens_solid (inOrder : InOrder (lexemes.flatMap glyphs))
    (member : token ∈ lexemes.filterMap toToken?) :
    token.span.start.offset < token.span.stop.offset := by
  obtain ⟨lexeme, among, found⟩ := List.mem_filterMap.mp member
  rw [span_of_toToken? found]
  exact extent_solid (inOrder_of_mem inOrder among)

theorem extent_contains (inOrder : InOrder lexeme.glyphs) (member : glyph ∈ lexeme.glyphs) :
    lexeme.extent.contains glyph.span.start = true := by
  obtain ⟨begins, ends⟩ := within_extent inOrder member
  have inside := UInt64.lt_of_lt_of_le (inOrder.solid glyph member) ends
  simp [Span.contains, begins, inside]

/-- A character counts in the token of its own lexeme and in no other. -/
theorem countP_containing (inOrder : InOrder ((front ++ lexeme :: back).flatMap glyphs))
    (member : glyph ∈ lexeme.glyphs) :
    ((front ++ lexeme :: back).filterMap toToken?).countP
        (fun token => token.span.contains glyph.span.start) = lexeme.toToken?.toList.length := by
  have follows := List.pairwise_append.mp (glyphs_follow inOrder)
  have own : InOrder lexeme.glyphs := inOrder_of_mem inOrder (by simp)
  have before : (front.filterMap toToken?).countP
      (fun token => token.span.contains glyph.span.start) = 0 := by
    apply List.countP_eq_zero.mpr
    intro token among
    obtain ⟨earlier, earlierMember, found⟩ := List.mem_filterMap.mp among
    have ends := follows.2.2 earlier earlierMember lexeme (by simp) _ earlier.last_mem glyph member
    simp [Span.contains, span_of_toToken? found, extent, UInt64.not_lt.mpr ends]
  have behind : (back.filterMap toToken?).countP
      (fun token => token.span.contains glyph.span.start) = 0 := by
    apply List.countP_eq_zero.mpr
    intro token among
    obtain ⟨later, laterMember, found⟩ := List.mem_filterMap.mp among
    have begins := List.rel_of_pairwise_cons follows.2.1 laterMember glyph member later.first
      (List.mem_cons_self ..)
    have passed := UInt64.lt_of_lt_of_le (own.solid glyph member) begins
    simp [Span.contains, span_of_toToken? found, extent, UInt64.not_le.mpr passed]
  rw [List.filterMap_append, List.countP_append, before, List.filterMap_cons]
  cases found : lexeme.toToken? with
  | none => simp [behind]
  | some token => simp [behind, span_of_toToken? found, extent_contains own member]

theorem Reading.front_closed (reading : Reading (front ++ lexeme :: back)) :
    ∀ earlier ∈ front, earlier.isOpen = false := by
  induction front with
  | nil => simp
  | cons first front ih =>
      generalize whole : first :: front ++ lexeme :: back = lexemes at reading
      cases reading with
      | done => simp at whole
      | openString => simp at whole
      | step leads next =>
          obtain ⟨rfl, rfl⟩ := List.cons.inj whole
          intro earlier member
          rcases List.mem_cons.mp member with rfl | among
          · exact isOpen_of_spells leads.spells
          · exact ih next earlier among

end Lexeme

def Diagnostic.refusesAt (diagnostic : Diagnostic) (place : Position) : Bool :=
  diagnostic.kind == some .unrecognizedSyntax && diagnostic.line == place.line &&
    diagnostic.column == place.column

/-- A string that nothing closes is reported at a quote of `source` that stands no later than
whatever follows `before`. -/
def Run.OpensBy (run : Run) (source before : List Char) : Prop :=
  ∃ diagnostic ∈ run.diagnostics, diagnostic.kind = some .unterminatedString ∧
    ∃ earlier later, source = earlier ++ quote :: later ∧
      diagnostic.line = (Position.after earlier).line ∧
      diagnostic.column = (Position.after earlier).column ∧
      Text.byteSize earlier ≤ Text.byteSize before

/-- The ways to account for a character. -/
inductive Account where
  | refused
  | token
  | openString
  | blank

/-- When a run through `source` accounts in each way for the character `c` behind `before`. -/
def Account.Holds (run : Run) (source before : List Char) (c : Char) : Account → Prop
  | .refused =>
      recognizes c = false ∧
        run.diagnostics.countP (·.refusesAt (.after before)) = 1
  | .token =>
      recognizes c = true ∧ run.tokens.countP (·.span.contains (.after before)) = 1
  | .openString => recognizes c = true ∧ run.OpensBy source before
  | .blank =>
      isBlank c = true ∧ (∀ token ∈ run.tokens, token.span.contains (.after before) = false) ∧
        ¬ run.OpensBy source before

def Lexeme.account (lexeme : Lexeme) : Account :=
  if lexeme.isOpen then
    .openString
  else if lexeme.toToken?.isSome then
    .token
  else
    .blank

namespace Lexeme

variable {lexeme : Lexeme}

theorem refused_ne_account : .refused ≠ lexeme.account := by
  unfold account
  split
  · simp
  · split <;> simp

theorem openString_eq_account_iff : .openString = lexeme.account ↔ lexeme.isOpen = true := by
  unfold account
  split
  · simp [*]
  · split <;> simp [*]

theorem token_eq_account_iff : .token = lexeme.account ↔ lexeme.toToken?.isSome = true := by
  unfold account
  split
  · rename_i open_
    simp [toToken?_eq_none_iff.mpr (.inr open_)]
  · split <;> simp_all

theorem blank_eq_account_iff :
    .blank = lexeme.account ↔ lexeme.isOpen = false ∧ lexeme.toToken? = none := by
  unfold account
  split
  · simp [*]
  · split
    · rename_i speaks
      simp [Option.isSome_iff_ne_none.mp speaks]
    · simp_all

theorem isBlank_of_silent {c : Char} (spells : Spells lexeme.shape lexeme.chars)
    (closed : lexeme.isOpen = false) (silent : lexeme.toToken? = none)
    (member : c ∈ lexeme.chars) : isBlank c = true := by
  have shape : lexeme.shape = .blank := by
    simpa [closed] using toToken?_eq_none_iff.mp silent
  rw [shape] at spells
  generalize lexeme.chars = text at spells member
  cases spells with
  | blank blank =>
      obtain rfl := List.mem_singleton.mp member
      exact blank

end Lexeme

namespace Run

variable {preferences : LexicalPreferences} {source before rest : List Char} {c : Char}

/-- Only the character itself is refused at its place. -/
theorem refusesAt_behind {passed : List Char} {d : Char} (more : List Char)
    (short : source.length ≤ UInt32.size - 2) (split : source = before ++ c :: rest)
    (other : source = passed ++ d :: more)
    (elsewhere : passed.length ≠ before.length) :
    (behind passed d).refusal.diagnostic.refusesAt (.after before) = false := by
  rw [Bool.eq_false_iff]
  intro refuses
  simp only [Diagnostic.refusesAt, Bool.and_eq_true, beq_iff_eq] at refuses
  have same := Position.prefix_eq_of_same_place short ⟨_, other.symm⟩ ⟨_, split.symm⟩
    refuses.1.2 refuses.2
  exact elsewhere (congrArg List.length same)

theorem countP_refusesAt (policy : preferences.recoveryPolicy = .resynchronize)
    (short : source.length ≤ UInt32.size - 2) (split : source = before ++ c :: rest)
    (foreign : recognizes c = false) :
    (Run.whole preferences source).diagnostics.countP (·.refusesAt (.after before)) = 1 := by
  have others (part : List Glyph)
      (elsewhere : ∀ glyph ∈ part, glyph.refusal.diagnostic.refusesAt (.after before) = false) :
      (part.filter (fun glyph => !glyph.isRecognized)).countP
        (fun glyph => glyph.refusal.diagnostic.refusesAt (.after before)) = 0 := by
    apply List.countP_eq_zero.mpr
    intro glyph member
    simp [elsewhere glyph (List.mem_filter.mp member).1]
  have earlier := others (allBehind [] before) (by
    intro glyph member
    obtain ⟨passed, d, more, rfl, rfl⟩ := Glyph.mem_allBehind.mp member
    exact refusesAt_behind (more ++ c :: rest) short split (by simp [split]) (by simp))
  have later := others (allBehind (before ++ [c]) rest) (by
    intro glyph member
    obtain ⟨passed, d, more, rfl, rfl⟩ := Glyph.mem_allBehind.mp member
    exact refusesAt_behind more short split (by simp [split]) (by simp))
  have unclosed (lexemes : List Lexeme) :
      (lexemes.map (·.unclosed.diagnostic)).countP (·.refusesAt (.after before)) = 0 := by
    apply List.countP_eq_zero.mpr
    intro diagnostic member
    obtain ⟨lexeme, -, rfl⟩ := List.mem_map.mp member
    simp [Diagnostic.refusesAt, Lexeme.unclosed, LexicalError.diagnostic, LexicalError.kind,
      Diagnostic.ofKind]
  have here : (behind before c).refusal.diagnostic.refusesAt (.after before) = true := by
    simp [Diagnostic.refusesAt, LexicalError.diagnostic, LexicalError.kind, Diagnostic.ofKind,
      LexicalError.line, LexicalError.column]
  have chars : allBehind [] source =
      allBehind [] before ++ behind before c :: allBehind (before ++ [c]) rest := by
    rw [split, Glyph.allBehind_append]
    rfl
  rw [Run.diagnostics_whole, Run.haltedAt_resynchronize policy, Option.isSome_none,
    if_neg Bool.false_ne_true, List.countP_append, unclosed, List.countP_map, policy]
  simp only [Scan.refused, chars, List.filter_append, List.filter_cons, List.countP_append]
  simp [foreign, Function.comp_def, earlier, later, here, -Glyph.refusal_behind]

theorem length_of_split (short : source.length ≤ UInt32.size - 2)
    (split : source = before ++ c :: rest) :
    before.length ≤ UInt32.size - 2 :=
  Nat.le_trans (List.IsPrefix.length_le ⟨_, split.symm⟩) short

section OpenString

variable {lexeme : Lexeme} {front back : List Lexeme}
  (policy : preferences.recoveryPolicy = .resynchronize)
  (short : source.length ≤ UInt32.size - 2) (split : source = before ++ c :: rest)
  (parts : Lexeme.ofSource .resynchronize source = front ++ lexeme :: back)
  (member : behind before c ∈ lexeme.glyphs)

include policy short split parts member

/-- The lexemes before an open string are closed, and it opens before those behind it. -/
theorem isOpen_of_opensBy (opens : (Run.whole preferences source).OpensBy source before) :
    lexeme.isOpen = true := by
  have reading := Lexeme.reading_ofSource .resynchronize source
  have inOrder := Lexeme.inOrder_ofSource .resynchronize short
  obtain ⟨diagnostic, among, kind, earlier, later, stands, line, column, notLater⟩ := opens
  obtain ⟨-, opened, openedMember, open_, rfl⟩ := Run.open_diagnostic_iff.mp ⟨among, kind⟩
  rw [policy] at openedMember
  obtain ⟨passed, d, more, otherSplit, first⟩ := Lexeme.first_behind openedMember
  have place : opened.first.span.start = .after passed := by rw [first]; rfl
  obtain rfl : passed = earlier :=
    Position.prefix_eq_of_same_place short ⟨_, otherSplit.symm⟩ ⟨_, stands.symm⟩
      (by rw [← place]; exact line) (by rw [← place]; exact column)
  rw [parts] at openedMember reading inOrder
  rcases List.mem_append.mp openedMember with inFront | inTail
  · rw [reading.front_closed opened inFront] at open_
    contradiction
  · rcases List.mem_cons.mp inTail with rfl | inBack
    · exact open_
    · have follows := (List.pairwise_append.mp (Lexeme.glyphs_follow inOrder)).2.1
      have ends := List.rel_of_pairwise_cons follows inBack _ member opened.first
        (List.mem_cons_self ..)
      have solid := (Lexeme.inOrder_of_mem inOrder (by simp)).solid _ member
      have strictly := UInt64.not_le.mpr (UInt64.lt_of_lt_of_le solid ends)
      rw [place] at strictly
      exact absurd ((Position.after_offset_le_iff (length_of_split short stands)
        (length_of_split short split)).mpr notLater) strictly

theorem opensBy_of_isOpen (open_ : lexeme.isOpen = true) :
    (Run.whole preferences source).OpensBy source before := by
  have inOrder := Lexeme.inOrder_ofSource .resynchronize short
  have among : lexeme ∈ Lexeme.ofSource .resynchronize source := by simp [parts]
  obtain ⟨passed, d, more, otherSplit, first⟩ := Lexeme.first_behind among
  have place : lexeme.first.span.start = .after passed := by rw [first]; rfl
  have opens := (Lexeme.reading_ofSource .resynchronize source).opens_of_isOpen among open_
  obtain rfl : d = quote := by simpa [Lexeme.isQuote, first] using opens
  obtain ⟨reported, kind⟩ := Run.open_diagnostic_iff.mpr
    ⟨Run.haltedAt_resynchronize policy, lexeme, by rw [policy]; exact among, open_, rfl⟩
  refine ⟨_, reported, kind, passed, more, otherSplit, ?_, ?_, ?_⟩
  · rw [← place]
    rfl
  · rw [← place]
    rfl
  · have begins := (Lexeme.within_extent (Lexeme.inOrder_of_mem inOrder among) member).1
    rw [Lexeme.extent, place] at begins
    exact (Position.after_offset_le_iff (length_of_split short otherSplit)
      (length_of_split short split)).mp begins

theorem opensBy_iff :
    (Run.whole preferences source).OpensBy source before ↔ lexeme.isOpen = true :=
  ⟨isOpen_of_opensBy policy short split parts member,
    opensBy_of_isOpen policy short split parts member⟩

end OpenString

/-- A recognized character is accounted for as its lexeme is. -/
theorem holds_iff {lexeme : Lexeme} (account : Account)
    (policy : preferences.recoveryPolicy = .resynchronize) (short : source.length ≤ UInt32.size - 2)
    (split : source = before ++ c :: rest) (known : recognizes c = true)
    (among : lexeme ∈ Lexeme.ofSource .resynchronize source)
    (member : behind before c ∈ lexeme.glyphs) :
    account.Holds (Run.whole preferences source) source before c ↔ account = lexeme.account := by
  obtain ⟨front, back, parts⟩ := List.append_of_mem among
  have inOrder := Lexeme.inOrder_ofSource .resynchronize short
  rw [parts] at inOrder
  have opens := opensBy_iff policy short split parts member
  have count : (Run.whole preferences source).tokens.countP (·.span.contains (.after before)) =
      lexeme.toToken?.toList.length := by
    rw [Run.tokens_whole, policy, parts]
    exact Lexeme.countP_containing inOrder member
  cases account with
  | refused => simp [Account.Holds, known, Lexeme.refused_ne_account]
  | token =>
      rw [Account.Holds, count, Lexeme.token_eq_account_iff]
      cases lexeme.toToken? <;> simp [known]
  | openString =>
      rw [Account.Holds, opens, Lexeme.openString_eq_account_iff]
      simp [known]
  | blank =>
      have silent : (∀ token ∈ (Run.whole preferences source).tokens,
          token.span.contains (.after before) = false) ↔ lexeme.toToken? = none := by
        simp only [← Bool.not_eq_true]
        rw [← List.countP_eq_zero, count, List.length_eq_zero_iff, Option.toList_eq_nil_iff]
      rw [Account.Holds, silent, opens, Lexeme.blank_eq_account_iff]
      constructor
      · rintro ⟨-, none, closed⟩
        exact ⟨by simpa using closed, none⟩
      · rintro ⟨closed, none⟩
        refine ⟨?_, none, by simp [closed]⟩
        exact Lexeme.isBlank_of_silent ((Lexeme.reading_ofSource _ _).spells_of_closed among closed)
          closed none (List.mem_map.mpr ⟨_, member, rfl⟩)

theorem account_unique (policy : preferences.recoveryPolicy = .resynchronize)
    (short : source.length ≤ UInt32.size - 2) (split : source = before ++ c :: rest) :
    ∃! account : Account, account.Holds (Run.whole preferences source) source before c := by
  cases known : recognizes c with
  | false =>
      have notBlank : isBlank c = false := by
        rw [Bool.eq_false_iff, Ne, ← CharClass.of_eq_whitespace_iff]
        intro blank
        simp [recognizes, blank] at known
      refine ⟨.refused, ⟨known, countP_refusesAt policy short split known⟩, ?_⟩
      intro account holds
      cases account with
      | refused => rfl
      | blank => simp [Account.Holds, notBlank] at holds
      | _ => simp [Account.Holds, known] at holds
  | true =>
      obtain ⟨lexeme, among, member⟩ :
          ∃ lexeme ∈ Lexeme.ofSource .resynchronize source, behind before c ∈ lexeme.glyphs := by
        rw [← List.mem_flatMap, Lexeme.flatMap_glyphs_ofSource]
        exact List.mem_filter.mpr ⟨Glyph.mem_allBehind.mpr ⟨before, c, rest, split, rfl⟩, known⟩
      have holds (account : Account) := holds_iff account policy short split known among member
      exact ⟨lexeme.account, (holds _).mpr rfl, fun account held => (holds account).mp held⟩

end Run

/-- Spans without a common place. -/
def Span.Disjoint (left right : Span) : Prop :=
  ∀ place, ¬ (left.contains place = true ∧ right.contains place = true)

theorem Span.disjoint_of_follows {left right : Span}
    (follows : left.stop.offset ≤ right.start.offset) : left.Disjoint right := by
  rintro place ⟨inLeft, inRight⟩
  simp only [Span.contains, Bool.and_eq_true, decide_eq_true_eq] at inLeft inRight
  have before := UInt64.lt_of_lt_of_le inLeft.2 follows
  exact absurd inRight.1 (UInt64.not_le.mpr before)

theorem tokenize_accounts_once (preferences : LexicalPreferences) (source : String)
    (policy : preferences.recoveryPolicy = .resynchronize)
    (short : source.length ≤ UInt32.size - 2) :
    ∃ run, tokenize preferences source = .ok run ∧
      (∀ before c rest, source.toList = before ++ c :: rest →
        ∃! account : Account, account.Holds run source.toList before c) ∧
      (∀ token ∈ run.tokens, token.span.start.offset < token.span.stop.offset) ∧
      run.tokens.Pairwise (fun earlier later =>
        earlier.span.stop.offset ≤ later.span.start.offset ∧
          earlier.span.Disjoint later.span) := by
  have listShort : source.toList.length ≤ UInt32.size - 2 := by rw [String.length_toList]; exact short
  have inOrder := Lexeme.inOrder_ofSource preferences.recoveryPolicy listShort
  refine ⟨_, tokenize_eq preferences short, ?_, ?_, ?_⟩
  · intro before c rest split
    exact Run.account_unique policy listShort split
  · intro token member
    exact Lexeme.tokens_solid inOrder member
  · exact (Lexeme.tokens_follow inOrder).imp fun follows =>
      ⟨follows, Span.disjoint_of_follows follows⟩

theorem tokenize_accounts_once_mixed :
    (({} : LexicalPreferences).recoveryPolicy = .resynchronize ∧
        "x = 'a @b' <\u0085=\n'c é".length ≤ UInt32.size - 2) ∧
      ∃ run, tokenize {} "x = 'a @b' <\u0085=\n'c é" = .ok run ∧
        (∀ before c rest, "x = 'a @b' <\u0085=\n'c é".toList = before ++ c :: rest →
          ∃! account : Account, account.Holds run "x = 'a @b' <\u0085=\n'c é".toList before c) ∧
        (∀ token ∈ run.tokens, token.span.start.offset < token.span.stop.offset) ∧
        run.tokens.Pairwise (fun earlier later =>
          earlier.span.stop.offset ≤ later.span.start.offset ∧
            earlier.span.Disjoint later.span) :=
  ⟨⟨rfl, by decide⟩, tokenize_accounts_once {} "x = 'a @b' <\u0085=\n'c é" rfl (by decide)⟩

end Poco
