import Mathlib.Data.List.Find
import Mathlib.Data.List.Nodup
import Poco.Proofs.Validity

namespace Poco

open Alphabet (symbols isSymbol isNumber isIdentifier isWhitespace isCompoundOperator)

/-! The classes can also be kept in a table of tests, and the class of a text is
then that of the first test it passes.  A test says something about every
character of the text, so no text passes two tests and the order in which they
stand has no effect.  A pair that begins with a symbol has a class only if it
is a compound operator. -/

section Uniform

variable {text : List Char}

theorem Alphabet.isNumber_iff :
    isNumber text = true ↔ text ≠ [] ∧ ∀ c ∈ text, CharClass.of c = .number := by
  simp [isNumber, isDigit_eq, CharClass.of_eq_number_iff]

theorem Alphabet.isIdentifier_iff :
    isIdentifier text = true ↔ text ≠ [] ∧ ∀ c ∈ text, CharClass.of c = .identifier := by
  simp [isIdentifier, isLetter_eq, CharClass.of_eq_identifier_iff]

theorem Alphabet.isWhitespace_iff :
    isWhitespace text = true ↔ ∀ c ∈ text, CharClass.of c = .whitespace := by
  simp [isWhitespace, CharClass.of_eq_whitespace_iff]

/-- Compound operators are made of symbols. -/
theorem Alphabet.symbol_of_mem (symbol : isSymbol text = true) :
    ∀ c ∈ text, CharClass.of c = .symbol := by
  have listed : symbols.all (·.all fun c => symbols.contains [c]) = true := by decide
  simp only [List.all_eq_true, List.contains_iff_mem] at listed
  intro c member
  exact (CharClass.of_eq_symbol_iff c).mpr (listed text (List.contains_iff_mem.mp symbol) c member)

end Uniform

/-- A class of texts and how a text is tested for it. -/
structure ClassTest where
  kind : CharClass
  passes : List Char → Bool

namespace ClassTest

def recognizing : List ClassTest :=
  [⟨.symbol, isSymbol⟩, ⟨.number, isNumber⟩, ⟨.identifier, isIdentifier⟩,
    ⟨.whitespace, isWhitespace⟩]

/-- What is left for texts that no other test accepts. -/
def always : ClassTest :=
  { kind := .unrecognized, passes := fun _ => true }

def table : List ClassTest :=
  recognizing ++ [always]

/-- The class of the first test that `text` passes. -/
def firstClass (tests : List ClassTest) (text : List Char) : CharClass :=
  ((tests.find? (·.passes text)).map (·.kind)).getD .unrecognized

theorem firstClass_always (tests : List ClassTest) (text : List Char) :
    firstClass (tests ++ [always]) text = firstClass tests text := by
  rw [firstClass, firstClass, List.find?_append]
  cases tests.find? (·.passes text) <;> rfl

theorem firstClass_recognizing (text : List Char) :
    firstClass recognizing text = .ofText text := by
  simp only [firstClass, recognizing, CharClass.ofText, List.find?_cons]
  cases isSymbol text <;> cases isNumber text <;> cases isIdentifier text <;>
    cases isWhitespace text <;> rfl

variable {test other : ClassTest} {text : List Char}

theorem uniform (member : test ∈ recognizing) (passed : test.passes text = true) :
    ∀ c ∈ text, CharClass.of c = test.kind := by
  simp only [recognizing, List.mem_cons, List.not_mem_nil, or_false] at member
  rcases member with rfl | rfl | rfl | rfl
  · exact Alphabet.symbol_of_mem passed
  · exact (Alphabet.isNumber_iff.mp passed).2
  · exact (Alphabet.isIdentifier_iff.mp passed).2
  · exact Alphabet.isWhitespace_iff.mp passed

/-- A symbol is listed as a whole; the other tests ask for nothing but their characters. -/
theorem passes_iff_uniform (member : test ∈ recognizing) (unlisted : test.kind ≠ .symbol)
    (nonempty : text ≠ []) :
    test.passes text = true ↔ ∀ c ∈ text, CharClass.of c = test.kind := by
  simp only [recognizing, List.mem_cons, List.not_mem_nil, or_false] at member
  rcases member with rfl | rfl | rfl | rfl
  · contradiction
  · exact Alphabet.isNumber_iff.trans (and_iff_right nonempty)
  · exact Alphabet.isIdentifier_iff.trans (and_iff_right nonempty)
  · exact Alphabet.isWhitespace_iff

theorem nodup_kinds : (recognizing.map (·.kind)).Nodup := by
  decide

/-- The tests exclude each other. -/
theorem unique (member : test ∈ recognizing) (passed : test.passes text = true)
    (among : other ∈ recognizing) (also : other.passes text = true) : test = other := by
  refine List.inj_on_of_nodup_map nodup_kinds member among ?_
  cases text with
  | nil =>
      -- There is no character to tell the tests apart, but only one of them takes no text at all.
      have blank : ∀ test ∈ recognizing, test.passes [] = true → test.kind = .whitespace := by
        decide
      exact (blank test member passed).trans (blank other among also).symm
  | cons c rest =>
      have first := uniform member passed c (List.mem_cons_self ..)
      have second := uniform among also c (List.mem_cons_self ..)
      exact first.symm.trans second

theorem firstClass_perm {tests : List ClassTest} (reordered : tests.Perm table)
    (last : tests.getLast? = some always) (text : List Char) :
    firstClass tests text = .ofText text := by
  obtain ⟨front, rfl⟩ := List.getLast?_eq_some_iff.mp last
  have same : front.Perm recognizing := (List.perm_append_right_iff [always]).mp reordered
  have found : front.find? (·.passes text) = recognizing.find? (·.passes text) := by
    apply List.find?_eq_find?_of_perm same
    rintro test ⟨member, passed⟩ other ⟨among, also⟩
    exact unique (same.mem_iff.mp member) passed (same.mem_iff.mp among) also
  rw [firstClass_always, firstClass, found]
  exact firstClass_recognizing text

theorem passes_of_ofText (known : CharClass.ofText text ≠ .unrecognized) :
    ∃ test ∈ recognizing, test.passes text = true ∧ CharClass.ofText text = test.kind := by
  rw [← firstClass_recognizing, firstClass] at known ⊢
  cases found : recognizing.find? (·.passes text) with
  | none =>
      rw [found] at known
      exact absurd rfl known
  | some test =>
      have passed : test.passes text = true := by simpa using List.find?_some found
      exact ⟨test, List.mem_of_find?_eq_some found, passed, rfl⟩

theorem ofText_eq_kind_iff (member : test ∈ recognizing) :
    CharClass.ofText text = test.kind ↔ test.passes text = true := by
  constructor
  · intro same
    have recognized : ∀ test ∈ recognizing, test.kind ≠ .unrecognized := by decide
    obtain ⟨other, among, passed, kind⟩ :=
      passes_of_ofText (same.trans_ne (recognized test member))
    rwa [List.inj_on_of_nodup_map nodup_kinds member among (same.symm.trans kind)]
  · intro passed
    rw [← firstClass_recognizing, firstClass]
    cases found : recognizing.find? (·.passes text) with
    | none => exact absurd passed (List.find?_eq_none.mp found test member)
    | some other =>
        have also : other.passes text = true := by simpa using List.find?_some found
        rw [unique member passed (List.mem_of_find?_eq_some found) also]
        rfl

theorem countP_passes_le (text : List Char) : recognizing.countP (·.passes text) ≤ 1 := by
  calc recognizing.countP (·.passes text)
    _ = recognizing.countP (fun test => test.kind == CharClass.ofText text) := by
        apply List.countP_congr
        intro test member
        rw [beq_iff_eq, ← ofText_eq_kind_iff member]
        exact eq_comm
    _ = (recognizing.map (·.kind)).count (CharClass.ofText text) := by
        rw [List.count, List.countP_map]
        rfl
    _ ≤ 1 := List.nodup_iff_count_le_one.mp nodup_kinds _

end ClassTest

namespace CharClass

variable {text : List Char} {c : Char}

/-- A text of a class has only characters of that class. -/
theorem of_eq_ofText (known : ofText text ≠ .unrecognized) :
    ∀ c ∈ text, CharClass.of c = ofText text := by
  obtain ⟨test, member, passed, kind⟩ := ClassTest.passes_of_ofText known
  rw [kind]
  exact ClassTest.uniform member passed

theorem ofText_eq_iff_uniform {kind : CharClass} (plain : kind ∈ [number, identifier, whitespace])
    (nonempty : text ≠ []) : ofText text = kind ↔ ∀ c ∈ text, CharClass.of c = kind := by
  have tested : ∀ kind ∈ [number, identifier, whitespace],
      ∃ test ∈ ClassTest.recognizing, test.kind = kind ∧ test.kind ≠ .symbol := by decide
  obtain ⟨test, member, rfl, unlisted⟩ := tested kind plain
  rw [ClassTest.ofText_eq_kind_iff member]
  exact ClassTest.passes_iff_uniform member unlisted nonempty

/-- What begins with a symbol has no other class. -/
theorem ofPair_of_symbol (symbol : CharClass.of c = .symbol) (d : Char) :
    ofPair c d = if isCompoundOperator [c, d] then .symbol else .unrecognized := by
  by_cases compound : isCompoundOperator [c, d] = true
  · rw [if_pos compound, ofPair_eq_symbol_iff]
    exact List.contains_iff_mem.mp compound
  · rw [if_neg compound]
    by_contra known
    have whole := of_eq_ofText known c (List.mem_cons_self ..)
    have merges : ofPair c d = .symbol := whole.symm.trans symbol
    exact compound (List.contains_iff_mem.mpr ((ofPair_eq_symbol_iff c d).mp merges))

end CharClass

namespace Lexeme

/-- What is read where neither a quote, a digit nor a letter stands: a blank is passed over, and
two characters merge if the alphabet has any class for them. -/
def readOperator (first : Glyph) (tail : List Glyph) : Lexeme × List Glyph :=
  if first.kind = .whitespace then
    ({ shape := .blank, first, others := [] }, tail)
  else
    match tail with
    | [] => ({ shape := .symbol, first, others := [] }, [])
    | second :: rest =>
        if CharClass.ofPair first.char second.char = .unrecognized then
          ({ shape := .symbol, first, others := [] }, second :: rest)
        else
          ({ shape := .symbol, first, others := [second] }, rest)

variable {first : Glyph} {tail : List Glyph}

theorem readSymbol_eq_readOperator (genuine : first.Genuine) (symbol : first.kind = .symbol) :
    readSymbol first tail = readOperator first tail := by
  have visible : first.kind ≠ .whitespace := by simp [symbol]
  unfold readOperator
  rw [if_neg visible]
  cases tail with
  | nil => rfl
  | cons second rest =>
      have pair := CharClass.ofPair_of_symbol (genuine.kind_eq.symm.trans symbol) second.char
      simp only [readSymbol, pair]
      split <;> rfl

theorem read_eq_readOperator (genuine : first.Genuine) (unquoted : isQuote first = false)
    (noDigit : first.kind ≠ .number) (noLetter : first.kind ≠ .identifier) :
    read first tail = readOperator first tail := by
  rw [read, unquoted]
  cases kind : first.kind with
  | number => contradiction
  | identifier => contradiction
  | whitespace => simp [readOperator, kind]
  | symbol => exact readSymbol_eq_readOperator genuine kind
  | unrecognized =>
      have known := genuine.known
      rw [Alphabet.recognizes, ← genuine.kind_eq, kind] at known
      contradiction

end Lexeme

/-- The tests exclude each other and may stand in any order.  Where an operator is read, a pair has
the class of symbols or none, so either can tell whether it merges. -/
theorem class_order_never_decides :
    (∀ text, [isSymbol, isNumber, isIdentifier, isWhitespace].countP (· text) ≤ 1) ∧
      (∀ tests : List ClassTest, tests.Perm ClassTest.table →
        tests.getLast? = some ClassTest.always →
        ∀ text, ClassTest.firstClass tests text = CharClass.ofText text) ∧
      (∀ c, CharClass.of c = .symbol → ∀ d,
        CharClass.ofPair c d = (if isCompoundOperator [c, d] then .symbol else .unrecognized) ∧
          (CharClass.ofPair c d ≠ .unrecognized ↔ CharClass.ofPair c d = .symbol)) ∧
      (∀ policy source scan, Scan.ofSource policy source = .ok scan →
        ∀ passed first tail, scan.kept.toList = passed ++ first :: tail →
          Lexeme.isQuote first = false → first.kind ≠ .number → first.kind ≠ .identifier →
          Lexeme.read first tail = Lexeme.readOperator first tail) ∧
      (∀ text, text ≠ [] → ∀ kind ∈ [CharClass.number, .identifier, .whitespace],
        (CharClass.ofText text = kind ↔ ∀ c ∈ text, CharClass.of c = kind)) := by
  refine ⟨?_, ?_, ?_, ?_, ?_⟩
  · intro text
    exact ClassTest.countP_passes_le text
  · intro tests reordered last text
    exact ClassTest.firstClass_perm reordered last text
  · intro c symbol d
    have pair := CharClass.ofPair_of_symbol symbol d
    refine ⟨pair, ?_⟩
    rw [pair]
    split <;> simp
  · intro policy source scan ran passed first tail kept unquoted noDigit noLetter
    have genuine : ∀ glyph ∈ scan.kept.toList, glyph.Genuine := Scan.genuine_extend ran (by simp)
    refine Lexeme.read_eq_readOperator (genuine first ?_) unquoted noDigit noLetter
    rw [kept]
    simp
  · intro text nonempty kind plain
    exact CharClass.ofText_eq_iff_uniform plain nonempty

theorem class_order_never_decides_mixed :
    ((ClassTest.recognizing.reverse ++ [ClassTest.always]).Perm ClassTest.table ∧
        (ClassTest.recognizing.reverse ++ [ClassTest.always]).getLast? = some ClassTest.always ∧
        ClassTest.firstClass (ClassTest.recognizing.reverse ++ [ClassTest.always]) ['=', '>'] =
          CharClass.ofText ['=', '>']) ∧
      (CharClass.of '<' = .symbol ∧
        CharClass.ofPair '<' '=' =
          (if isCompoundOperator ['<', '='] then .symbol else .unrecognized) ∧
        (CharClass.ofPair '<' '=' ≠ .unrecognized ↔ CharClass.ofPair '<' '=' = .symbol)) ∧
      (∃ scan passed first tail, Scan.ofSource .resynchronize ['a', '<', '@', '='] = .ok scan ∧
        scan.kept.toList = passed ++ first :: tail ∧ Lexeme.isQuote first = false ∧
        first.kind ≠ .number ∧ first.kind ≠ .identifier ∧
        Lexeme.read first tail = Lexeme.readOperator first tail) ∧
      (['\u2003', '\n'] ≠ [] ∧
        CharClass.whitespace ∈ [CharClass.number, .identifier, .whitespace] ∧
        (CharClass.ofText ['\u2003', '\n'] = .whitespace ↔
          ∀ c ∈ ['\u2003', '\n'], CharClass.of c = .whitespace)) := by
  obtain ⟨-, reorders, pairs, operators, uniform⟩ := class_order_never_decides
  have reordered := (List.reverse_perm ClassTest.recognizing).append_right [ClassTest.always]
  have ran : Scan.ofSource .resynchronize ['a', '<', '@', '='] =
      .ok (.whole .resynchronize ['a', '<', '@', '=']) := Scan.ofSource_eq _ (by decide)
  have kept : (Scan.whole .resynchronize ['a', '<', '@', '=']).kept.toList =
      [.behind [] 'a'] ++ .behind ['a'] '<' :: [.behind ['a', '<', '@'] '='] := by decide
  exact ⟨⟨reordered, rfl, reorders _ reordered rfl _⟩,
    ⟨by decide, pairs '<' (by decide) '='⟩,
    ⟨_, _, _, _, ran, kept, by decide, by decide, by decide,
      operators _ _ _ ran _ _ _ kept (by decide) (by decide) (by decide)⟩,
    ⟨by decide, by decide, uniform _ (by decide) _ (by decide)⟩⟩

end Poco
