import Mathlib.Data.List.TakeWhile
import Poco.Proofs.Munching
import Poco.Proofs.Scanning

namespace Poco

open Alphabet (quote symbols compoundOperators recognizes)

/-- A character under its own class, which is one of the alphabet's. -/
structure Glyph.Genuine (glyph : Glyph) : Prop where
  kind_eq : glyph.kind = .of glyph.char
  known : recognizes glyph.char = true

namespace Lexeme

variable {first : Glyph} {tail glyphs : List Glyph}

section Classes

variable {glyph : Glyph} (genuine : glyph.Genuine)

include genuine

theorem isDigit_eq_char : isDigit glyph = glyph.char.isDigit := by
  rw [Bool.eq_iff_iff, isDigit, beq_iff_eq, genuine.kind_eq]
  exact CharClass.of_eq_number_iff _

theorem isWordPart_eq_char : isWordPart glyph = glyph.char.isAlphanum := by
  rw [Bool.eq_iff_iff, isWordPart, Char.isAlphanum, Bool.or_eq_true, Bool.or_eq_true, beq_iff_eq,
    beq_iff_eq, genuine.kind_eq, CharClass.of_eq_identifier_iff, CharClass.of_eq_number_iff]

end Classes

theorem quote_not_mem_map (unquoted : ∀ glyph ∈ glyphs, isQuote glyph = false) :
    quote ∉ glyphs.map (·.char) := by
  intro member
  obtain ⟨glyph, among, same⟩ := List.mem_map.mp member
  have notQuote := unquoted glyph among
  simp [isQuote, same] at notQuote

section Runs

variable {keeps : Glyph → Bool} {part : Char → Bool}
  (agrees : ∀ glyph ∈ glyphs, keeps glyph = part glyph.char)

include agrees

theorem run_inside : ∀ c ∈ (glyphs.takeWhile keeps).map (·.char), part c = true := by
  intro c member
  obtain ⟨glyph, taken, rfl⟩ := List.mem_map.mp member
  rw [← agrees glyph ((List.takeWhile_prefix keeps).subset taken)]
  exact List.mem_takeWhile_imp taken

theorem run_boundary :
    ∀ c, ((glyphs.dropWhile keeps).map (·.char)).head? = some c → part c = false := by
  intro c found
  cases dropped : glyphs.dropWhile keeps with
  | nil => simp [dropped] at found
  | cons glyph rest =>
      obtain rfl : glyph.char = c := by simpa [dropped] using found
      have member : glyph ∈ glyphs := (List.dropWhile_suffix keeps).subset (by simp [dropped])
      have stops := List.head?_dropWhile_not keeps glyphs
      rw [dropped] at stops
      rw [← agrees glyph member]
      exact stops

end Runs

def Leading (reading : Lexeme × List Glyph) : Prop :=
  Leads reading.1.shape reading.1.chars (reading.2.map (·.char))

theorem readWord_leading (genuine : ∀ glyph ∈ first :: tail, glyph.Genuine)
    (letter : first.kind = .identifier) : Leading (readWord first tail) := by
  have agrees : ∀ glyph ∈ tail, isWordPart glyph = glyph.char.isAlphanum := fun glyph member =>
    isWordPart_eq_char (genuine glyph (List.mem_cons_of_mem _ member))
  rw [(genuine first (List.mem_cons_self ..)).kind_eq, CharClass.of_eq_identifier_iff] at letter
  exact leads_word letter (run_inside agrees) (run_boundary agrees)

theorem readNumber_leading (genuine : ∀ glyph ∈ first :: tail, glyph.Genuine)
    (digit : first.kind = .number) : Leading (readNumber first tail) := by
  have agrees : ∀ glyph ∈ tail, isDigit glyph = glyph.char.isDigit := fun glyph member =>
    isDigit_eq_char (genuine glyph (List.mem_cons_of_mem _ member))
  rw [(genuine first (List.mem_cons_self ..)).kind_eq, CharClass.of_eq_number_iff] at digit
  have digital : ∀ c ∈ first.char :: (tail.takeWhile isDigit).map (·.char), c.isDigit = true := by
    intro c member
    rcases List.mem_cons.mp member with rfl | later
    · exact digit
    · exact run_inside agrees c later
  have boundary := run_boundary agrees
  unfold readNumber
  cases after : tail.dropWhile isDigit with
  | nil =>
      apply leads_whole (List.cons_ne_nil _ _) digital (by simp)
      intro _ _ contradictory
      contradiction
  | cons point others =>
      rw [after] at boundary
      cases others with
      | nil =>
          apply leads_whole (List.cons_ne_nil _ _) digital boundary
          intro _ _ contradictory
          simp at contradictory
      | cons next rest =>
          have dropped : point :: next :: rest <:+ tail := after ▸ List.dropWhile_suffix isDigit
          have nextAgrees := agrees next (dropped.subset (by simp))
          by_cases fraction : point.char = '.' ∧ isDigit next
          · have restAgrees : ∀ glyph ∈ rest, isDigit glyph = glyph.char.isDigit :=
              fun glyph member => agrees glyph (dropped.subset (by simp [member]))
            have partDigital : ∀ c ∈ next.char :: (rest.takeWhile isDigit).map (·.char),
                c.isDigit = true := by
              intro c member
              rcases List.mem_cons.mp member with rfl | later
              · rw [← nextAgrees]
                exact fraction.2
              · exact run_inside restAgrees c later
            have leads := leads_fraction (by simp) digital (by simp) partDigital
              (run_boundary restAgrees)
            simp only [if_pos fraction]
            simpa [Leading, chars, Lexeme.glyphs, fraction.1] using leads
          · simp only [if_neg fraction]
            apply leads_whole (List.cons_ne_nil _ _) digital boundary
            intro digit more split
            simp only [List.map_cons, List.cons.injEq] at split
            rw [← split.2.1, ← nextAgrees]
            simpa [split.1] using fraction

theorem readSymbol_leading (genuine : first.Genuine) (symbol : first.kind = .symbol)
    (unquoted : isQuote first = false) : Leading (readSymbol first tail) := by
  rw [genuine.kind_eq, CharClass.of_eq_symbol_iff] at symbol
  have notQuote : first.char ≠ quote := by simpa [isQuote] using unquoted
  unfold readSymbol
  cases tail with
  | nil => exact leads_single symbol notQuote (by simp)
  | cons second rest =>
      by_cases merges : CharClass.ofPair first.char second.char = .symbol
      · simp only [if_pos merges]
        exact leads_compound ((CharClass.ofPair_eq_symbol_iff _ _).mp merges)
      · simp only [if_neg merges]
        apply leads_single symbol notQuote
        intro d next compound
        obtain rfl : second.char = d := by simpa using next
        exact merges ((CharClass.ofPair_eq_symbol_iff _ _).mpr compound)

/-- A string is read to the next quote; without one it is open and takes all the rest. -/
theorem readString_cases (opens : isQuote first = true) :
    Leading (readString first tail) ∨
      (∀ glyph ∈ tail, isQuote glyph = false) ∧
        readString first tail = ({ shape := .openString, first, others := tail }, []) := by
  have opening : first.char = quote := by simpa [isQuote] using opens
  have unquoted : quote ∉ (tail.takeWhile (fun glyph => !isQuote glyph)).map (·.char) :=
    quote_not_mem_map fun glyph taken => by simpa using List.mem_takeWhile_imp taken
  unfold readString
  cases after : tail.dropWhile (fun glyph => !isQuote glyph) with
  | nil =>
      have none : ∀ glyph ∈ tail, isQuote glyph = false := by simpa using after
      refine .inr ⟨none, ?_⟩
      have whole : tail.takeWhile (fun glyph => !isQuote glyph) = tail := by simpa using none
      simp only [whole]
  | cons close rest =>
      have closes : isQuote close = true := by
        have stops := List.head?_dropWhile_not (fun glyph => !isQuote glyph) tail
        rw [after] at stops
        simpa using stops
      have closing : close.char = quote := by simpa [isQuote] using closes
      have leads : Leads .string _ (rest.map (·.char)) := leads_string unquoted
      exact .inl (by simpa [Leading, chars, Lexeme.glyphs, opening, closing] using leads)

/-- The longest lexeme is read, unless an open string takes all the rest. -/
theorem read_cases (genuine : ∀ glyph ∈ first :: tail, glyph.Genuine) :
    Leading (read first tail) ∨
      isQuote first = true ∧ (∀ glyph ∈ tail, isQuote glyph = false) ∧
        read first tail = ({ shape := .openString, first, others := tail }, []) := by
  have firstGenuine := genuine first (List.mem_cons_self ..)
  unfold read
  cases opens : isQuote first with
  | true =>
      simp only [if_true]
      exact (readString_cases opens).imp_right fun open_ => ⟨trivial, open_⟩
  | false =>
      refine .inl ?_
      simp only [Bool.false_eq_true, if_false]
      cases kind : first.kind with
      | symbol => exact readSymbol_leading firstGenuine kind opens
      | number => exact readNumber_leading genuine kind
      | identifier => exact readWord_leading genuine kind
      | whitespace =>
          rw [firstGenuine.kind_eq, CharClass.of_eq_whitespace_iff] at kind
          exact leads_blank kind
      | unrecognized =>
          have known := firstGenuine.known
          rw [recognizes, ← firstGenuine.kind_eq, kind] at known
          contradiction

/-- Lexemes as they follow each other: each the longest there is, an open string at the end only. -/
inductive Reading : List Lexeme → Prop
  | done : Reading []
  | openString {first : Glyph} {others : List Glyph} (opens : isQuote first = true)
      (unclosed : ∀ glyph ∈ others, isQuote glyph = false) :
      Reading [{ shape := .openString, first, others }]
  | step {lexeme : Lexeme} {lexemes : List Lexeme}
      (leads : Leads lexeme.shape lexeme.chars (lexemes.flatMap chars)) (next : Reading lexemes) :
      Reading (lexeme :: lexemes)

theorem flatMap_chars (lexemes : List Lexeme) :
    lexemes.flatMap chars = (lexemes.flatMap Lexeme.glyphs).map (·.char) := by
  rw [List.map_flatMap]
  rfl

theorem flatMap_chars_ofGlyphs (glyphs : List Glyph) :
    (ofGlyphs glyphs).flatMap chars = glyphs.map (·.char) := by
  rw [flatMap_chars, flatMap_glyphs_ofGlyphs]

theorem reading_ofGlyphs (glyphs : List Glyph) (genuine : ∀ glyph ∈ glyphs, glyph.Genuine) :
    Reading (ofGlyphs glyphs) := by
  match glyphs with
  | [] =>
      rw [ofGlyphs_nil]
      exact .done
  | first :: tail =>
      rw [ofGlyphs_cons]
      rcases read_cases genuine with leading | ⟨opens, unclosed, taken⟩
      · refine .step ?_ (reading_ofGlyphs (read first tail).2 ?_)
        · rw [flatMap_chars_ofGlyphs]
          exact leading
        · intro glyph member
          apply genuine glyph
          rw [← read_glyphs first tail]
          exact List.mem_append_right _ member
      · rw [taken]
        simpa using Reading.openString opens unclosed
termination_by glyphs.length
decreasing_by exact read_shorter first tail

def isOpen (lexeme : Lexeme) : Bool :=
  lexeme.shape == .openString

def pieces (lexemes : List Lexeme) : List (Shape × List Char) :=
  (lexemes.filter (fun lexeme => !lexeme.isOpen)).map fun lexeme => (lexeme.shape, lexeme.chars)

/-- The characters in an open string. -/
def unread (lexemes : List Lexeme) : List Char :=
  (lexemes.filter isOpen).flatMap chars

theorem isOpen_of_spells {lexeme : Lexeme} (spells : Spells lexeme.shape lexeme.chars) :
    lexeme.isOpen = false := by
  rw [isOpen, beq_eq_false_iff_ne]
  exact spells.closed

namespace Reading

variable {lexemes : List Lexeme}

theorem opens_or_spells {lexeme : Lexeme} (reading : Reading lexemes) (member : lexeme ∈ lexemes) :
    lexeme.isOpen = true ∧ isQuote lexeme.first = true ∨
      lexeme.isOpen = false ∧ Spells lexeme.shape lexeme.chars := by
  induction reading with
  | done => simp at member
  | openString opens =>
      obtain rfl := List.mem_singleton.mp member
      exact .inl ⟨rfl, opens⟩
  | step leads _ ih =>
      rcases List.mem_cons.mp member with rfl | later
      · exact .inr ⟨isOpen_of_spells leads.spells, leads.spells⟩
      · exact ih later

theorem opens_of_isOpen {lexeme : Lexeme} (reading : Reading lexemes) (member : lexeme ∈ lexemes)
    (open_ : lexeme.isOpen = true) : isQuote lexeme.first = true := by
  rcases reading.opens_or_spells member with ⟨-, opens⟩ | ⟨closed, -⟩
  · exact opens
  · rw [open_] at closed
    contradiction

theorem spells_of_closed {lexeme : Lexeme} (reading : Reading lexemes) (member : lexeme ∈ lexemes)
    (closed : lexeme.isOpen = false) : Spells lexeme.shape lexeme.chars := by
  rcases reading.opens_or_spells member with ⟨open_, -⟩ | ⟨-, spells⟩
  · rw [closed] at open_
    contradiction
  · exact spells

theorem unread_cases (reading : Reading lexemes) :
    unread lexemes = [] ∨ ∃ body, unread lexemes = quote :: body ∧ quote ∉ body := by
  induction reading with
  | done => exact .inl rfl
  | @openString first others opens unclosed =>
      have opening : first.char = quote := by simpa [isQuote] using opens
      exact .inr ⟨others.map (·.char), by simp [unread, isOpen, chars, Lexeme.glyphs, opening],
        quote_not_mem_map unclosed⟩
  | step leads _ ih => simpa [unread, isOpen_of_spells leads.spells] using ih

/-- A reading is the split into longest lexemes. -/
theorem munches (reading : Reading lexemes) :
    Munches (lexemes.flatMap chars) (pieces lexemes) (unread lexemes) := by
  induction reading with
  | done => exact .stop stuck_of_nil
  | @openString first others opens unclosed =>
      have whole : unread [{ shape := .openString, first, others }] =
          [({ shape := .openString, first, others } : Lexeme)].flatMap chars := by
        simp [unread, isOpen]
      rcases unread_cases (.openString opens unclosed) with nothing | ⟨body, split, unquoted⟩
      · simp [whole, chars, Lexeme.glyphs] at nothing
      · rw [← whole, split]
        exact .stop (stuck_of_open unquoted)
  | step leads _ ih =>
      have closed := isOpen_of_spells leads.spells
      simpa [pieces, unread, closed] using Munches.step leads ih

end Reading

end Lexeme

end Poco
