import Poco.Proofs.Reading

namespace Poco

open Alphabet (quote isBlank)

/-! The longest lexeme of a text stays the longest when the text goes on behind a
blank, or when two characters were left to look at.  So the lexemes of a text
survive in a longer one, all of them or all but the last two. -/

namespace Spells

variable {shape : Shape} {text : List Char}

/-- Blanks stand in strings or alone. -/
theorem shape_of_isBlank {c : Char} (spells : Spells shape text) (member : c ∈ text)
    (blank : isBlank c = true) : shape = .string ∨ shape = .blank := by
  rcases spells.char_cases member with string | ⟨alone, -⟩ | wordPart | ⟨symbol, listed, -, inside⟩
  · exact .inl string
  · exact .inr alone
  · rw [Alphabet.not_isAlphanum_of_isBlank blank] at wordPart
    contradiction
  · rw [(Alphabet.symbol_chars listed inside).2] at blank
    contradiction

/-- A lexeme grows into a longer one by a character, or by the point of a fraction and a digit. -/
theorem grows {c : Char} {more : List Char} (spells : Spells shape text)
    (longer : Spells shape (text ++ c :: more)) :
    Spells shape (text ++ [c]) ∨ ∃ d rest, more = d :: rest ∧ Spells shape (text ++ [c, d]) := by
  have oneMore (front back : List Char) : front ++ [c] ⊆ front ++ c :: back := by simp
  generalize split : text ++ c :: more = lexeme at longer
  cases spells with
  | @word first rest letter =>
      cases longer with
      | word _ longerParts =>
          obtain ⟨rfl, rfl⟩ := List.cons.inj split
          exact .inl (.word letter fun d member => longerParts d (oneMore rest more member))
  | whole nonempty digital =>
      cases longer with
      | whole _ longerDigital =>
          subst split
          exact .inl (.whole (by simp) fun d member => longerDigital d (oneMore text more member))
      | @fraction whole part _ wholeDigital partNonempty partDigital =>
          obtain ⟨d, rest, rfl⟩ := List.exists_cons_of_ne_nil partNonempty
          have begins : text <+: whole ++ '.' :: d :: rest := ⟨_, split⟩
          have within : text.length ≤ whole.length :=
            run_length_le digital (by rintro _ ⟨⟩; decide) begins
          obtain ⟨behind, rfl⟩ :=
            List.prefix_of_prefix_length_le begins (List.prefix_append _ _) within
          rw [List.append_assoc, List.append_cancel_left_eq] at split
          cases behind with
          | nil =>
              obtain ⟨rfl, rfl⟩ := List.cons.inj split
              refine .inr ⟨d, rest, rfl, .fraction nonempty digital (by simp) ?_⟩
              intro e member
              obtain rfl := List.mem_singleton.mp member
              exact partDigital e (by simp)
          | cons e behind =>
              obtain ⟨rfl, -⟩ := List.cons.inj split
              exact .inl (.whole (by simp) fun d member =>
                wholeDigital d (oneMore text behind member))
  | @fraction whole part nonempty digital partNonempty partDigital =>
      cases longer with
      | whole _ longerDigital =>
          exact absurd (longerDigital '.' (by simp [← split])) (by decide)
      | @fraction otherWhole otherPart _ otherDigital _ otherPartDigital =>
          have begins : whole ++ '.' :: (part ++ c :: more) <+: otherWhole ++ '.' :: otherPart := by
            simp [← split]
          obtain ⟨rfl, -, -⟩ := run_unique (p := Char.isDigit) digital otherDigital (by decide)
            (by decide) begins
          obtain rfl : part ++ c :: more = otherPart := by simpa using split
          have grown : Spells .number (whole ++ '.' :: (part ++ [c])) :=
            .fraction nonempty digital (by simp) fun d member =>
              otherPartDigital d (oneMore part more member)
          exact .inl (by simpa using grown)
  | symbol listed unquoted =>
      obtain ⟨first, front, rfl⟩ :=
        List.exists_cons_of_ne_nil (Spells.symbol listed unquoted).ne_nil
      cases longer with
      | symbol longerListed longerUnquoted =>
          subst split
          rcases Alphabet.symbol_shape longerListed with ⟨e, single⟩ | compound
          · simp at single
          · obtain ⟨_, _, pair⟩ := Alphabet.compound_pair compound
            obtain ⟨rfl, rfl⟩ : front = [] ∧ more = [] := by
              have lengths := congrArg List.length pair
              simp only [List.length_append, List.length_cons, List.length_nil] at lengths
              exact ⟨List.eq_nil_of_length_eq_zero (by omega),
                List.eq_nil_of_length_eq_zero (by omega)⟩
            exact .inl (.symbol longerListed longerUnquoted)
  | @string body unquoted =>
      have begins : lexeme <+: quote :: body ++ [quote] ++ c :: more := split ▸ List.prefix_refl _
      have within := (leads_string unquoted).longest _ _ longer begins
      simp [← split] at within
  | blank =>
      cases longer
      simp at split

end Spells

namespace Leads

variable {shape : Shape} {text rest : List Char} {c : Char}

/-- With nothing behind it a lexeme is the longest. -/
theorem alone (spells : Spells shape text) : Leads shape text [] where
  spells := spells
  longest := by
    intro _ lexeme _ begins
    simpa using begins.length_le

/-- A blank ends a lexeme as the end of the text does. -/
theorem before_blank (leads : Leads shape text rest) (blank : isBlank c = true)
    (more : List Char) : Leads shape text (rest ++ c :: more) := by
  refine .of_same_shape leads.spells ?_
  intro lexeme spelled begins
  rw [← List.append_assoc] at begins
  rcases Nat.lt_or_ge (text ++ rest).length lexeme.length with reaches | within
  · have inside : text ++ rest ++ [c] <+: lexeme :=
      List.prefix_of_prefix_length_le ⟨more, by simp⟩ begins
        (by rw [List.length_append]; exact reaches)
    rcases spelled.shape_of_isBlank (inside.subset (by simp)) blank with rfl | rfl
    · cases leads.spells with
      | string unquoted =>
          rw [List.append_assoc] at begins
          exact (leads_string unquoted).longest _ _ spelled begins
    · cases spelled
      exact List.length_pos_iff.mpr leads.spells.ne_nil
  · exact leads.longest _ _ spelled
      (List.prefix_of_prefix_length_le begins (List.prefix_append _ _) within)

/-- The two characters behind a lexeme decide whether it is the longest. -/
theorem append (leads : Leads shape text rest) (enough : 2 ≤ rest.length) (more : List Char) :
    Leads shape text (rest ++ more) := by
  refine .of_same_shape leads.spells ?_
  intro lexeme spelled begins
  rcases Nat.lt_or_ge text.length lexeme.length with longer | within
  · obtain ⟨behind, rfl⟩ :=
      List.prefix_of_prefix_length_le (List.prefix_append text _) begins longer.le
    obtain ⟨first, second, others, rfl⟩ : ∃ first second others, rest = first :: second :: others := by
      match rest, enough with
      | first :: second :: others, _ => exact ⟨first, second, others, rfl⟩
    cases behind with
    | nil => simp at longer
    | cons c behind =>
        obtain ⟨rfl, following⟩ :=
          List.cons_prefix_cons.mp ((List.prefix_append_right_inj text).mp begins)
        rcases leads.spells.grows spelled with one | ⟨d, after, rfl, two⟩
        · have shorter := leads.longest _ _ one ⟨second :: others, by simp⟩
          rw [List.length_append, List.length_singleton] at shorter
          omega
        · obtain ⟨rfl, -⟩ := List.cons_prefix_cons.mp following
          have shorter := leads.longest _ _ two ⟨others, by simp⟩
          rw [List.length_append, List.length_cons] at shorter
          omega
  · exact within

end Leads

namespace Lexeme

theorem eq_of_glyphs {lexeme other : Lexeme} (shapes : lexeme.shape = other.shape)
    (same : lexeme.glyphs = other.glyphs) : lexeme = other := by
  obtain ⟨shape, first, others⟩ := lexeme
  obtain ⟨rfl, rfl⟩ := List.cons.inj same
  obtain rfl := shapes
  rfl

namespace Reading

variable {lexemes others front back next : List Lexeme}

theorem not_leads_of_open {shape : Shape} {first : Glyph} {tail : List Glyph}
    {text rest : List Char} (opens : isQuote first = true)
    (unclosed : ∀ glyph ∈ tail, isQuote glyph = false)
    (whole : (first :: tail).map (·.char) = text ++ rest) : ¬ Leads shape text rest := by
  intro leads
  have opening : first.char = quote := by simpa [isQuote] using opens
  rw [List.map_cons, opening] at whole
  exact stuck_of_open (quote_not_mem_map unclosed) _ _ leads.spells ⟨rest, whole.symm⟩

/-- A text has one reading only. -/
theorem unique (reading : Reading lexemes) (other : Reading others)
    (same : lexemes.flatMap glyphs = others.flatMap glyphs) : lexemes = others := by
  have sameChars : lexemes.flatMap chars = others.flatMap chars := by
    rw [flatMap_chars, flatMap_chars, same]
  induction reading generalizing others with
  | done =>
      cases other with
      | done => rfl
      | openString => simp [glyphs] at same
      | step => simp [glyphs] at same
  | openString opens unclosed =>
      cases other with
      | done => simp [glyphs] at same
      | openString =>
          obtain ⟨rfl, rfl⟩ : _ ∧ _ := by simpa [glyphs] using same
          rfl
      | step leads =>
          exact absurd leads (not_leads_of_open opens unclosed (by
            simpa [chars, glyphs] using sameChars))
  | @step lexeme lexemes leads next ih =>
      cases other with
      | done => simp [glyphs] at same
      | openString opens unclosed =>
          exact absurd leads (not_leads_of_open opens unclosed (by
            simpa [chars, glyphs] using sameChars.symm))
      | @step another others otherLeads otherNext =>
          obtain ⟨shapes, texts, rests⟩ := leads.unique otherLeads sameChars
          have lengths : lexeme.glyphs.length = another.glyphs.length := by
            simpa [chars] using congrArg List.length texts.symm
          obtain ⟨first, later⟩ := List.append_inj same lengths
          rw [eq_of_glyphs shapes.symm first, ih otherNext later rests.symm]

theorem ofGlyphs_eq (reading : Reading lexemes)
    (genuine : ∀ glyph ∈ lexemes.flatMap glyphs, glyph.Genuine) :
    ofGlyphs (lexemes.flatMap glyphs) = lexemes :=
  (reading_ofGlyphs _ genuine).unique reading (flatMap_glyphs_ofGlyphs _)

/-- Readings join at a blank, unless the first ends in an open string. -/
theorem before_blank {c : Char} {more : List Char} (reading : Reading lexemes)
    (closed : ∀ lexeme ∈ lexemes, lexeme.isOpen = false) (following : Reading next)
    (begins : next.flatMap chars = c :: more) (blank : isBlank c = true) :
    Reading (lexemes ++ next) := by
  induction reading with
  | done => exact following
  | openString => simp [isOpen] at closed
  | step leads _ ih =>
      rw [List.cons_append]
      refine .step ?_ (ih fun lexeme member => closed lexeme (List.mem_cons_of_mem _ member))
      rw [List.flatMap_append, begins]
      exact leads.before_blank blank more

/-- Lexemes that others of two characters or more follow are read the same when the text goes
on behind these. -/
theorem resume (reading : Reading (front ++ back)) (enough : 2 ≤ (back.flatMap chars).length)
    (following : Reading next) (begins : back.flatMap chars <+: next.flatMap chars) :
    Reading (front ++ next) := by
  induction front with
  | nil => exact following
  | cons lexeme front ih =>
      obtain ⟨more, whole⟩ := begins
      generalize parts : lexeme :: front ++ back = lexemes at reading
      cases reading with
      | done => simp at parts
      | openString =>
          obtain ⟨-, nothing⟩ := List.cons.inj parts
          simp [(List.append_eq_nil_iff.mp nothing).2] at enough
      | step leads later =>
          obtain ⟨rfl, rfl⟩ : lexeme = _ ∧ front ++ back = _ := List.cons.inj parts
          rw [List.cons_append]
          refine .step ?_ (ih later)
          rw [List.flatMap_append, ← whole, ← List.append_assoc, ← List.flatMap_append]
          refine leads.append ?_ more
          rw [List.flatMap_append, List.length_append]
          omega

end Reading

end Lexeme

end Poco
