import Poco.Proofs.Spelling

namespace Poco

open Alphabet (quote symbols compoundOperators isBlank)

section Runs

variable {α : Type} {p : α → Bool} {run body rest : List α}

/-- A run at the beginning of `body ++ rest` ends within `body` if `rest` cannot go on with it. -/
theorem run_length_le (inside : ∀ c ∈ run, p c = true)
    (boundary : ∀ c, rest.head? = some c → p c = false) (begins : run <+: body ++ rest) :
    run.length ≤ body.length := by
  rcases Nat.le_total run.length body.length with within | longer
  · exact within
  · obtain ⟨more, rfl⟩ :=
      List.prefix_of_prefix_length_le (List.prefix_append body rest) begins longer
    cases more with
    | nil => simp
    | cons c more =>
        obtain ⟨behind, rfl⟩ := (List.prefix_append_right_inj body).mp begins
        have stops := boundary c rfl
        rw [inside c (by simp)] at stops
        contradiction

/-- Two runs at the beginning of one text that both end there are the same. -/
theorem run_unique {stop other : α} {behind : List α} (inside : ∀ c ∈ run, p c = true)
    (bodyInside : ∀ c ∈ body, p c = true) (stops : p stop = false) (bodyStops : p other = false)
    (begins : run ++ stop :: rest <+: body ++ other :: behind) :
    run = body ∧ stop = other ∧ rest <+: behind := by
  induction run generalizing body with
  | nil =>
      cases body with
      | nil =>
          obtain ⟨same, following⟩ := List.cons_prefix_cons.mp begins
          exact ⟨rfl, same, following⟩
      | cons c body =>
          have same : stop = c := (List.cons_prefix_cons.mp begins).1
          rw [same, bodyInside c (by simp)] at stops
          contradiction
  | cons c run ih =>
      cases body with
      | nil =>
          have same : c = other := (List.cons_prefix_cons.mp begins).1
          rw [← same, inside c (by simp)] at bodyStops
          contradiction
      | cons d body =>
          obtain ⟨rfl, following⟩ := List.cons_prefix_cons.mp begins
          obtain ⟨rfl, rest⟩ := ih (fun d member => inside d (by simp [member]))
            (fun d member => bodyInside d (by simp [member])) following
          exact ⟨rfl, rest⟩

end Runs

variable {c : Char} {rest : List Char}

theorem leads_blank (blank : isBlank c = true) : Leads .blank [c] rest := by
  refine .of_same_shape (.blank blank) ?_
  intro lexeme spelled _
  cases spelled
  simp

theorem leads_word {word : List Char} (letter : c.isAlpha = true)
    (wordParts : ∀ d ∈ word, d.isAlphanum = true)
    (boundary : ∀ d, rest.head? = some d → d.isAlphanum = false) :
    Leads .word (c :: word) rest := by
  refine .of_same_shape (.word letter wordParts) ?_
  intro lexeme spelled begins
  cases spelled with
  | word _ otherParts =>
      have following := (List.cons_prefix_cons.mp begins).2
      exact Nat.succ_le_succ (run_length_le otherParts boundary following)

theorem leads_whole {digits : List Char} (nonempty : digits ≠ [])
    (digital : ∀ d ∈ digits, d.isDigit = true)
    (boundary : ∀ d, rest.head? = some d → d.isDigit = false)
    (noFraction : ∀ digit more, rest = '.' :: digit :: more → digit.isDigit = false) :
    Leads .number digits rest := by
  refine .of_same_shape (.whole nonempty digital) ?_
  intro lexeme spelled begins
  cases spelled with
  | whole _ otherDigital => exact run_length_le otherDigital boundary begins
  | fraction _ wholeDigital partNonempty partDigital =>
      cases rest with
      | nil =>
          have point := digital '.' (by simpa using begins.subset (by simp : '.' ∈ _))
          exact absurd point (by decide)
      | cons point behind =>
          obtain ⟨-, rfl, partBegins⟩ := run_unique (p := Char.isDigit) wholeDigital digital
            (by decide) (boundary point rfl) begins
          obtain ⟨more, rfl⟩ := partBegins
          obtain ⟨digit, part, rfl⟩ := List.exists_cons_of_ne_nil partNonempty
          have notDigit := noFraction digit (part ++ more) rfl
          rw [partDigital digit (by simp)] at notDigit
          contradiction

theorem leads_fraction {whole part : List Char} (nonempty : whole ≠ [])
    (digital : ∀ d ∈ whole, d.isDigit = true) (partNonempty : part ≠ [])
    (partDigital : ∀ d ∈ part, d.isDigit = true)
    (boundary : ∀ d, rest.head? = some d → d.isDigit = false) :
    Leads .number (whole ++ '.' :: part) rest := by
  refine .of_same_shape (.fraction nonempty digital partNonempty partDigital) ?_
  intro lexeme spelled begins
  rw [List.append_assoc, List.cons_append] at begins
  cases spelled with
  | whole _ otherDigital =>
      have within : lexeme.length ≤ whole.length :=
        run_length_le otherDigital (by rintro _ ⟨⟩; decide) begins
      simp only [List.length_append]
      omega
  | fraction _ otherDigital _ otherPart =>
      obtain ⟨rfl, -, following⟩ := run_unique (p := Char.isDigit) otherDigital digital
        (by decide) (by decide) begins
      have within := run_length_le otherPart boundary following
      simp only [List.length_append, List.length_cons]
      omega

theorem leads_string {body : List Char} (unquoted : quote ∉ body) :
    Leads .string (quote :: body ++ [quote]) rest := by
  refine .of_same_shape (.string unquoted) ?_
  intro lexeme spelled begins
  cases spelled with
  | @string other otherUnquoted =>
      have following : other ++ quote :: [] <+: body ++ quote :: rest := by
        simpa [List.cons_prefix_cons] using begins
      have apart (text : List Char) (unquoted : quote ∉ text) :
          ∀ d ∈ text, (d != quote) = true := by
        intro d member
        simp only [bne_iff_ne]
        rintro rfl
        exact unquoted member
      obtain ⟨rfl, -, -⟩ := run_unique (p := (· != quote)) (apart other otherUnquoted)
        (apart body unquoted) (by simp) (by simp) following
      exact Nat.le_refl _

theorem leads_compound {d : Char} (compound : [c, d] ∈ compoundOperators) :
    Leads .symbol [c, d] rest := by
  have unquoted : [c, d] ≠ [quote] := by simp
  refine .of_same_shape (.symbol (Alphabet.symbol_of_compound compound) unquoted) ?_
  intro lexeme spelled _
  cases spelled with
  | symbol listed =>
      rcases Alphabet.symbol_shape listed with ⟨e, rfl⟩ | other
      · simp
      · obtain ⟨first, second, rfl⟩ := Alphabet.compound_pair other
        exact Nat.le_refl _

theorem leads_single (listed : [c] ∈ symbols) (unquoted : c ≠ quote)
    (alone : ∀ d, rest.head? = some d → [c, d] ∉ compoundOperators) :
    Leads .symbol [c] rest := by
  refine .of_same_shape (.symbol listed (by simpa using unquoted)) ?_
  intro lexeme spelled begins
  cases spelled with
  | symbol otherListed =>
      rcases Alphabet.symbol_shape otherListed with ⟨e, rfl⟩ | compound
      · simp
      · obtain ⟨first, second, rfl⟩ := Alphabet.compound_pair compound
        obtain ⟨rfl, following⟩ := List.cons_prefix_cons.mp begins
        obtain ⟨more, rfl⟩ := following
        exact absurd compound (alone second rfl)

/-- Nothing begins a text whose quote is never closed. -/
theorem stuck_of_open {body : List Char} (unquoted : quote ∉ body) (shape : Shape)
    (text : List Char) (spells : Spells shape text) : ¬ text <+: quote :: body := by
  intro begins
  obtain ⟨d, more, rfl⟩ := List.exists_cons_of_ne_nil spells.ne_nil
  obtain ⟨rfl, following⟩ := List.cons_prefix_cons.mp begins
  obtain rfl : shape = .string := by rw [spells.shape_eq_opening]; rfl
  generalize line : quote :: more = text at spells
  cases spells with
  | string =>
      obtain ⟨-, rfl⟩ := List.cons.inj line
      exact unquoted (following.subset (by simp))

theorem stuck_of_nil (shape : Shape) (text : List Char) (spells : Spells shape text) :
    ¬ text <+: [] := by
  intro begins
  exact spells.ne_nil (List.prefix_nil.mp begins)

end Poco
