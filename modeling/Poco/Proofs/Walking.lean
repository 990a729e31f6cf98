import Poco.Proofs.Counting
import Poco.Proofs.Stepping

namespace Poco

open Glyph (Settled)

namespace Walk

section Outcomes

variable (halted : Bool) (lexeme : Lexeme) (next : Nat)

/-- A lexeme is a token, a blank or an open string, and so is its step. -/
theorem stepOf_cases :
    (∃ token, lexeme.toToken? = some token ∧ lexeme.shape ≠ .blank ∧ lexeme.isOpen = false ∧
      stepOf halted lexeme next = .emit token next) ∨
    (lexeme.toToken? = none ∧ lexeme.shape = .blank ∧ lexeme.isOpen = false ∧
      stepOf halted lexeme next = .skip next) ∨
    (lexeme.toToken? = none ∧ lexeme.shape ≠ .blank ∧ lexeme.isOpen = true ∧
      stepOf halted lexeme next = if halted then .abandon else .fail lexeme.unclosed next) := by
  have silent := lexeme.toToken?_eq_none_iff
  rw [stepOf]
  cases speaks : lexeme.toToken? with
  | some token =>
      have audible : ¬ (lexeme.shape = .blank ∨ lexeme.isOpen = true) := by
        rw [← silent, speaks]
        simp
      exact .inl ⟨token, rfl, mt .inl audible, by simpa using mt .inr audible, rfl⟩
  | none =>
      cases open_ : lexeme.isOpen with
      | false =>
          have blank : lexeme.shape = .blank := by simpa [speaks, open_] using silent
          exact .inr (.inl ⟨rfl, blank, rfl, rfl⟩)
      | true =>
          have visible : lexeme.shape ≠ .blank := by
            intro blank
            rw [Lexeme.isOpen, blank] at open_
            contradiction
          exact .inr (.inr ⟨rfl, visible, rfl, rfl⟩)

theorem token?_stepOf : (stepOf halted lexeme next).token? = lexeme.toToken? := by
  rcases stepOf_cases halted lexeme next with ⟨token, speaks, -, -, step⟩ | ⟨silent, -, -, step⟩ |
    ⟨silent, -, -, step⟩
  · rw [step, speaks]
    rfl
  · rw [step, silent]
    rfl
  · rw [step, silent]
    cases halted <;> rfl

theorem error?_stepOf : (stepOf halted lexeme next).error? =
    if halted then none else if lexeme.isOpen then some lexeme.unclosed else none := by
  rcases stepOf_cases halted lexeme next with ⟨token, -, -, closed, step⟩ | ⟨-, -, closed, step⟩ |
    ⟨-, -, open_, step⟩
  · rw [step, closed]
    simp [Step.error?]
  · rw [step, closed]
    simp [Step.error?]
  · rw [step, open_]
    cases halted <;> rfl

theorem isSkip_stepOf : (stepOf halted lexeme next).isSkip = (lexeme.shape == .blank) := by
  rcases stepOf_cases halted lexeme next with ⟨token, -, visible, -, step⟩ | ⟨-, blank, -, step⟩ |
    ⟨-, visible, -, step⟩
  · rw [step, beq_false_of_ne visible]
    rfl
  · rw [step, blank]
    rfl
  · rw [step, beq_false_of_ne visible]
    cases halted <;> rfl

/-- Only a string that the end of a halted scan leaves open stops a walk. -/
theorem next?_stepOf : (stepOf halted lexeme next).next? =
    if halted ∧ lexeme.isOpen = true then none else some next := by
  rcases stepOf_cases halted lexeme next with ⟨token, -, -, closed, step⟩ | ⟨-, -, closed, step⟩ |
    ⟨-, -, open_, step⟩
  · rw [step, closed]
    simp [Step.next?]
  · rw [step, closed]
    simp [Step.next?]
  · rw [step, open_]
    cases halted <;> rfl

end Outcomes

/-- The steps that read `lexemes` from `cursor` on. -/
def stepsFrom (halted : Bool) (cursor : Nat) : List Lexeme → List Step
  | [] => []
  | lexeme :: rest =>
      stepOf halted lexeme (cursor + lexeme.glyphs.length) ::
        stepsFrom halted (cursor + lexeme.glyphs.length) rest

section Traces

variable (halted : Bool) (cursor : Nat) (lexemes : List Lexeme)

theorem tokens_stepsFrom :
    (stepsFrom halted cursor lexemes).filterMap Step.token? =
      lexemes.filterMap Lexeme.toToken? := by
  induction lexemes generalizing cursor with
  | nil => rfl
  | cons lexeme rest ih =>
      rw [stepsFrom, List.filterMap_cons, List.filterMap_cons, token?_stepOf, ih]

theorem errors_stepsFrom :
    (stepsFrom halted cursor lexemes).filterMap Step.error? = Lexeme.errors halted lexemes := by
  rw [Lexeme.errors_eq]
  induction lexemes generalizing cursor with
  | nil => cases halted <;> rfl
  | cons lexeme rest ih =>
      rw [stepsFrom, List.filterMap_cons, error?_stepOf, ih]
      cases halted with
      | true => rfl
      | false => cases open_ : lexeme.isOpen <;> simp [open_]

theorem skips_stepsFrom :
    (stepsFrom halted cursor lexemes).countP Step.isSkip =
      (lexemes.filter (fun lexeme => lexeme.shape == .blank)).length := by
  rw [← List.countP_eq_length_filter]
  induction lexemes generalizing cursor with
  | nil => rfl
  | cons lexeme rest ih =>
      rw [stepsFrom, List.countP_cons, List.countP_cons, isSkip_stepOf, ih]

end Traces

variable {chars : Array Glyph} {halted : Bool} {cursor : Nat}

/-- From every cursor a step reads on, and not past the characters. -/
theorem step_advances (settled : Settled chars.toList) (halted : Bool)
    (within : cursor < chars.size) :
    ∃ step, Walk.step chars halted cursor = .ok step ∧
      ∀ next, step.next? = some next → cursor < next ∧ next ≤ chars.size := by
  cases remaining : chars.toList.drop cursor with
  | nil =>
      have past := List.drop_eq_nil_iff.mp remaining
      rw [Array.length_toList] at past
      omega
  | cons first tail =>
      have later := settled.sublist (remaining ▸ List.drop_sublist cursor chars.toList)
      refine ⟨_, step_eq later remaining halted, ?_⟩
      intro next goesTo
      rw [next?_stepOf] at goesTo
      split at goesTo
      · contradiction
      · obtain rfl := Option.some.inj goesTo
        have lengths := congrArg List.length (Lexeme.read_glyphs first tail)
        simp only [Lexeme.glyphs, List.length_append, List.length_cons] at lengths ⊢
        have size := size_eq remaining
        omega

theorem eq_abandon {step : Step} (stays : step.next? = none) : step = .abandon := by
  cases step with
  | abandon => rfl
  | _ => contradiction

theorem lt_size_of_step {step : Step} (taken : Walk.step chars halted cursor = .ok step) :
    cursor < chars.size := by
  by_contra past
  have nothing : chars[cursor]? = none := by simpa using past
  simp only [Walk.step, charAt, nothing] at taken
  contradiction

end Walk

namespace Walks

open Walk

variable {chars : Array Glyph} {halted : Bool} {cursor : Nat} {steps : List Walk.Step}

/-- As every step gets on, a walk has no more steps than there are characters. -/
theorem length_le (walks : Walks halted chars cursor steps) (settled : Settled chars.toList) :
    steps.length ≤ chars.size - cursor := by
  induction walks with
  | ends => exact Nat.zero_le _
  | abandons taken =>
      have within := lt_size_of_step taken
      simp only [List.length_singleton]
      omega
  | @goesOn cursor next step steps taken goesTo rest ih =>
      obtain ⟨step', taken', bounds⟩ := step_advances settled halted (lt_size_of_step taken)
      obtain rfl : step = step' := Except.ok.inj (taken.symm.trans taken')
      obtain ⟨later, within⟩ := bounds next goesTo
      simp only [List.length_cons]
      omega

/-- The walk along settled characters takes the steps that read their lexemes. -/
theorem reads {cursor : Nat} {glyphs : List Glyph} (halted : Bool) (settled : Settled glyphs)
    (remaining : chars.toList.drop cursor = glyphs) :
    Walks halted chars cursor (stepsFrom halted cursor (Lexeme.ofGlyphs glyphs)) := by
  match glyphs with
  | [] =>
      have past := List.drop_eq_nil_iff.mp remaining
      rw [Array.length_toList] at past
      rw [Lexeme.ofGlyphs_nil]
      exact .ends past
  | first :: tail =>
      have splits := Lexeme.read_glyphs first tail
      have taken := step_eq settled remaining halted
      have goesTo := next?_stepOf halted (Lexeme.read first tail).1
        (cursor + (Lexeme.read first tail).1.glyphs.length)
      rw [Lexeme.ofGlyphs_cons, stepsFrom]
      by_cases cut : halted ∧ (Lexeme.read first tail).1.isOpen = true
      · rw [if_pos cut] at goesTo
        rcases Lexeme.read_cases settled.genuine with leading | ⟨-, -, read⟩
        · rw [Lexeme.isOpen_of_spells leading.spells] at cut
          exact absurd cut.2 Bool.false_ne_true
        · -- An open string has taken all the rest, so nothing is left of the walk.
          have nothing : (Lexeme.read first tail).2 = [] := by rw [read]
          rw [eq_abandon goesTo] at taken ⊢
          rw [nothing, Lexeme.ofGlyphs_nil]
          exact .abandons taken
      · rw [if_neg cut] at goesTo
        have later := settled.sublist (splits ▸ List.sublist_append_right _ _)
        exact .goesOn taken goesTo (reads halted later (drop_add (remaining.trans splits.symm)))
termination_by glyphs.length
decreasing_by exact Lexeme.read_shorter first tail

end Walks

/-- A walk along what a scan keeps, none of whose steps goes wrong, gives what `run` does. -/
structure Run.WalkedBy (run : Run) (scan : Scan) (steps : List Walk.Step) : Prop where
  /-- Also from a cursor that the walk itself does not come to. -/
  advances : ∀ cursor < scan.kept.size,
    ∃ step, Walk.step scan.kept scan.halted cursor = .ok step ∧
      ∀ next, step.next? = some next → cursor < next ∧ next ≤ scan.kept.size
  walks : Walks scan.halted scan.kept 0 steps
  ends : steps.length ≤ scan.kept.size
  tokens : run.tokens = steps.filterMap (·.token?)
  diagnostics : run.diagnostics =
    (scan.rejected.toList ++ steps.filterMap (·.error?)).map (·.diagnostic)
  blanks : run.metrics.whitespaceSkipped = steps.countP (·.isSkip)

theorem Run.walkedBy_whole (preferences : LexicalPreferences) {source : List Char}
    (short : source.length ≤ UInt32.size - 2) :
    (whole preferences source).WalkedBy (Scan.whole preferences.recoveryPolicy source)
      (Walk.stepsFrom (Scan.whole preferences.recoveryPolicy source).halted 0
        (Lexeme.ofSource preferences.recoveryPolicy source)) := by
  have settled : Settled (Scan.whole preferences.recoveryPolicy source).kept.toList :=
    Glyph.settled_keptGlyphs preferences.recoveryPolicy short
  have walks := Walks.reads (Scan.whole preferences.recoveryPolicy source).halted settled
    List.drop_zero
  constructor
  · exact fun cursor within => Walk.step_advances settled _ within
  · exact walks
  · exact walks.length_le settled
  · exact (Walk.tokens_stepsFrom ..).symm
  · rw [Walk.errors_stepsFrom]
    rfl
  · rw [Walk.skips_stepsFrom, metrics_whole]
    simp only [Metrics.always_foldl]

theorem tokenize_never_missteps (preferences : LexicalPreferences) (source : String)
    (short : source.length ≤ UInt32.size - 2) :
    ∃ run scan steps, tokenize preferences source = .ok run ∧
      Scan.ofSource preferences.recoveryPolicy source.toList = .ok scan ∧
      scan.kept.size ≤ source.length ∧ run.WalkedBy scan steps := by
  have ran := tokenize_eq preferences short
  rw [← String.length_toList] at short ⊢
  exact ⟨_, _, _, ran, Scan.ofSource_eq _ short, Scan.size_kept_le .., Run.walkedBy_whole _ short⟩

theorem tokenize_never_missteps_cut_off :
    "let x=1.5>= 'y@'".length ≤ UInt32.size - 2 ∧
      ∃ run scan steps, tokenize { recoveryPolicy := .halt } "let x=1.5>= 'y@'" = .ok run ∧
        Scan.ofSource .halt "let x=1.5>= 'y@'".toList = .ok scan ∧
        scan.kept.size ≤ "let x=1.5>= 'y@'".length ∧ run.WalkedBy scan steps :=
  ⟨by decide, tokenize_never_missteps { recoveryPolicy := .halt } "let x=1.5>= 'y@'" (by decide)⟩

end Poco
