import Poco.Proofs.Sessions

namespace Poco

namespace Run

/-- The run over `source` as far as the policy settles it. -/
def under (policy : RecoveryPolicy) (source : String) : Run :=
  whole { recoveryPolicy := policy } source.toList

variable {policy : RecoveryPolicy} {preferences : LexicalPreferences}
  (held : preferences.recoveryPolicy = policy) (source : String)

include held

theorem tokens_whole_under :
    (whole preferences source.toList).tokens = (under policy source).tokens := by
  rw [under, tokens_whole, tokens_whole, held]

theorem diagnostics_whole_under :
    (whole preferences source.toList).diagnostics = (under policy source).diagnostics := by
  simp only [under, whole, held]

end Run

namespace Session

variable {σ : Type} [Recorder σ]

/-- What happens to a session: a run, or an append by its caller. -/
inductive Action where
  | run (source : String)
  | append (diagnostic : Diagnostic)

def Action.source? : Action → Option String
  | .run source => some source
  | .append _ => none

/-- Act after act; the answers are the tokens of the runs. -/
def performAll (session : Session σ) :
    List Action → Except Fault (List (List Token) × Session σ)
  | [] => .ok ([], session)
  | .append diagnostic :: later => (session.append diagnostic).performAll later
  | .run source :: later => do
      let (tokens, session) ← session.run source
      let (answers, session) ← session.performAll later
      .ok (tokens :: answers, session)

/-- What a tokenizer gives that has not run before, with a record that is empty. -/
def GivesAfresh (preferences : LexicalPreferences) (source : String) (tokens : List Token)
    (diagnostics : List Diagnostic) (metrics : Metrics) : Prop :=
  ∀ (σ : Type) [Recorder σ] (record : σ) (journal : Journal), Recorder.entries record = [] →
    ∃ after,
      run { tokenizer := { preferences }, record, journal } source = .ok (tokens, after) ∧
      Recorder.entries after.record = diagnostics ∧ after.tokenizer.metrics = metrics

/-- What actions answer and append when every run is by itself. -/
inductive Apart (policy : RecoveryPolicy) :
    List Action → List (List Token) → List Diagnostic → Prop
  | nil : Apart policy [] [] []
  | append {later answers appended} (diagnostic : Diagnostic)
      (next : Apart policy later answers appended) :
      Apart policy (.append diagnostic :: later) answers (diagnostic :: appended)
  | run {later answers appended source tokens diagnostics}
      (fresh : ∀ preferences, preferences.recoveryPolicy = policy →
        ∃ metrics, GivesAfresh preferences source tokens diagnostics metrics)
      (next : Apart policy later answers appended) :
      Apart policy (.run source :: later) (tokens :: answers) (diagnostics ++ appended)

/-- How a session stands after `actions` that have appended `appended`. -/
structure Continues (session : Session σ) (actions : List Action) (appended : List Diagnostic)
    (after : Session σ) : Prop where
  preferences : after.preferences = session.preferences
  record : Recorder.entries after.record = Recorder.entries session.record ++ appended
  /-- The metrics are those of the last run alone. -/
  metrics : match (actions.filterMap Action.source?).getLast? with
    | none => after.tokenizer.metrics = session.tokenizer.metrics
    | some source => ∃ tokens diagnostics,
        GivesAfresh session.preferences source tokens diagnostics after.tokenizer.metrics

section Run

variable {source : String} (short : source.length ≤ UInt32.size - 2) {policy : RecoveryPolicy}

include short

/-- What a run gives hangs on the policy alone, except for its metrics. -/
theorem run_under (session : Session σ)
    (held : session.preferences.recoveryPolicy = policy) :
    ∃ after, session.run source = .ok ((Run.under policy source).tokens, after) ∧
      after.preferences = session.preferences ∧
      Recorder.entries after.record =
        Recorder.entries session.record ++ (Run.under policy source).diagnostics ∧
      after.tokenizer.metrics = (Run.whole session.preferences source.toList).metrics := by
  have ran := run_eq session short
  dsimp only at ran
  rw [Run.tokens_whole_under held] at ran
  refine ⟨_, ran, rfl, ?_, rfl⟩
  rw [Recorder.entries_appendAll, Run.diagnostics_whole_under held]

theorem givesAfresh_under {preferences : LexicalPreferences}
    (held : preferences.recoveryPolicy = policy) :
    GivesAfresh preferences source (Run.under policy source).tokens
      (Run.under policy source).diagnostics (Run.whole preferences source.toList).metrics := by
  intro σ _ record journal empty
  obtain ⟨after, ran, -, recorded, counted⟩ :=
    run_under short { tokenizer := { preferences }, record, journal } held
  rw [empty, List.nil_append] at recorded
  exact ⟨after, ran, recorded, counted⟩

/-- A run adds its diagnostics to the record and leaves its own metrics. -/
theorem continues_run (session : Session σ)
    (held : session.preferences.recoveryPolicy = policy) :
    ∃ after, session.run source = .ok ((Run.under policy source).tokens, after) ∧
      session.Continues [.run source] (Run.under policy source).diagnostics after := by
  obtain ⟨after, ran, same, recorded, counted⟩ := run_under short session held
  have fresh := givesAfresh_under short held
  rw [← counted] at fresh
  exact ⟨after, ran, same, recorded, _, _, fresh⟩

end Run

theorem continues_append (session : Session σ) (diagnostic : Diagnostic) :
    session.Continues [.append diagnostic] [diagnostic] (session.append diagnostic) where
  preferences := rfl
  record := Recorder.entries_append _ _
  metrics := rfl

theorem Continues.refl (session : Session σ) : session.Continues [] [] session where
  preferences := rfl
  record := (List.append_nil _).symm
  metrics := rfl

/-- A later run wipes out the metrics of an earlier one. -/
theorem Continues.trans {session between after : Session σ} {earlier later : List Action}
    {first second : List Diagnostic} (before : session.Continues earlier first between)
    (behind : between.Continues later second after) :
    session.Continues (earlier ++ later) (first ++ second) after where
  preferences := behind.preferences.trans before.preferences
  record := by rw [behind.record, before.record, List.append_assoc]
  metrics := by
    have counted := behind.metrics
    rw [before.preferences] at counted
    rw [List.filterMap_append, List.getLast?_append]
    cases last : (later.filterMap Action.source?).getLast? with
    | none =>
        rw [last] at counted
        rw [Option.none_or, counted]
        exact before.metrics
    | some source =>
        rw [last] at counted
        exact counted

end Session

theorem session_runs_stay_apart (policy : RecoveryPolicy) (actions : List Session.Action)
    (short : ∀ source, .run source ∈ actions → source.length ≤ UInt32.size - 2) :
    ∃ answers appended, Session.Apart policy actions answers appended ∧
      ∀ (σ : Type) [Recorder σ] (session : Session σ),
        session.preferences.recoveryPolicy = policy →
          ∃ after, session.performAll actions = .ok (answers, after) ∧
            session.Continues actions appended after := by
  -- Answers and appends are fixed before the session is, so none of its state is in them.
  induction actions with
  | nil => exact ⟨[], [], .nil, fun _ _ session _ => ⟨session, rfl, .refl session⟩⟩
  | cons action later ih =>
      obtain ⟨answers, appended, apart, performs⟩ :=
        ih fun source member => short source (List.mem_cons_of_mem _ member)
      cases action with
      | append diagnostic =>
          refine ⟨answers, diagnostic :: appended, .append diagnostic apart, ?_⟩
          intro σ _ session held
          obtain ⟨after, performed, continues⟩ := performs σ (session.append diagnostic) held
          exact ⟨after, performed, (session.continues_append diagnostic).trans continues⟩
      | run source =>
          have sourceShort := short source (List.mem_cons_self ..)
          refine ⟨(Run.under policy source).tokens :: answers,
            (Run.under policy source).diagnostics ++ appended, .run ?_ apart, ?_⟩
          · intro preferences held
            exact ⟨_, Session.givesAfresh_under sourceShort held⟩
          · intro σ _ session held
            obtain ⟨between, ran, first⟩ := Session.continues_run sourceShort session held
            obtain ⟨after, performed, second⟩ :=
              performs σ between (first.preferences ▸ held)
            refine ⟨after, ?_, first.trans second⟩
            simp only [Session.performAll, ran, performed, bind, Except.bind]

theorem session_runs_stay_apart_mixed :
    let actions : List Session.Action :=
      [.run "let a = 'é@b", .append (.log "note" 1 4), .run "1.5 >= x@", .run "@"]
    (∀ source, .run source ∈ actions → source.length ≤ UInt32.size - 2) ∧
      ∃ answers appended, Session.Apart .halt actions answers appended ∧
        ∀ (σ : Type) [Recorder σ] (session : Session σ),
          session.preferences.recoveryPolicy = .halt →
            ∃ after, session.performAll actions = .ok (answers, after) ∧
              session.Continues actions appended after := by
  intro actions
  have short : ∀ source, .run source ∈ actions → source.length ≤ UInt32.size - 2 := by
    simp only [actions, List.mem_cons, List.not_mem_nil, Session.Action.run.injEq, reduceCtorEq,
      or_false, false_or, forall_eq_or_imp, forall_eq]
    decide
  exact ⟨short, session_runs_stay_apart .halt actions short⟩

end Poco
