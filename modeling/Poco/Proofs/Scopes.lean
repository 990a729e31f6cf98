import Mathlib.Data.List.Forall2
import Poco.Log.Script
import Poco.Proofs.EventContents
import Poco.Proofs.Sessions

namespace Poco

/-! The source in force is kept in a state that a block sets and resets.  It comes
to the same as if every step were told its source: a block tells the steps
inside it its own name, and to the steps behind it passes on what it was told. -/

/-- A block gives what its body gives, and brings back the source from before it. -/
theorem Logged.run_withSource {α : Type} (name : String) (body : Logged α) (journal : Journal) :
    (Logged.withSource name body).run journal =
      let (result, after) := body.run (journal.setSource (some name))
      (result, after.setSource journal.source) :=
  rfl

theorem Journal.logAll_frame (journal : Journal) (entries : List Entry) :
    journal.logAll entries = { journal with events := (journal.logAll entries).events } := by
  induction entries generalizing journal with
  | nil => rfl
  | cons entry rest ih => exact ih (journal.log entry)

namespace Step

/-- The source in force behind a step. -/
def after (source : Option String) : Step → Option String
  | .setSource name => some name
  | .clearSource => none
  | .log _ | .logDetached _ | .block _ _ => source

variable (limits : LogLimits) (preferences : LoggingPreferences)

mutual

/-- What shows after the steps inside a step and after the step itself. -/
def shown (source : Option String) : Step → List Moment
  | .setSource name => [{ source := some name, events := [] }]
  | .clearSource => [{ source := none, events := [] }]
  | .log entries =>
      [{ source
         events := entries.map
          (·.event limits { limits, preferences, source : Journal }.attachedSource) }]
  | .logDetached entry => [{ source, events := [entry.event limits none] }]
  | .block name steps => shownAll (some name) steps ++ [{ source, events := [] }]

def shownAll (source : Option String) : List Step → List Moment
  | [] => []
  | step :: rest => shown source step ++ shownAll (after source step) rest

end

mutual

theorem run_play (source : Option String) (step : Step) :
    step.play.run { limits, preferences, source } =
      (step.shown limits preferences source,
        { limits, preferences, source := step.after source }) := by
  match step with
  | .setSource name => rfl
  | .clearSource => rfl
  | .log entries =>
      let journal : Journal := { limits, preferences, source }
      have frame := journal.logAll_frame entries
      have logged := journal.events_logAll entries
      change ([Moment.mk (journal.logAll entries).source (journal.logAll entries).events.toList],
        { journal.logAll entries with events := #[] }) = _
      rw [logged, frame]
      rfl
  | .logDetached entry => rfl
  | .block name steps =>
      -- The steps inside begin with the block's name, and what they leave in force is dropped.
      have inside := run_playAll (some name) steps
      rw [play, StateT.run_bind, Logged.run_withSource, Journal.setSource, inside]
      rfl

theorem run_playAll (source : Option String) (steps : List Step) :
    (playAll steps).run { limits, preferences, source } =
      (shownAll limits preferences source steps,
        { limits, preferences, source := steps.foldl after source }) := by
  match steps with
  | [] => rfl
  | step :: rest =>
      have first := run_play source step
      have others := run_playAll (step.after source) rest
      rw [playAll, StateT.run_bind, first]
      change (playAll rest >>= _).run _ = _
      rw [StateT.run_bind, others]
      rfl

end

/-- Playing the steps with `source` in force comes to a block, and enters it with `entered` in
force. -/
inductive Enters (name : String) (body : List Step) :
    Option String → List Step → Option String → Prop
  | here {source : Option String} {rest : List Step} :
      Enters name body source (.block name body :: rest) source
  | later {source entered : Option String} {step : Step} {rest : List Step}
      (behind : Enters name body (step.after source) rest entered) :
      Enters name body source (step :: rest) entered
  | inside {source entered : Option String} {outer : String} {steps rest : List Step}
      (within : Enters name body (some outer) steps entered) :
      Enters name body source (.block outer steps :: rest) entered

/-- What a block shows is a part of what the program shows. -/
theorem Enters.shown {name : String} {body steps : List Step} {source entered : Option String}
    (enters : Enters name body source steps entered) :
    (Step.block name body).shown limits preferences entered <:+:
      shownAll limits preferences source steps := by
  induction enters with
  | here =>
      rw [shownAll]
      exact (List.prefix_append _ _).isInfix
  | later behind ih =>
      rw [shownAll]
      exact ih.trans (List.suffix_append _ _).isInfix
  | @inside source entered outer steps rest within ih =>
      have inner : shownAll limits preferences (some outer) steps <:+:
          (Step.block outer steps).shown limits preferences source := by
        rw [Step.shown]
        exact (List.prefix_append _ _).isInfix
      rw [shownAll]
      exact (ih.trans inner).trans (List.prefix_append _ _).isInfix

end Step

/-- A call that logs, with the names of the blocks around it, the innermost first. -/
structure Call where
  entry : Entry
  around : List String
  /-- The call goes without the source. -/
  detached : Bool := false

namespace Call

def event (call : Call) (limits : LogLimits) : Event :=
  call.entry.event limits (if call.detached then none else call.around.head?)

/-- The event is that of the call, and unless the call is detached it carries the name of the
innermost block around the call. -/
structure LoggedAs (limits : LogLimits) (call : Call) (event : Event) : Prop where
  made : event = call.event limits
  carries : call.detached = false → ∃ name outer stored, call.around = name :: outer ∧
    event.context.find? Event.sourceKey = some stored ∧
    CutTo limits.maxContextValueLength name stored

theorem loggedAs_event (limits : LogLimits) {call : Call} {name : String} {outer : List String}
    (within : call.around = name :: outer) : call.LoggedAs limits (call.event limits) := by
  refine ⟨rfl, fun attached => ?_⟩
  have named : call.event limits = call.entry.event limits (some name) := by
    rw [event, attached, within]
    rfl
  obtain ⟨stored, found, cut⟩ :=
    call.entry.stores_last limits (call.entry.givenLast_source name)
  exact ⟨name, outer, stored, within, named ▸ found, cut⟩

end Call

namespace Step

mutual

/-- No source is set or cleared but by blocks. -/
def isBlockwise : Step → Bool
  | .setSource _ | .clearSource => false
  | .log _ | .logDetached _ => true
  | .block _ steps => allBlockwise steps

def allBlockwise : List Step → Bool
  | [] => true
  | step :: rest => isBlockwise step && allBlockwise rest

end

mutual

/-- The calls in a step, in order. -/
def calls (around : List String) : Step → List Call
  | .setSource _ | .clearSource => []
  | .log entries => entries.map fun entry => { entry, around }
  | .logDetached entry => [{ entry, around, detached := true }]
  | .block name steps => callsAll (name :: around) steps

def callsAll (around : List String) : List Step → List Call
  | [] => []
  | step :: rest => calls around step ++ callsAll around rest

end

theorem after_of_isBlockwise {step : Step} (blockwise : step.isBlockwise = true)
    (source : Option String) : step.after source = source := by
  cases step with
  | setSource name => simp [isBlockwise] at blockwise
  | clearSource => simp [isBlockwise] at blockwise
  | log entries => rfl
  | logDetached entry => rfl
  | block name steps => rfl

mutual

theorem events_shown {limits : LogLimits} {preferences : LoggingPreferences} {name : String}
    {around : List String} (includes : preferences.includeSource = true) (step : Step)
    (blockwise : step.isBlockwise = true) :
    (step.shown limits preferences (some name)).flatMap (·.events) =
      (step.calls (name :: around)).map (·.event limits) := by
  match step with
  | .log entries => simp [shown, calls, Call.event, Journal.attachedSource, includes]
  | .logDetached entry => rfl
  | .block inner steps =>
      rw [isBlockwise] at blockwise
      rw [shown, calls, List.flatMap_append, events_shownAll includes steps blockwise]
      exact List.append_nil _

/-- Where only blocks name sources, the source in force is the innermost block's. -/
theorem events_shownAll {limits : LogLimits} {preferences : LoggingPreferences} {name : String}
    {around : List String} (includes : preferences.includeSource = true) (steps : List Step)
    (blockwise : allBlockwise steps = true) :
    (shownAll limits preferences (some name) steps).flatMap (·.events) =
      (callsAll (name :: around) steps).map (·.event limits) := by
  match steps with
  | [] => rfl
  | step :: rest =>
      rw [allBlockwise, Bool.and_eq_true] at blockwise
      rw [shownAll, callsAll, List.flatMap_append, List.map_append,
        after_of_isBlockwise blockwise.1, events_shown includes step blockwise.1,
        events_shownAll includes rest blockwise.2]

end

mutual

theorem around_of_mem_calls {name : String} {around : List String} {step : Step} {call : Call}
    (member : call ∈ step.calls (name :: around)) :
    ∃ inner outer, call.around = inner :: outer := by
  match step with
  | .setSource _ => simp [calls] at member
  | .clearSource => simp [calls] at member
  | .log entries =>
      rw [calls, List.mem_map] at member
      obtain ⟨entry, -, rfl⟩ := member
      exact ⟨name, around, rfl⟩
  | .logDetached entry =>
      rw [calls, List.mem_singleton] at member
      exact ⟨name, around, by rw [member]⟩
  | .block inner steps =>
      rw [calls] at member
      exact around_of_mem_callsAll member

theorem around_of_mem_callsAll {name : String} {around : List String} {steps : List Step}
    {call : Call}
    (member : call ∈ callsAll (name :: around) steps) :
    ∃ inner outer, call.around = inner :: outer := by
  match steps with
  | [] => simp [callsAll] at member
  | step :: rest =>
      rw [callsAll, List.mem_append] at member
      rcases member with here | later
      · exact around_of_mem_calls here
      · exact around_of_mem_callsAll later

end

end Step

/-- A block gives what its body gives and brings back the source from before it, wherever it
stands; and where only blocks name sources, every event inside carries the innermost one's name. -/
theorem blocks_scope_sources :
    (∀ {α : Type} (name : String) (body : Logged α) (journal : Journal),
      (Logged.withSource name body).run journal =
        let (result, after) := body.run (journal.setSource (some name))
        (result, after.setSource journal.source)) ∧
    ∀ (limits : LogLimits) (preferences : LoggingPreferences) (source : Option String)
      (steps : List Step),
      let (moments, journal) := (Step.playAll steps).run { limits, preferences, source }
      moments = Step.shownAll limits preferences source steps ∧
      journal = { limits, preferences, source := steps.foldl Step.after source } ∧
      ∀ name body entered, Step.Enters name body source steps entered →
        let inside := Step.shownAll limits preferences (some name) body
        inside ++ [{ source := entered, events := [] }] <:+: moments ∧
        (preferences.includeSource = true → Step.allBlockwise body = true →
          List.Forall₂ (Call.LoggedAs limits) (Step.callsAll [name] body)
            (inside.flatMap (·.events))) := by
  refine ⟨Logged.run_withSource, fun limits preferences source steps => ?_⟩
  rw [Step.run_playAll]
  refine ⟨rfl, rfl, fun name body entered enters => ?_⟩
  have part := enters.shown limits preferences
  rw [Step.shown] at part
  refine ⟨part, fun includes blockwise => ?_⟩
  rw [Step.events_shownAll includes body blockwise, List.forall₂_map_right_iff, List.forall₂_same]
  intro call member
  obtain ⟨inner, outer, within⟩ := Step.around_of_mem_callsAll member
  exact Call.loggedAs_event limits within

theorem blocks_scope_sources_nested :
    let entry := Entry.info "read"
    let body : List Step :=
      [.log [entry], .block "d.poco" [.log [entry], .logDetached entry], .log [entry]]
    let steps : List Step :=
      [.setSource "a.poco", .block "b.poco" [.log [entry], .block "c.poco" body]]
    let limits := Build.production.log
    let preferences : LoggingPreferences := {}
    Step.Enters "c.poco" body none steps (some "b.poco") ∧ preferences.includeSource = true ∧
      Step.allBlockwise body = true ∧
      (Step.callsAll ["c.poco"] body).map (·.around) =
        [["c.poco"], ["d.poco", "c.poco"], ["d.poco", "c.poco"], ["c.poco"]] ∧
      let (moments, journal) := (Step.playAll steps).run { limits, preferences }
      let inside := Step.shownAll limits preferences (some "c.poco") body
      journal.source = some "a.poco" ∧
      inside ++ [{ source := some "b.poco", events := [] }] <:+: moments ∧
      List.Forall₂ (Call.LoggedAs limits) (Step.callsAll ["c.poco"] body)
        (inside.flatMap (·.events)) := by
  intro entry body steps limits preferences
  have enters : Step.Enters "c.poco" body none steps (some "b.poco") :=
    .later (.inside (.later .here))
  have played := blocks_scope_sources.2 limits preferences none steps
  rw [Step.run_playAll] at played ⊢
  obtain ⟨part, carried⟩ := played.2.2 "c.poco" body (some "b.poco") enters
  exact ⟨enters, rfl, rfl, rfl, rfl, part, carried rfl rfl⟩

/-- Blocks bring back what was in force before them, even where nothing was. -/
example :
    ((Step.playAll
        [.block "a" [.clearSource, .block "b" [.setSource "c"]], .setSource "d",
          .block "e" []]).run {}).1.map (·.source) =
      [none, some "c", none, none, some "d", some "d"] :=
  rfl

end Poco
