import Poco.Proofs.Events

namespace Poco

/-- The value is the last one given under the key. -/
def GivenLast (facts : List (String × String)) (key value : String) : Prop :=
  ∃ before behind, facts = before ++ (key, value) :: behind ∧ key ∉ behind.map (·.1)

theorem lookup_reverse_of_givenLast {facts : List (String × String)} {key value : String}
    (given : GivenLast facts key value) : facts.reverse.lookup key = some value := by
  obtain ⟨before, behind, rfl, last⟩ := given
  have absent : behind.reverse.lookup key = none :=
    lookup_eq_none_of_not_mem (by rwa [List.map_reverse, List.mem_reverse])
  simp [List.lookup_append, absent]

theorem isSome_lookup_iff (facts : List (String × String)) (key : String) :
    (facts.lookup key).isSome ↔ key ∈ facts.map (·.1) := by
  rw [List.lookup_isSome_iff, List.mem_map]
  simp only [beq_iff_eq, @eq_comm _ key]

/-- Events that are logged now carry `name` as their source. -/
def Journal.Attaches (journal : Journal) (name : String) : Prop :=
  journal.preferences.includeSource = true ∧ journal.source = some name

theorem Journal.attachedSource_eq_some_iff (journal : Journal) (name : String) :
    journal.attachedSource = some name ↔ journal.Attaches name := by
  rw [attachedSource, Attaches]
  cases journal.preferences.includeSource <;> simp

theorem Journal.attachedSource_eq_none_iff (journal : Journal) :
    journal.attachedSource = none ↔ ∀ name, ¬ journal.Attaches name := by
  rw [Option.eq_none_iff_forall_ne_some]
  exact forall_congr' fun name => not_congr (journal.attachedSource_eq_some_iff name)

/-- The event is what becomes of the entry in the journal. -/
structure Event.Keeps (event : Event) (journal : Journal) (entry : Entry) : Prop where
  level : event.level = entry.level
  code : event.code = entry.code
  span : event.span = entry.span
  message : CutTo journal.limits.maxMessageLength entry.message event.message
  messageFits : event.message.length ≤ journal.limits.maxMessageLength
  /-- Only a limit below the three dots is overrun, by them. -/
  valuesFit : ∀ key value, event.context.find? key = some value →
    value.length ≤ max journal.limits.maxContextValueLength 3
  keys : ∀ key, (event.context.find? key).isSome ↔
    key ∈ entry.context.map (·.1) ∨ key = sourceKey ∧ ∃ name, journal.Attaches name
  source : ∀ name, journal.Attaches name →
    ∃ stored, event.context.find? sourceKey = some stored ∧
      CutTo journal.limits.maxContextValueLength name stored
  values : ∀ key value, GivenLast entry.context key value →
    (key = sourceKey → ∀ name, ¬ journal.Attaches name) →
    ∃ stored, event.context.find? key = some stored ∧
      CutTo journal.limits.maxContextValueLength value stored

namespace Entry

variable (entry : Entry) {source : Option String} {key value : String}

theorem keys_facts (source : Option String) (key : String) :
    key ∈ (entry.facts source).map (·.1) ↔
      key ∈ entry.context.map (·.1) ∨ key = Event.sourceKey ∧ source.isSome := by
  rw [facts, List.map_append, List.mem_append]
  cases source <;> simp

theorem givenLast_source (name : String) :
    GivenLast (entry.facts (some name)) Event.sourceKey name :=
  ⟨entry.context, [], rfl, List.not_mem_nil⟩

/-- The name of the source stands behind all else, and is mistaken for nothing else. -/
theorem givenLast_facts (given : GivenLast entry.context key value)
    (apart : key = Event.sourceKey → source = none) : GivenLast (entry.facts source) key value := by
  obtain ⟨before, behind, split, last⟩ := given
  refine ⟨before, behind ++ (source.map (Event.sourceKey, ·)).toList, ?_, ?_⟩
  · rw [facts, split, List.append_assoc, List.cons_append]
  · rw [List.map_append, List.mem_append]
    rintro (later | named)
    · exact last later
    · cases source with
      | none => simp at named
      | some name =>
          have same : key = Event.sourceKey := by simpa using named
          exact absurd (apart same) (by simp)

/-- The last value given under a key is stored there, cut to the limit. -/
theorem stores_last (limits : LogLimits) (given : GivenLast (entry.facts source) key value) :
    ∃ stored, (entry.event limits source).context.find? key = some stored ∧
      CutTo limits.maxContextValueLength value stored := by
  refine ⟨_, ?_, cutTo_truncate limits.maxContextValueLength value⟩
  rw [find?_event, lookup_reverse_of_givenLast given, Option.map_some]

theorem keeps_event (journal : Journal) :
    (entry.event journal.limits journal.attachedSource).Keeps journal entry := by
  obtain ⟨level, code, message, span⟩ := entry.event_frame journal.limits journal.attachedSource
  have cut : CutTo journal.limits.maxMessageLength entry.message
      (entry.event journal.limits journal.attachedSource).message :=
    message ▸ cutTo_truncate _ entry.message
  have roomy : max journal.limits.maxMessageLength 3 = journal.limits.maxMessageLength :=
    Nat.max_eq_left (Nat.le_trans (by decide) journal.limits.messageRoom)
  refine ⟨level, code, span, cut, roomy ▸ cut.length_le, ?_, ?_, ?_, ?_⟩
  · intro key value found
    rw [find?_event, Option.map_eq_some_iff] at found
    obtain ⟨given, -, rfl⟩ := found
    exact (cutTo_truncate _ given).length_le
  · intro key
    rw [find?_event, Option.isSome_map, isSome_lookup_iff, List.map_reverse, List.mem_reverse,
      keys_facts, Option.isSome_iff_exists]
    simp only [journal.attachedSource_eq_some_iff]
  · intro name attached
    rw [← journal.attachedSource_eq_some_iff] at attached
    rw [attached]
    exact entry.stores_last journal.limits (entry.givenLast_source name)
  · intro key value given apart
    refine entry.stores_last journal.limits (entry.givenLast_facts given fun same => ?_)
    exact journal.attachedSource_eq_none_iff.mpr (apart same)

end Entry

/-- What is logged becomes an event that keeps it, within the limits. -/
theorem logged_events_keep_entries (journal : Journal) (entry : Entry) :
    Build.development.log.maxMessageLength = 4096 ∧
      Build.development.log.maxContextValueLength = 256 ∧
      ∃ event, (journal.log entry).events = journal.events.push event ∧
        event.Keeps journal entry :=
  ⟨rfl, rfl, _, rfl, entry.keeps_event journal⟩

end Poco
