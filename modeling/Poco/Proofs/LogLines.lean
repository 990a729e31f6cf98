import Mathlib.Data.List.Nodup
import Poco.Proofs.Events
import Poco.Proofs.JsonText

namespace Poco

theorem Dictionary.find?_ofList_of_nodup {α : Type} {entries : List (String × α)}
    (distinct : (entries.map (·.1)).Nodup) (key : String) :
    (ofList entries).find? key = entries.lookup key := by
  rw [find?_ofList, lookup_reverse distinct]

namespace Json

/-- An object in which no name stands twice. -/
def IsObject (json : Json) : Prop :=
  ∃ members, json = .object members ∧ (members.map (·.1)).Nodup

/-- An object with these members and no others. -/
structure Holds (json : Json) (held : String → Option Json) : Prop where
  object : json.IsObject
  members : ∀ name, json.member? name = held name

variable (members : Dictionary Json)

theorem isObject_record : (record members).IsObject := by
  refine ⟨members.entries, rfl, ?_⟩
  rw [List.Nodup, List.pairwise_map]
  refine members.sorted.imp fun {left right} before same => ?_
  exact String.lt_irrefl right.1 (same ▸ before)

theorem member?_record (name : String) : (record members).member? name = members.find? name := by
  obtain ⟨entries, sorted⟩ := members
  simp only [record, member?, Dictionary.find?]
  induction entries with
  | nil => rfl
  | cons head rest ih =>
      obtain ⟨above, sortedRest⟩ := List.pairwise_cons.mp sorted
      have later := ih sortedRest
      rw [List.reverse_cons, List.find?_append, Dictionary.findEntry]
      by_cases same : name = head.1
      · subst same
        rw [Dictionary.findEntry_eq_none above, Option.map_eq_none_iff] at later
        simp [later]
      · rw [if_neg same, ← later]
        simp [Ne.symm same]

theorem holds_ofList {entries : List (String × Json)} (distinct : (entries.map (·.1)).Nodup) :
    (record (.ofList entries)).Holds (entries.lookup ·) where
  object := isObject_record _
  members name := by rw [member?_record, Dictionary.find?_ofList_of_nodup distinct]

theorem readable_record (found : ∀ name value, members.find? name = some value → value.Readable) :
    (record members).Readable := by
  rw [record, readable_object]
  intro entry member
  exact found entry.1 entry.2 ((members.mem_entries_iff entry).mp member)

theorem readable_ofList {entries : List (String × Json)}
    (readable : ∀ entry ∈ entries, entry.2.Readable) : (record (.ofList entries)).Readable := by
  refine readable_record _ fun name value found => ?_
  rw [Dictionary.find?_ofList] at found
  exact readable (name, value) (List.mem_reverse.mp (mem_of_lookup found))

/-- A member shows under its own name and leaves the others as they were. -/
theorem putAny?_record (name : String) (value? : Option Json) :
    ∃ after, (record members).putAny? name value? = some (record after) ∧
      ∀ wanted, after.find? wanted =
        if wanted = name then value?.or (members.find? name) else members.find? wanted := by
  cases value? with
  | none =>
      refine ⟨members, rfl, fun wanted => ?_⟩
      split
      case isTrue same => rw [same, Option.none_or]
      case isFalse => rfl
  | some value =>
      exact ⟨members.insert name value, rfl, fun wanted => members.find?_insert name wanted value⟩

end Json

namespace Code

/-- What is known of a code: its entry in the registry, or what is assumed of a code without
one. -/
inductive Knows (code : String) : Metadata → Prop
  | registered {metadata : Metadata} (listed : metadata ∈ registry)
      (same : metadata.code = code) : Knows code metadata
  | unknown (unlisted : ∀ metadata ∈ registry, metadata.code ≠ code) :
      Knows code
        { code, category := "Unknown", severity := .medium, recoverable := true,
          requiresHalt := false, description := "Unknown error",
          action := "No specific action available" }

theorem nodup_registry : (registry.map (·.code)).Nodup := by
  decide

theorem Knows.unique {code : String} {left right : Metadata} (first : Knows code left)
    (second : Knows code right) : left = right := by
  cases first with
  | registered listed same =>
      cases second with
      | registered otherListed otherSame =>
          exact List.inj_on_of_nodup_map nodup_registry listed otherListed
            (same.trans otherSame.symm)
      | unknown unlisted => exact absurd same (unlisted _ listed)
  | unknown unlisted =>
      cases second with
      | registered listed same => exact absurd same (unlisted _ listed)
      | unknown => rfl

/-- The lookups answer what is known. -/
structure Answers (code : String) (known : Metadata) : Prop where
  category : category code = known.category
  severity : severity code = known.severity
  recoverable : isRecoverable code = known.recoverable
  requiresHalt : requiresHalt code = known.requiresHalt
  description : description code = known.description
  action : action code = known.action

theorem answers_exists (code : String) : ∃ known, Knows code known ∧ Answers code known := by
  cases found : metadata? code with
  | none =>
      refine ⟨_, .unknown fun metadata listed => ?_, ?_⟩
      · simpa using List.find?_eq_none.mp found metadata listed
      · constructor <;>
          simp only [category, severity, isRecoverable, requiresHalt, description, action, found,
            Option.map_none, Option.getD_none]
  | some known =>
      have listed := List.mem_of_find?_eq_some found
      have same : known.code = code := by simpa using List.find?_some found
      refine ⟨known, .registered listed same, ?_⟩
      constructor <;>
        simp only [category, severity, isRecoverable, requiresHalt, description, action, found,
          Option.map_some, Option.getD_some]

end Code

namespace Event

/-- What an event tells under a name. -/
def told? (event : Event) (name : String) : Option Json :=
  if name = "context" then event.contextJson?
  else if name = "span" then event.span.map spanJson
  else if name = "error_metadata" then event.metadataJson?
  else event.commonMembers.lookup name

/-- The record comes about, and none of its parts takes the place of another. -/
theorem toJson?_exists (event : Event) :
    ∃ members, event.toJson? = some (.record members) ∧
      ∀ name, members.find? name = event.told? name := by
  have distinct : (event.commonMembers.map (·.1)).Nodup := by simp [commonMembers]
  -- No part finds a member under its name that it would replace.
  have room : ∀ name ∈ ["context", "span", "error_metadata"],
      event.commonMembers.lookup name = none := by simp [commonMembers, List.lookup_cons]
  obtain ⟨explained, first, inExplained⟩ :=
    Json.putAny?_record (.ofList event.commonMembers) "error_metadata" event.metadataJson?
  obtain ⟨placed, second, inPlaced⟩ :=
    Json.putAny?_record explained "span" (event.span.map spanJson)
  obtain ⟨whole, third, inWhole⟩ := Json.putAny?_record placed "context" event.contextJson?
  refine ⟨whole, by simp [toJson?, first, second, third], fun name => ?_⟩
  simp only [List.forall_mem_cons] at room
  obtain ⟨noContext, noSpan, noMetadata, -⟩ := room
  have common := Dictionary.find?_ofList_of_nodup distinct
  simp only [inWhole, inPlaced, inExplained, common, noContext, noSpan, noMetadata, told?]
  simp

theorem contextJson?_eq_some_iff {event : Event} {whole : Json} :
    event.contextJson? = some whole ↔
      event.context.isEmpty = false ∧ contextJson event.context = whole := by
  simp [contextJson?]

theorem metadataJson?_eq_some_iff {event : Event} {explained : Json} :
    event.metadataJson? = some explained ↔
      event.level = .error ∧ metadataJson event.code = explained := by
  simp [metadataJson?, isError]

theorem readable_contextJson (context : Dictionary String) : (contextJson context).Readable := by
  rw [contextJson, Json.record, Json.readable_object]
  intro member listed
  obtain ⟨entry, -, rfl⟩ := List.mem_map.mp listed
  exact Json.readable_string entry.2

theorem holds_contextJson (context : Dictionary String) :
    (contextJson context).Holds fun key => (context.find? key).map Json.string where
  object := Json.isObject_record _
  members key := by rw [contextJson, Json.member?_record, Dictionary.find?_map]

theorem readable_spanJson (span : Span) : (spanJson span).Readable :=
  Json.readable_ofList (by simp)

theorem readable_metadataJson (code : String) : (metadataJson code).Readable :=
  Json.readable_ofList (by simp)

theorem readable_told {event : Event} {name : String} {value : Json}
    (told : event.told? name = some value) : value.Readable := by
  rw [told?] at told
  split at told
  · obtain ⟨-, rfl⟩ := contextJson?_eq_some_iff.mp told
    exact readable_contextJson event.context
  split at told
  · obtain ⟨span, -, rfl⟩ := Option.map_eq_some_iff.mp told
    exact readable_spanJson span
  split at told
  · obtain ⟨-, rfl⟩ := metadataJson?_eq_some_iff.mp told
    exact readable_metadataJson event.code
  · have texts : ∀ member ∈ event.commonMembers, member.2.Readable := by simp [commonMembers]
    exact texts (name, value) (mem_of_lookup told)

/-- The object tells the event and what is known of its code, and nothing else. -/
structure ToldBy (event : Event) (known : Code.Metadata) (json : Json) : Prop where
  object : json.IsObject
  timestamp : json.member? "timestamp" = some (.string event.time.text)
  level : json.member? "level" = some (.string event.level.label)
  code : json.member? "code" = some (.string event.code)
  message : json.member? "message" = some (.string event.message)
  category : json.member? "category" = some (.string known.category)
  severity : json.member? "severity" = some (.string known.severity.name)
  hasSpan : (json.member? "span").isSome ↔ event.span.isSome
  span : ∀ span ∈ event.span, ∀ place ∈ json.member? "span",
    place.Holds fun name =>
      [("start_line", Json.natural span.start.line.toNat),
        ("start_column", .natural span.start.column.toNat),
        ("end_line", .natural span.stop.line.toNat),
        ("end_column", .natural span.stop.column.toNat)].lookup name
  hasContext : (json.member? "context").isSome ↔ event.context.isEmpty = false
  context : ∀ whole ∈ json.member? "context",
    whole.Holds fun key => (event.context.find? key).map Json.string
  hasMetadata : (json.member? "error_metadata").isSome ↔ event.level = .error
  metadata : ∀ explained ∈ json.member? "error_metadata",
    explained.Holds fun name =>
      [("recoverable", Json.bool known.recoverable),
        ("requires_halt", .bool known.requiresHalt),
        ("description", .string known.description),
        ("recommended_action", .string known.action)].lookup name
  others : ∀ name, (json.member? name).isSome →
    name ∈ ["timestamp", "level", "code", "message", "category", "severity", "span", "context",
      "error_metadata"]

theorem toldBy_of_told {event : Event} {known : Code.Metadata} {members : Dictionary Json}
    (told : ∀ name, members.find? name = event.told? name)
    (answers : Code.Answers event.code known) : event.ToldBy known (.record members) := by
  have shows (name : String) : (Json.record members).member? name = event.told? name :=
    (Json.member?_record members name).trans (told name)
  constructor
  case object => exact Json.isObject_record members
  case timestamp | level | code | message => simp [shows, told?, commonMembers, List.lookup_cons]
  case category | severity =>
    simp [shows, told?, commonMembers, List.lookup_cons, answers.category, answers.severity]
  case hasSpan => simp [shows, told?]
  case span =>
    intro span given place found
    obtain rfl : spanJson span = place := by
      simpa [shows, told?, Option.mem_def.mp given] using found
    exact Json.holds_ofList (by simp)
  case hasContext => simp [shows, told?, contextJson?]
  case context =>
    intro whole found
    obtain ⟨-, rfl⟩ := contextJson?_eq_some_iff.mp ((shows "context").symm.trans found)
    exact holds_contextJson event.context
  case hasMetadata => simp [shows, told?, metadataJson?, isError]
  case metadata =>
    intro explained found
    obtain ⟨-, rfl⟩ := metadataJson?_eq_some_iff.mp ((shows "error_metadata").symm.trans found)
    rw [metadataJson, answers.recoverable, answers.requiresHalt, answers.description,
      answers.action]
    exact Json.holds_ofList (by simp)
  case others =>
    intro name present
    obtain ⟨value, found⟩ := Option.isSome_iff_exists.mp present
    rw [shows, told?] at found
    split_ifs at found with context span metadata
    · simp [context]
    · simp [span]
    · simp [metadata]
    · have listed : name ∈ event.commonMembers.map (·.1) :=
        List.mem_map_of_mem (mem_of_lookup found)
      exact List.mem_append_left ["span", "context", "error_metadata"] listed

end Event

/-- Every event becomes a line of the log that is read back as all that is known of the event. -/
theorem log_lines_tell_events (event : Event) :
    ∃ json known, event.toJson? = some json ∧ event.jsonText = json.compact ∧
      '\n' ∉ event.jsonText.toList ∧ Json.ofText? event.jsonText = some json ∧
      Code.Knows event.code known ∧ event.ToldBy known json := by
  obtain ⟨members, made, told⟩ := event.toJson?_exists
  obtain ⟨known, knows, answers⟩ := Code.answers_exists event.code
  have written : event.jsonText = (Json.record members).compact := by rw [Event.jsonText, made]
  have readable : (Json.record members).Readable :=
    Json.readable_record members fun name value found =>
      Event.readable_told ((told name).symm.trans found)
  refine ⟨.record members, known, made, written, ?_, ?_, knows, Event.toldBy_of_told told answers⟩
  · intro broken
    exact absurd (Json.shows_compact readable _ (written ▸ broken)) (by decide)
  · rw [written]
    exact Json.ofText?_compact readable

end Poco
