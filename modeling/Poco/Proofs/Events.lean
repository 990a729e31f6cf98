import Mathlib.Algebra.GroupWithZero.Nat
import Poco.Log.Journal
import Poco.Proofs.Truncation

namespace Poco

theorem Text.length_decimal_le {n width : Nat} (small : n < 10 ^ (width + 1)) :
    (decimal n).length ≤ width + 1 := by
  rw [decimal, String.length_ofList]
  induction width generalizing n with
  | zero =>
      rw [digits, if_pos (by simpa using small)]
      simp
  | succ width ih =>
      rw [digits]
      split
      · simp
      · have rest := ih (Nat.div_lt_of_lt_mul (by rwa [Nat.pow_succ'] at small))
        rw [List.length_append, List.length_singleton]
        omega

variable (limits : LogLimits)

namespace Event

def withAll (event : Event) (facts : List (String × String)) : Event :=
  facts.foldl (fun event fact => event.withContext limits fact.1 fact.2) event

theorem withAll_frame (event : Event) (facts : List (String × String)) :
    ∃ context, event.withAll limits facts = { event with context } := by
  induction facts generalizing event with
  | nil => exact ⟨event.context, rfl⟩
  | cons fact rest ih =>
      obtain ⟨context, same⟩ := ih (event.withContext limits fact.1 fact.2)
      exact ⟨context, same⟩

theorem context_withAll (event : Event) (facts : List (String × String)) :
    (event.withAll limits facts).context =
      facts.foldl
        (fun context fact => context.insert fact.1 (truncate limits.maxContextValueLength fact.2))
        event.context :=
  (List.foldl_hom Event.context fun _ _ => rfl).symm

theorem find?_withAll (event : Event) (facts : List (String × String)) (key : String) :
    (event.withAll limits facts).context.find? key =
      ((facts.reverse.lookup key).map (truncate limits.maxContextValueLength)).or
        (event.context.find? key) := by
  rw [context_withAll, Dictionary.find?_foldl_insert]

/-- The event tells just this, about the source of that name. -/
structure Tells (event : Event) (source : Option String) (level : Level) (code message : String)
    (facts : List (String × String)) : Prop where
  level : event.level = level
  code : event.code = code
  message : event.message = message
  placeless : event.span = none
  source : event.context.find? sourceKey = source.map (truncate limits.maxContextValueLength)
  facts : ∀ key ≠ sourceKey, event.context.find? key = facts.lookup key

end Event

theorem lookup_eq_none_of_not_mem {α : Type} {facts : List (String × α)} {key : String}
    (absent : key ∉ facts.map (·.1)) : facts.lookup key = none := by
  rw [List.lookup_eq_none_iff]
  intro fact member
  simp only [bne_iff_ne]
  rintro rfl
  exact absent (List.mem_map_of_mem member)

theorem mem_of_lookup {α : Type} {facts : List (String × α)} {key : String} {value : α}
    (found : facts.lookup key = some value) : (key, value) ∈ facts := by
  obtain ⟨before, behind, split, -⟩ := List.lookup_eq_some_iff.mp found
  exact split ▸ List.mem_append_right before List.mem_cons_self

/-- The order does not matter where every key is given once. -/
theorem lookup_reverse {α : Type} {facts : List (String × α)}
    (distinct : (facts.map (·.1)).Nodup) (key : String) :
    facts.reverse.lookup key = facts.lookup key := by
  induction facts with
  | nil => rfl
  | cons fact rest ih =>
      obtain ⟨given, value⟩ := fact
      obtain ⟨once, later⟩ := List.nodup_cons.mp distinct
      rw [List.reverse_cons, List.lookup_append, ih later, List.lookup_cons, List.lookup_cons]
      by_cases same : key = given
      · rw [same, lookup_eq_none_of_not_mem once]
        simp
      · have others : (key == given) = false := beq_false_of_ne same
        simp [others]

namespace Entry

/-- The event of an entry with nothing in its context yet. -/
def bare (entry : Entry) : Event :=
  { Event.make limits entry.level entry.code entry.message with span := entry.span }

/-- What is put into the context, in order. -/
def facts (entry : Entry) (source : Option String) : List (String × String) :=
  entry.context ++ (source.map (Event.sourceKey, ·)).toList

theorem event_eq_withAll (entry : Entry) (source : Option String) :
    entry.event limits source = (entry.bare limits).withAll limits (entry.facts source) := by
  rw [Event.withAll, facts, List.foldl_append]
  cases source <;> rfl

/-- What the entry says outside its context. -/
theorem event_frame (entry : Entry) (source : Option String) :
    (entry.event limits source).level = entry.level ∧
      (entry.event limits source).code = entry.code ∧
      (entry.event limits source).message = truncate limits.maxMessageLength entry.message ∧
      (entry.event limits source).span = entry.span := by
  obtain ⟨context, frame⟩ := (entry.bare limits).withAll_frame limits (entry.facts source)
  rw [event_eq_withAll, frame]
  exact ⟨rfl, rfl, rfl, rfl⟩

theorem find?_event (entry : Entry) (source : Option String) (key : String) :
    (entry.event limits source).context.find? key =
      ((entry.facts source).reverse.lookup key).map (truncate limits.maxContextValueLength) := by
  rw [event_eq_withAll, Event.find?_withAll]
  exact Option.or_none

theorem lookup_source (entry : Entry) (source : Option String)
    (unnamed : Event.sourceKey ∉ entry.context.map (·.1)) :
    (entry.facts source).reverse.lookup Event.sourceKey = source := by
  rw [facts, List.reverse_append, List.lookup_append]
  cases source with
  | none => exact lookup_eq_none_of_not_mem (by rwa [List.map_reverse, List.mem_reverse])
  | some name => simp

theorem lookup_facts (entry : Entry) (source : Option String) {key : String}
    (other : key ≠ Event.sourceKey) :
    (entry.facts source).reverse.lookup key = entry.context.reverse.lookup key := by
  have others : (key == Event.sourceKey) = false := beq_false_of_ne other
  rw [facts, List.reverse_append, List.lookup_append]
  cases source <;> simp [others]

/-- Nothing in the entry is cut, given twice or mistaken for the name of the source. -/
structure Fits (entry : Entry) : Prop where
  placeless : entry.span = none
  message : entry.message.length ≤ limits.maxMessageLength
  values : ∀ fact ∈ entry.context, fact.2.length ≤ limits.maxContextValueLength
  distinct : (Event.sourceKey :: entry.context.map (·.1)).Nodup

variable {limits}

theorem fits {level : Level} {code message : String} {facts : List (String × String)}
    (short : message.length ≤ limits.maxMessageLength)
    (values : ∀ fact ∈ facts, fact.2.length ≤ limits.maxContextValueLength)
    (distinct : (Event.sourceKey :: facts.map (·.1)).Nodup) :
    Fits limits { level, code, message, context := facts } :=
  ⟨rfl, short, values, distinct⟩

theorem tells_event {entry : Entry} (fits : entry.Fits limits) (source : Option String) :
    (entry.event limits source).Tells limits source entry.level entry.code entry.message
      entry.context := by
  obtain ⟨unnamed, distinct⟩ := List.nodup_cons.mp fits.distinct
  obtain ⟨level, code, message, span⟩ := entry.event_frame limits source
  refine ⟨level, code, message.trans (truncate_of_short fits.message), span.trans fits.placeless,
    ?_, ?_⟩
  · rw [find?_event, lookup_source entry source unnamed]
  · intro key other
    rw [find?_event, lookup_facts entry source other, lookup_reverse distinct]
    cases lookup : entry.context.lookup key with
    | none => rfl
    | some value =>
        have short := fits.values (key, value) (mem_of_lookup lookup)
        rw [Option.map_some, truncate_of_short short]

end Entry

end Poco
