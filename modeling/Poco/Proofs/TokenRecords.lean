import Mathlib.Data.List.Forall2
import Poco.Exchange
import Poco.Proofs.JsonText

namespace Poco

namespace Json

/-- What the value of a field has to be. -/
abbrev Field := String × (Json → Prop)

/-- A record with these fields: their values in order, or members with their names, each given
once, in any order and among any others. -/
inductive IsRecord (fields : List Field) : Json → Prop
  | listed {values : List Json}
      (fits : List.Forall₂ (fun field value => field.2 value) fields values) :
      IsRecord fields (.array values)
  | named {members : List (String × Json)}
      (fits : ∀ field ∈ fields, ∃ value,
        members.filter (fun member => member.1 == field.1) = [(field.1, value)] ∧ field.2 value) :
      IsRecord fields (.object members)

theorem positionalFields_eq (names : List String) (values : List Json)
    (complete : names.length = values.length) :
    positionalFields names values = values.map some := by
  refine List.ext_getElem ?_ ?_
  · simp [positionalFields, complete]
  · intro index within _
    have inside : index < values.length := by simpa [positionalFields, complete] using within
    simp [positionalFields, inside]

theorem member?_of_filter {members : List (String × Json)} {name : String} {value : Json}
    (once : members.filter (fun member => member.1 == name) = [(name, value)]) :
    (Json.object members).member? name = some value := by
  rw [member?, ← List.head?_filter, List.filter_reverse, once]
  rfl

theorem namedFields_exists {fields : List Field} {members : List (String × Json)}
    (fits : ∀ field ∈ fields, ∃ value,
      members.filter (fun member => member.1 == field.1) = [(field.1, value)] ∧ field.2 value) :
    ∃ values,
      namedFields (fields.map (·.1)) (Json.object members).member? = values.map some ∧
        List.Forall₂ (fun field value => field.2 value) fields values := by
  induction fields with
  | nil => exact ⟨[], rfl, .nil⟩
  | cons field rest ih =>
      rw [List.forall_mem_cons] at fits
      obtain ⟨⟨value, once, fit⟩, others⟩ := fits
      obtain ⟨values, same, all⟩ := ih others
      refine ⟨value :: values, ?_, .cons fit all⟩
      rw [namedFields, List.map_map] at same ⊢
      simp [member?_of_filter once, same]

/-- A record gives the values of its fields. -/
theorem IsRecord.fields {fields : List Field} {json : Json} (record : IsRecord fields json) :
    ∃ values, json.fields? (fields.map (·.1)) = some (values.map some) ∧
      List.Forall₂ (fun field value => field.2 value) fields values := by
  cases record with
  | @listed values fits =>
      have complete : (fields.map (·.1)).length = values.length := by
        rw [List.length_map, fits.length_eq]
      refine ⟨values, ?_, fits⟩
      rw [fields?, if_pos (Nat.le_of_eq complete.symm), positionalFields_eq _ _ complete]
  | named fits =>
      obtain ⟨values, same, all⟩ := namedFields_exists fits
      exact ⟨values, congrArg some same, all⟩

theorem naturalBelow?_natural {n limit : Nat} (small : n < limit) :
    (natural n).naturalBelow? limit = some n :=
  if_pos small

@[simp] theorem word64?_natural (word : UInt64) :
    (natural word.toNat).word64? = some word := by
  rw [word64?, naturalBelow?_natural word.toNat_lt, Option.map_some, UInt64.ofNat_toNat]

@[simp] theorem word32?_natural (word : UInt32) :
    (natural word.toNat).word32? = some word := by
  rw [word32?, naturalBelow?_natural word.toNat_lt, Option.map_some, UInt32.ofNat_toNat]

end Json

open Json (IsRecord)

namespace Position

/-- The record is this position. -/
def Form (position : Position) : Json → Prop :=
  IsRecord
    [("offset", (· = .natural position.offset.toNat)),
      ("line", (· = .natural position.line.toNat)),
      ("column", (· = .natural position.column.toNat))]

theorem form_toJson (position : Position) : position.Form position.toJson :=
  .named (by simp)

theorem ofJson?_form {position : Position} {json : Json} (form : position.Form json) :
    ofJson? json = some position := by
  obtain ⟨values, found, fits⟩ := form.fields
  rcases fits with _ | ⟨offset, _ | ⟨line, _ | ⟨column, _ | _⟩⟩⟩
  subst offset line column
  simp only [List.map_cons, List.map_nil] at found
  simp [ofJson?, found]

theorem readable_toJson (position : Position) : position.toJson.Readable := by
  simp [toJson]

end Position

namespace Span

def Form (span : Span) : Json → Prop :=
  IsRecord [("start", span.start.Form), ("end", span.stop.Form)]

theorem form_toJson (span : Span) : span.Form span.toJson :=
  .named (by simp [Position.form_toJson])

theorem ofJson?_form {span : Span} {json : Json} (form : span.Form json) :
    ofJson? json = some span := by
  obtain ⟨values, found, fits⟩ := form.fields
  rcases fits with _ | ⟨start, _ | ⟨stop, _ | _⟩⟩
  simp only [List.map_cons, List.map_nil] at found
  simp [ofJson?, found, Position.ofJson?_form start, Position.ofJson?_form stop]

theorem readable_toJson (span : Span) : span.toJson.Readable := by
  simp [toJson, Position.readable_toJson]

end Span

namespace Token

def Form (token : Token) : Json → Prop :=
  IsRecord
    [("kind", (· = .string token.kind.label)), ("value", (· = .string token.value)),
      ("span", token.span.Form)]

theorem form_toJson (token : Token) : token.Form token.toJson :=
  .named (by simp [Span.form_toJson])

theorem ofJson?_label (kind : TokenKind) : TokenKind.ofJson? (.string kind.label) = some kind := by
  cases kind <;> decide

theorem ofJson?_form {token : Token} {json : Json} (form : token.Form json) :
    ofJson? json = some token := by
  obtain ⟨values, found, fits⟩ := form.fields
  rcases fits with _ | ⟨kind, _ | ⟨value, _ | ⟨span, _ | _⟩⟩⟩
  subst kind value
  simp only [List.map_cons, List.map_nil] at found
  simp [ofJson?, found, ofJson?_label, Json.text?, Span.ofJson?_form span]

theorem readable_toJson (token : Token) : token.toJson.Readable := by
  simp [toJson, Span.readable_toJson]

end Token

/-- Reading gives back what was written, from the value or from its text, and takes every form of
it for the same, however its text is laid out. -/
structure Exchanges {α : Type} (encode : α → Json) (decode? : Json → Option α)
    (form : α → Json → Prop) (value : α) : Prop where
  back : decode? (encode value) = some value
  backFromText : ∀ text ∈ [(encode value).compact, (encode value).prettyText],
    (Json.ofText? text).bind decode? = some value
  forms : ∀ json, form value json → decode? json = some value
  formsFromText : ∀ json text, form value json → Json.Laid text.toList json.marks →
    (Json.ofText? text).bind decode? = some value

theorem Exchanges.of_forms {α : Type} {encode : α → Json} {decode? : Json → Option α}
    {form : α → Json → Prop} {value : α} (encoded : form value (encode value))
    (readable : (encode value).Readable)
    (decodes : ∀ {json}, form value json → decode? json = some value) :
    Exchanges encode decode? form value where
  back := decodes encoded
  backFromText := by
    intro text member
    have parsed : Json.ofText? text = some (encode value) := by
      simp only [List.mem_cons, List.not_mem_nil, or_false] at member
      rcases member with rfl | rfl
      · exact Json.ofText?_compact readable
      · exact Json.ofText?_prettyText readable
    rw [parsed]
    exact decodes encoded
  forms _ := decodes
  formsFromText := by
    intro json text formed laid
    rw [Json.ofText?, Json.ofChars?_laid laid]
    exact decodes formed

/-- Tokens, spans and positions survive being written as JSON. -/
theorem tokens_survive_json :
    (∀ token, Exchanges Token.toJson Token.ofJson? Token.Form token) ∧
      (∀ span, Exchanges Span.toJson Span.ofJson? Span.Form span) ∧
      ∀ position, Exchanges Position.toJson Position.ofJson? Position.Form position :=
  ⟨fun token => .of_forms token.form_toJson token.readable_toJson Token.ofJson?_form,
    fun span => .of_forms span.form_toJson span.readable_toJson Span.ofJson?_form,
    fun position =>
      .of_forms position.form_toJson position.readable_toJson Position.ofJson?_form⟩

end Poco
