import Poco.Json.Text
import Poco.Proofs.JsonMarks

namespace Poco.Json

/-- Every scalar in the value can be read back. -/
def Readable (json : Json) : Prop :=
  ∀ mark ∈ marks json, mark.Readable

theorem readable_scalar (value : Scalar) : (Json.scalar value).Readable ↔ value.Readable := by
  simp [Readable, marks, Mark.Readable]

@[simp] theorem readable_string (text : String) : (Json.string text).Readable :=
  (readable_scalar _).mpr trivial

@[simp] theorem readable_bool (truth : Bool) : (Json.bool truth).Readable :=
  (readable_scalar _).mpr trivial

@[simp] theorem readable_natural (value : Nat) : (Json.natural value).Readable :=
  (readable_scalar _).mpr trivial

theorem readable_memberMarks (members : List (String × Json)) :
    (∀ mark ∈ memberMarks members, mark.Readable) ↔ ∀ member ∈ members, member.2.Readable := by
  induction members with
  | nil => simp [memberMarks, Mark.Readable]
  | cons member others ih =>
      obtain ⟨name, next⟩ := member
      rw [memberMarks, List.forall_mem_cons, List.forall_mem_cons, List.forall_mem_cons,
        List.forall_mem_append, ih, List.forall_mem_cons]
      simp [Mark.Readable, Scalar.Readable, Readable]

@[simp] theorem readable_object (members : List (String × Json)) :
    (Json.object members).Readable ↔ ∀ member ∈ members, member.2.Readable := by
  cases members with
  | nil => simp [Readable, marks, Mark.Readable]
  | cons first others =>
      obtain ⟨name, value⟩ := first
      rw [← readable_memberMarks, memberMarks, List.forall_mem_cons, Readable, marks,
        List.forall_mem_cons]
      rfl

section Layout

variable {text : List Char} {behind : List Mark}

theorem laid_newLine (indent : Nat) (rest : Laid text behind) :
    Laid (newLine indent ++ text) behind := by
  refine rest.spaces ?_
  rw [newLine, List.forall_mem_cons]
  refine ⟨rfl, ?_⟩
  intro c member
  rw [List.eq_of_mem_replicate member]
  rfl

theorem laid_apart (mark : Mark) (other : ¬ mark.IsWord) (rest : Laid text behind) :
    Laid (mark.spell ++ text) (mark :: behind) := by
  refine .mark ?_ (fun word => absurd word other) rest
  cases mark with
  | scalar value =>
      cases value with
      | real numeral => exact absurd trivial other
      | null | bool _ | integer _ | string _ => trivial
  | beginArray | endArray | beginObject | endObject | comma | colon => trivial

theorem laid_name (name : String) (rest : Laid text behind) :
    Laid (spellString name.toList ++ ':' :: ' ' :: text)
      (.scalar (.string name) :: .colon :: behind) :=
  laid_apart (.scalar (.string name)) id (laid_apart .colon id (.space rfl rest))

theorem follows_elementMarks (elements : List Json) (behind : List Mark) :
    Follows (elementMarks elements ++ behind) := by
  cases elements <;> rw [elementMarks] <;> rintro _ ⟨⟩ <;> exact id

theorem follows_memberMarks (members : List (String × Json)) (behind : List Mark) :
    Follows (memberMarks members ++ behind) := by
  rcases members with _ | ⟨⟨name, first⟩, rest⟩ <;> rw [memberMarks] <;> rintro _ ⟨⟩ <;> exact id

end Layout

mutual

theorem laid_pretty (indent : Nat) (json : Json) {text : List Char} {behind : List Mark}
    (readable : ∀ mark ∈ marks json, mark.Readable) (follows : Follows behind)
    (rest : Laid text behind) : Laid (pretty indent json ++ text) (marks json ++ behind) := by
  match json with
  | .scalar value =>
      rw [marks] at readable ⊢
      rw [pretty]
      exact .mark (readable _ (List.mem_singleton.mpr rfl)) (fun _ => follows) rest
  | .array [] => exact laid_apart .beginArray id (laid_apart .endArray id rest)
  | .array (first :: others) =>
      -- The layout is built from its end: what stands behind the first element comes first.
      rw [marks, List.forall_mem_cons, List.forall_mem_append] at readable
      rw [marks, pretty]
      simp only [List.cons_append, List.append_assoc]
      have behindFirst := laid_elements indent others readable.2.2 rest
      have inside :=
        laid_pretty (indent + 1) first readable.2.1 (follows_elementMarks _ _) behindFirst
      exact laid_apart .beginArray id (laid_newLine (indent + 1) inside)
  | .object [] => exact laid_apart .beginObject id (laid_apart .endObject id rest)
  | .object ((name, first) :: others) =>
      rw [marks, List.forall_mem_cons, List.forall_mem_cons, List.forall_mem_cons,
        List.forall_mem_append] at readable
      rw [marks, pretty]
      simp only [List.cons_append, List.nil_append, List.append_assoc]
      have behindFirst := laid_members indent others readable.2.2.2.2 rest
      have inside :=
        laid_pretty (indent + 1) first readable.2.2.2.1 (follows_memberMarks _ _) behindFirst
      exact laid_apart .beginObject id (laid_newLine (indent + 1) (laid_name name inside))

theorem laid_elements (indent : Nat) (elements : List Json) {text : List Char}
    {behind : List Mark} (readable : ∀ mark ∈ elementMarks elements, mark.Readable)
    (rest : Laid text behind) :
    Laid (prettyElements indent elements ++ text) (elementMarks elements ++ behind) := by
  match elements with
  | [] =>
      rw [prettyElements, elementMarks, List.append_assoc]
      exact laid_newLine indent (laid_apart .endArray id rest)
  | next :: others =>
      rw [elementMarks, List.forall_mem_cons, List.forall_mem_append] at readable
      rw [elementMarks, prettyElements]
      simp only [List.cons_append, List.append_assoc]
      have behindNext := laid_elements indent others readable.2.2 rest
      have inside :=
        laid_pretty (indent + 1) next readable.2.1 (follows_elementMarks _ _) behindNext
      exact laid_apart .comma id (laid_newLine (indent + 1) inside)

theorem laid_members (indent : Nat) (members : List (String × Json)) {text : List Char}
    {behind : List Mark} (readable : ∀ mark ∈ memberMarks members, mark.Readable)
    (rest : Laid text behind) :
    Laid (prettyMembers indent members ++ text) (memberMarks members ++ behind) := by
  match members with
  | [] =>
      rw [prettyMembers, memberMarks, List.append_assoc]
      exact laid_newLine indent (laid_apart .endObject id rest)
  | (name, next) :: others =>
      rw [memberMarks, List.forall_mem_cons, List.forall_mem_cons, List.forall_mem_cons,
        List.forall_mem_append] at readable
      rw [memberMarks, prettyMembers]
      simp only [List.cons_append, List.nil_append, List.append_assoc]
      have behindNext := laid_members indent others readable.2.2.2.2 rest
      have inside :=
        laid_pretty (indent + 1) next readable.2.2.2.1 (follows_memberMarks _ _) behindNext
      exact laid_apart .comma id (laid_newLine (indent + 1) (laid_name name inside))

end

/-- The first element of a list begins as any value does. -/
theorem run_firstElement (json : Json) (frames : List Frame) (behind : List Mark) :
    (marks json ++ behind).foldlM Reading.step (.firstElement frames) =
      (marks json ++ behind).foldlM Reading.step (.value (.array [] :: frames)) := by
  match json with
  | .scalar _ | .array [] | .array (_ :: _) | .object [] | .object (_ :: _) => rfl

mutual

theorem run_marks (json : Json) (frames : List Frame) (behind : List Mark) :
    (marks json ++ behind).foldlM Reading.step (.value frames) =
      behind.foldlM Reading.step (Reading.give json frames) := by
  match json with
  | .scalar value => rfl
  | .array [] => rfl
  | .array (first :: others) =>
      rw [marks, List.cons_append, List.append_assoc]
      -- Reading expects an element or the end of the list, and `first` does not begin like an end.
      calc
        _ = (marks first ++ (elementMarks others ++ behind)).foldlM Reading.step
              (.firstElement frames) := rfl
        _ = (elementMarks others ++ behind).foldlM Reading.step (.afterElement [first] frames) := by
          rw [run_firstElement, run_marks]
          rfl
        _ = _ := run_elements others [first] frames behind
  | .object [] => rfl
  | .object ((name, first) :: others) =>
      rw [marks]
      simp only [List.cons_append, List.append_assoc]
      calc
        _ = (marks first ++ (memberMarks others ++ behind)).foldlM Reading.step
              (.value (.object [] name :: frames)) := rfl
        _ = (memberMarks others ++ behind).foldlM Reading.step
              (.afterMember [(name, first)] frames) := run_marks first _ _
        _ = _ := run_members others [(name, first)] frames behind

theorem run_elements (elements done : List Json) (frames : List Frame) (behind : List Mark) :
    (elementMarks elements ++ behind).foldlM Reading.step (.afterElement done frames) =
      behind.foldlM Reading.step (Reading.give (.array (done.reverse ++ elements)) frames) := by
  match elements with
  | [] =>
      rw [List.append_nil]
      rfl
  | next :: others =>
      have reversed : (next :: done).reverse ++ others = done.reverse ++ next :: others := by simp
      rw [elementMarks, List.cons_append, List.append_assoc, ← reversed]
      calc
        _ = (marks next ++ (elementMarks others ++ behind)).foldlM Reading.step
              (.value (.array done :: frames)) := rfl
        _ = (elementMarks others ++ behind).foldlM Reading.step
              (.afterElement (next :: done) frames) := run_marks next _ _
        _ = _ := run_elements others (next :: done) frames behind

theorem run_members (members done : List (String × Json)) (frames : List Frame)
    (behind : List Mark) :
    (memberMarks members ++ behind).foldlM Reading.step (.afterMember done frames) =
      behind.foldlM Reading.step (Reading.give (.object (done.reverse ++ members)) frames) := by
  match members with
  | [] =>
      rw [List.append_nil]
      rfl
  | (name, next) :: others =>
      have reversed : ((name, next) :: done).reverse ++ others =
          done.reverse ++ (name, next) :: others := by simp
      rw [memberMarks, ← reversed]
      simp only [List.cons_append, List.append_assoc]
      calc
        _ = (marks next ++ (memberMarks others ++ behind)).foldlM Reading.step
              (.value (.object done name :: frames)) := rfl
        _ = (memberMarks others ++ behind).foldlM Reading.step
              (.afterMember ((name, next) :: done) frames) := run_marks next _ _
        _ = _ := run_members others ((name, next) :: done) frames behind

end

theorem ofMarks?_marks (json : Json) : ofMarks? (marks json) = some json := by
  have run := run_marks json [] []
  rw [List.append_nil] at run
  rw [ofMarks?, run]
  rfl

/-- Every text that spells the marks of a value is read as this value. -/
theorem ofChars?_laid {json : Json} {text : List Char} (laid : Laid text (marks json)) :
    ofChars? text = some json := by
  rw [ofChars?, laid.readMarks_eq]
  exact ofMarks?_marks json

section Written

variable {json : Json} (readable : json.Readable)

include readable

theorem laid_prettyText : Laid (pretty 0 json) (marks json) := by
  have laid : Laid (pretty 0 json ++ []) (marks json ++ []) :=
    laid_pretty 0 json readable (by simp [Follows]) .nil
  rwa [List.append_nil, List.append_nil] at laid

theorem ofText?_prettyText : ofText? json.prettyText = some json := by
  rw [ofText?, prettyText, String.toList_ofList]
  exact ofChars?_laid (laid_prettyText readable)

theorem ofText?_compact : ofText? json.compact = some json := by
  rw [ofText?, compact, String.toList_ofList]
  exact ofChars?_laid (laid_prettyText readable).squeeze

end Written

theorem shows_of_isBare {c : Char} (bare : isBare c = true) : 0x20 ≤ c.toNat := by
  have controls : ∀ n < 0x20, isBare (Char.ofNat n) = false := by decide
  by_contra control
  have other := controls c.toNat (Nat.lt_of_not_le control)
  rw [Char.ofNat_toNat, bare] at other
  contradiction

theorem shows_spellChar (c : Char) : ∀ d ∈ spellChar c, 0x20 ≤ d.toNat := by
  unfold spellChar
  split
  case h_8 =>
    split
    case isTrue control =>
      have digits : ∀ n < 0x10, 0x20 ≤ (Text.hexDigit n).toNat := by decide
      have high := digits (c.toNat / 16) (by omega)
      have low := digits (c.toNat % 16) (by omega)
      simp [high, low]
    case isFalse shows => simpa using shows
  all_goals simp

theorem Mark.shows_spell {mark : Mark} (readable : mark.Readable) :
    ∀ c ∈ mark.spell, 0x20 ≤ c.toNat := by
  by_cases word : mark.IsWord
  · cases mark with
    | scalar value =>
        exact fun c member => shows_of_isBare ((isWord_scalar word readable).bare c member)
    | beginArray | endArray | beginObject | endObject | comma | colon => exact word.elim
  · cases mark with
    | scalar value =>
        cases value with
        | string text =>
            have inside : ∀ c ∈ text.toList.flatMap spellChar, 0x20 ≤ c.toNat := by
              intro c member
              obtain ⟨given, -, spelled⟩ := List.mem_flatMap.mp member
              exact shows_spellChar given c spelled
            simpa [spell, Scalar.spell, spellString, or_imp, forall_and] using inside
        | null | bool _ | integer _ | real _ => exact absurd trivial word
    | beginArray | endArray | beginObject | endObject | comma | colon => simp [spell]

/-- The compact spelling has no control characters, line breaks among them. -/
theorem shows_compact {json : Json} (readable : json.Readable) :
    ∀ c ∈ json.compact.toList, 0x20 ≤ c.toNat := by
  intro c member
  rw [compact, String.toList_ofList, List.mem_flatMap] at member
  obtain ⟨mark, among, spelled⟩ := member
  exact Mark.shows_spell (readable mark among) c spelled

end Poco.Json
