import Poco.Log.Event

namespace Poco

variable {limit : Nat} {text stored : String}

theorem truncate_of_short (short : text.length ≤ limit) : truncate limit text = text :=
  if_pos short

theorem toList_truncate_of_long (long : limit < text.length) :
    (truncate limit text).toList = text.toList.take (limit - 3) ++ ['.', '.', '.'] := by
  rw [truncate, if_neg (Nat.not_le.mpr long), String.toList_append, String.toList_ofList]
  rfl

theorem length_truncate_of_long (long : limit < text.length) :
    (truncate limit text).length = max limit 3 := by
  have kept : (text.toList.take (limit - 3)).length = limit - 3 := by
    rw [List.length_take, String.length_toList]
    omega
  rw [← String.length_toList, toList_truncate_of_long long, List.length_append, kept]
  change limit - 3 + 3 = max limit 3
  omega

/-- What is stored of a text under a limit. -/
inductive CutTo (limit : Nat) (text : String) : String → Prop
  | whole (fits : text.length ≤ limit) : CutTo limit text text
  | cut {kept lost : List Char} (long : limit < text.length) (split : text.toList = kept ++ lost)
      (fills : kept.length + 3 = max limit 3) :
      CutTo limit text (String.ofList (kept ++ ['.', '.', '.']))

theorem cutTo_truncate (limit : Nat) (text : String) : CutTo limit text (truncate limit text) := by
  by_cases short : text.length ≤ limit
  · rw [truncate_of_short short]
    exact .whole short
  · have long : limit < text.length := Nat.lt_of_not_le short
    rw [← String.ofList_toList (s := truncate limit text), toList_truncate_of_long long]
    refine .cut long (List.take_append_drop (limit - 3) text.toList).symm ?_
    rw [List.length_take, String.length_toList]
    omega

theorem CutTo.length_le (cut : CutTo limit text stored) : stored.length ≤ max limit 3 := by
  cases cut with
  | whole fits => exact Nat.le_trans fits (Nat.le_max_left limit 3)
  | cut long split fills =>
      rw [String.length_ofList, List.length_append]
      exact Nat.le_of_eq fills

/-- A second cut to the same limit takes nothing away. -/
theorem truncate_truncate (limit : Nat) (text : String) :
    truncate limit (truncate limit text) = truncate limit text := by
  by_cases short : text.length ≤ limit
  · rw [truncate_of_short short, truncate_of_short short]
  · have long : limit < text.length := Nat.lt_of_not_le short
    have filled := length_truncate_of_long long
    by_cases room : 3 ≤ limit
    · exact truncate_of_short (by omega)
    · -- Nothing is kept before the dots, neither the first time nor the second.
      have nothing : limit - 3 = 0 := by omega
      rw [← String.toList_inj, toList_truncate_of_long (by omega), toList_truncate_of_long long,
        nothing, List.take_zero, List.take_zero]

/-- A text stays within a limit that it fits, or that has room for the dots. -/
theorem truncate_respects_roomy_limits (limit : Nat) (text : String) :
    ((truncate limit text).length ≤ limit ↔ text.length ≤ limit ∨ 3 ≤ limit) ∧
      (text.length ≤ limit → truncate limit text = text) ∧
      truncate limit (truncate limit text) = truncate limit text := by
  refine ⟨?_, truncate_of_short, truncate_truncate limit text⟩
  by_cases short : text.length ≤ limit
  · simp [truncate_of_short short, short]
  · have filled := length_truncate_of_long (Nat.lt_of_not_le short)
    omega

theorem truncate_overruns_small_limit :
    truncate 2 "abcd" = "..." ∧ ¬ (truncate 2 "abcd").length ≤ 2 := by
  decide

end Poco
