import Poco.Files.Reading

namespace Poco.Files

variable {bytes : ByteArray} {start stop : Nat} {c : Char}

/-- From `start` on, `bytes` are text up to `stop` and not up to any later place. -/
structure TextBetween (bytes : ByteArray) (start stop : Nat) : Prop where
  ordered : start ≤ stop
  within : stop ≤ bytes.size
  valid : (bytes.extract start stop).IsValidUTF8
  longest : ∀ other ≤ bytes.size, (bytes.extract start other).IsValidUTF8 → other ≤ stop

theorem TextBetween.unique {other : Nat} (first : TextBetween bytes start stop)
    (second : TextBetween bytes start other) : stop = other :=
  Nat.le_antisymm (second.longest stop first.within first.valid)
    (first.longest other second.within second.valid)

/-- The bytes of a character that can be read at a place. -/
theorem extract_of_decode (decoded : bytes.utf8DecodeChar? start = some c) :
    bytes.extract start (start + c.utf8Size) = [c].utf8Encode := by
  have fits := ByteArray.le_size_of_utf8DecodeChar?_eq_some decoded
  rw [ByteArray.utf8DecodeChar?_eq_utf8DecodeChar?_extract] at decoded
  obtain ⟨rest, split⟩ := ByteArray.exists_of_utf8DecodeChar?_eq_some decoded
  rw [ByteArray.extract_eq_extract_append_extract (start + c.utf8Size) (by omega) fits] at split
  rw [List.utf8Encode_singleton]
  refine ByteArray.append_inj_left split ?_
  simp
  omega

/-- Text goes on to be text behind its first character. -/
theorem valid_iff_of_decode (decoded : bytes.utf8DecodeChar? start = some c)
    (fits : start + c.utf8Size ≤ stop) :
    (bytes.extract start stop).IsValidUTF8 ↔
      (bytes.extract (start + c.utf8Size) stop).IsValidUTF8 := by
  rw [ByteArray.extract_eq_extract_append_extract (start + c.utf8Size) (by omega) fits,
    extract_of_decode decoded, ByteArray.isValidUTF8_utf8Encode_singleton_append_iff]

/-- Text that is not empty begins with a character. -/
theorem decode_of_valid (nonempty : start < stop) (within : stop ≤ bytes.size)
    (valid : (bytes.extract start stop).IsValidUTF8) :
    ∃ c, bytes.utf8DecodeChar? start = some c ∧ start + c.utf8Size ≤ stop := by
  have size : (bytes.extract start stop).size = stop - start := by
    rw [ByteArray.size_extract, Nat.min_eq_left within]
  obtain ⟨text, spelled⟩ := valid
  cases text with
  | nil =>
      rw [spelled] at size
      simp at size
      omega
  | cons c rest =>
      have decoded : (bytes.extract start stop).utf8DecodeChar? 0 = some c := by
        rw [spelled]
        exact List.utf8DecodeChar?_utf8Encode_cons
      refine ⟨c, ?_, ?_⟩
      · rw [ByteArray.utf8DecodeChar?_eq_utf8DecodeChar?_extract,
          ByteArray.extract_eq_extract_append_extract stop (by omega) within]
        exact ByteArray.utf8DecodeChar?_append_eq_some decoded _
      · have fits := ByteArray.le_size_of_utf8DecodeChar?_eq_some decoded
        omega

theorem textBetween_validUpTo (bytes : ByteArray) {start : Nat} (within : start ≤ bytes.size) :
    TextBetween bytes start (validUpTo bytes start) := by
  fun_induction validUpTo bytes start with
  | case1 start inside stuck =>
      refine ⟨Nat.le_refl _, within, ?_, ?_⟩
      · rw [ByteArray.extract_same]
        exact ByteArray.isValidUTF8_empty
      · intro other fits valid
        refine Nat.le_of_not_lt fun later => ?_
        obtain ⟨c, decoded, -⟩ := decode_of_valid later fits valid
        rw [stuck] at decoded
        contradiction
  | case2 start inside c decoded ih =>
      have text := ih (ByteArray.le_size_of_utf8DecodeChar?_eq_some decoded)
      refine ⟨Nat.le_trans (Nat.le_add_right _ _) text.ordered, text.within, ?_, ?_⟩
      · exact (valid_iff_of_decode decoded text.ordered).mpr text.valid
      · intro other fits valid
        by_cases later : start < other
        · obtain ⟨d, same, behind⟩ := decode_of_valid later fits valid
          obtain rfl := Option.some.inj (same.symm.trans decoded)
          exact text.longest other fits ((valid_iff_of_decode decoded behind).mp valid)
        · have ordered := text.ordered
          omega
  | case3 start outside =>
      refine ⟨Nat.le_refl _, within, ?_, fun other fits _ => by omega⟩
      rw [ByteArray.extract_same]
      exact ByteArray.isValidUTF8_empty

/-- The longest beginning of `bytes` that is text has `length` bytes. -/
def TextUpTo (bytes : ByteArray) (length : Nat) : Prop :=
  TextBetween bytes 0 length

theorem textUpTo_iff (bytes : ByteArray) (length : Nat) :
    TextUpTo bytes length ↔ validUpTo bytes 0 = length := by
  have text := textBetween_validUpTo bytes (Nat.zero_le _)
  constructor
  · exact text.unique
  · rintro rfl
    exact text

end Poco.Files
