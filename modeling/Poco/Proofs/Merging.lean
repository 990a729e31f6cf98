import Poco.Proofs.Places

namespace Poco

open Text (byteSize byteSize_append byteSize_cons)

/-! Merging keeps the earlier start and the later stop, told by their offsets.  In
one source an offset names a single place, so it does not matter which of two
spans comes first, and the merged span is the least one around both: it ends
at places of that source and shows the text of each where it lies. -/

namespace Position

variable {position place : Position} {source : List Char}

/-- A place that some prefix of `source` leads to. -/
def LiesIn (position : Position) (source : List Char) : Prop :=
  ∃ front, front <+: source ∧ start.advanceOver front = .ok position

theorem offset_of_start {front : List Char} (led : start.advanceOver front = .ok position) :
    position.offset.toNat = byteSize front := by
  rw [offset_of_advanceOver led]
  exact Nat.zero_add _

/-- An offset names one place of a source. -/
theorem LiesIn.eq_of_offset (first : position.LiesIn source) (second : place.LiesIn source)
    (same : position.offset = place.offset) : position = place := by
  obtain ⟨front, isFront, led⟩ := first
  obtain ⟨back, isBack, ledBack⟩ := second
  have sizes : byteSize front = byteSize back := by
    rw [← offset_of_start led, ← offset_of_start ledBack, same]
  have shorter := Text.prefix_of_byteSize_le isFront isBack (Nat.le_of_eq sizes)
  have longer := Text.prefix_of_byteSize_le isBack isFront (Nat.le_of_eq sizes.symm)
  obtain rfl := shorter.eq_of_length_le longer.length_le
  exact Except.ok.inj (led.symm.trans ledBack)

end Position

namespace Span

variable {span left right outer inner : Span} {source text : List Char} {offset : UInt64}

theorem merge_self (span : Span) : span.merge span = span := by
  simp [merge]

/-- Of several spans at one offset the last is kept, however they are grouped. -/
theorem merge_assoc (first second third : Span) :
    (first.merge second).merge third = first.merge (second.merge third) := by
  simp only [merge, Span.mk.injEq]
  grind

theorem le_start_merge_iff : offset ≤ (left.merge right).start.offset ↔
    offset ≤ left.start.offset ∧ offset ≤ right.start.offset := by
  simp only [merge]
  grind

theorem stop_merge_le_iff : (left.merge right).stop.offset ≤ offset ↔
    left.stop.offset ≤ offset ∧ right.stop.offset ≤ offset := by
  simp only [merge]
  grind

/-- `outer` starts no later and stops no earlier than `inner`. -/
structure Covers (outer inner : Span) : Prop where
  starts : outer.start.offset ≤ inner.start.offset
  stops : inner.stop.offset ≤ outer.stop.offset

theorem Covers.refl (span : Span) : span.Covers span :=
  ⟨UInt64.le_refl _, UInt64.le_refl _⟩

theorem covers_merge_iff :
    outer.Covers (left.merge right) ↔ outer.Covers left ∧ outer.Covers right := by
  constructor
  · rintro ⟨starts, stops⟩
    rw [le_start_merge_iff] at starts
    rw [stop_merge_le_iff] at stops
    exact ⟨⟨starts.1, stops.1⟩, ⟨starts.2, stops.2⟩⟩
  · rintro ⟨first, second⟩
    exact ⟨le_start_merge_iff.mpr ⟨first.starts, second.starts⟩,
      stop_merge_le_iff.mpr ⟨first.stops, second.stops⟩⟩

theorem Covers.contains {place : Position} (covers : outer.Covers inner)
    (inside : inner.contains place = true) : outer.contains place = true := by
  simp only [Span.contains, Bool.and_eq_true, decide_eq_true_eq] at inside ⊢
  exact ⟨UInt64.le_trans covers.starts inside.1, UInt64.lt_of_lt_of_le inside.2 covers.stops⟩

/-- Both ends are places of `source`, and come in order. -/
structure LiesIn (span : Span) (source : List Char) : Prop where
  starts : span.start.LiesIn source
  stops : span.stop.LiesIn source
  ordered : span.start.offset ≤ span.stop.offset

theorem LiesIn.merge_comm (first : left.LiesIn source) (second : right.LiesIn source) :
    left.merge right = right.merge left := by
  have starts := first.starts.eq_of_offset second.starts
  have stops := first.stops.eq_of_offset second.stops
  simp only [merge, Span.mk.injEq]
  grind

theorem LiesIn.merge (first : left.LiesIn source) (second : right.LiesIn source) :
    (left.merge right).LiesIn source where
  starts := by
    simp only [Span.merge]
    split
    · exact first.starts
    · exact second.starts
  stops := by
    simp only [Span.merge]
    split
    · exact first.stops
    · exact second.stops
  ordered := by
    have covers := (covers_merge_iff.mp (Covers.refl (left.merge right))).1
    exact UInt64.le_trans (UInt64.le_trans covers.starts first.ordered) covers.stops

theorem LiesIn.split (lies : span.LiesIn source) :
    ∃ before piece rest, source = before ++ piece ++ rest ∧
      span.start.offset.toNat = byteSize before ∧
      span.stop.offset.toNat = byteSize (before ++ piece) := by
  obtain ⟨before, isFront, led⟩ := lies.starts
  obtain ⟨through, isThrough, ledThrough⟩ := lies.stops
  have starts := Position.offset_of_start led
  have stops := Position.offset_of_start ledThrough
  have ordered := UInt64.le_iff_toNat_le.mp lies.ordered
  rw [starts, stops] at ordered
  obtain ⟨piece, rfl⟩ := Text.prefix_of_byteSize_le isFront isThrough ordered
  obtain ⟨rest, rfl⟩ := isThrough
  exact ⟨before, piece, rest, rfl, starts, stops⟩

theorem slice_split {before piece rest : List Char}
    (starts : span.start.offset.toNat = byteSize before)
    (stops : span.stop.offset.toNat = byteSize (before ++ piece)) :
    span.slice (before ++ piece ++ rest) = some piece := by
  rw [slice, starts, stops]
  exact Text.sliceBytes_byteSize before piece rest

/-- The length of a span is that of its text. -/
theorem LiesIn.length (lies : span.LiesIn source) :
    ∃ text size, span.slice source = some text ∧ span.length = .ok size ∧
      size.toNat = byteSize text := by
  obtain ⟨before, piece, rest, rfl, starts, stops⟩ := lies.split
  refine ⟨piece, _, slice_split starts stops, if_pos lies.ordered, ?_⟩
  rw [UInt64.toNat_sub_of_le _ _ lies.ordered, starts, stops, byteSize_append]
  omega

/-- The text of `inner` stands in `text`, the text of `outer`, between the offsets it has there. -/
def Shows (outer inner : Span) (source text : List Char) : Prop :=
  ∃ before piece rest, text = before ++ piece ++ rest ∧ inner.slice source = some piece ∧
    inner.start.offset.toNat = outer.start.offset.toNat + byteSize before ∧
    inner.stop.offset.toNat = outer.start.offset.toNat + byteSize (before ++ piece)

theorem Covers.shows (covers : outer.Covers inner) (outside : outer.LiesIn source)
    (inside : inner.LiesIn source) (shown : outer.slice source = some text) :
    outer.Shows inner source text := by
  obtain ⟨before, piece, rest, rfl, starts, stops⟩ := outside.split
  obtain rfl := Option.some.inj ((slice_split starts stops).symm.trans shown)
  obtain ⟨front, core, back, split, begins, ends⟩ := inside.split
  have later := UInt64.le_iff_toNat_le.mp covers.starts
  have sooner := UInt64.le_iff_toNat_le.mp covers.stops
  rw [starts, begins] at later
  rw [stops, ends] at sooner
  -- All four ends are prefixes of the one source, so their sizes say which stands in which.
  have isThrough : before ++ piece <+: front ++ core ++ back := ⟨rest, split⟩
  obtain ⟨skipped, rfl⟩ := Text.prefix_of_byteSize_le
    ((List.prefix_append before piece).trans isThrough) ⟨core ++ back, by simp⟩ later
  obtain ⟨after, parts⟩ := Text.prefix_of_byteSize_le
    (List.prefix_append (before ++ skipped ++ core) back) isThrough sooner
  have regrouped : before ++ piece = before ++ (skipped ++ core ++ after) := by simp [← parts]
  refine ⟨skipped, core, after, List.append_cancel_left regrouped, ?_, ?_, ?_⟩
  · rw [split]
    exact slice_split begins ends
  · rw [starts, begins, byteSize_append]
  · rw [starts, ends, List.append_assoc, byteSize_append]

end Span

/-- The least span around two that lie in one source lies in it too, and shows the text of both. -/
theorem merged_spans_cover_both :
    (∀ first second third : Span,
        (first.merge second).merge third = first.merge (second.merge third)) ∧
      (∀ span : Span, span.merge span = span) ∧
      ∀ (source : List Char) (left right : Span), left.LiesIn source → right.LiesIn source →
        left.merge right = right.merge left ∧
        (left.merge right).LiesIn source ∧
        (∀ place, left.contains place = true ∨ right.contains place = true →
          (left.merge right).contains place = true) ∧
        (left.merge right).Covers left ∧ (left.merge right).Covers right ∧
        (∀ outer : Span, outer.Covers left → outer.Covers right →
          outer.Covers (left.merge right)) ∧
        ∃ text size, (left.merge right).slice source = some text ∧
          (left.merge right).length = .ok size ∧ size.toNat = byteSize text ∧
          (left.merge right).Shows left source text ∧
          (left.merge right).Shows right source text := by
  refine ⟨Span.merge_assoc, Span.merge_self, ?_⟩
  intro source left right first second
  have lies := first.merge second
  obtain ⟨coversLeft, coversRight⟩ := Span.covers_merge_iff.mp (Span.Covers.refl (left.merge right))
  obtain ⟨text, size, shown, length, measures⟩ := lies.length
  refine ⟨first.merge_comm second, lies, ?_, coversLeft, coversRight, ?_, text, size, shown, length,
    measures, coversLeft.shows lies first shown, coversRight.shows lies second shown⟩
  · intro place inside
    exact inside.elim coversLeft.contains coversRight.contains
  · intro outer aroundLeft aroundRight
    exact Span.covers_merge_iff.mpr ⟨aroundLeft, aroundRight⟩

theorem merged_spans_cover_both_overlapping :
    let source := ['é', '\n', 'x', ' ', 'y']
    let left : Span := { start := ⟨0, 1, 1⟩, stop := ⟨4, 2, 2⟩ }
    let right : Span := { start := ⟨2, 1, 2⟩, stop := ⟨5, 2, 3⟩ }
    left.LiesIn source ∧ right.LiesIn source ∧
      left.merge right = right.merge left ∧ (left.merge right).LiesIn source ∧
      (∀ place, left.contains place = true ∨ right.contains place = true →
        (left.merge right).contains place = true) ∧
      (left.merge right).Covers left ∧ (left.merge right).Covers right ∧
      (∀ outer : Span, outer.Covers left → outer.Covers right →
        outer.Covers (left.merge right)) ∧
      ∃ text size, (left.merge right).slice source = some text ∧
        (left.merge right).length = .ok size ∧ size.toNat = byteSize text ∧
        (left.merge right).Shows left source text ∧
        (left.merge right).Shows right source text := by
  intro source left right
  have first : left.LiesIn source :=
    ⟨⟨[], by decide, rfl⟩, ⟨['é', '\n', 'x'], by decide, rfl⟩, by decide⟩
  have second : right.LiesIn source :=
    ⟨⟨['é'], by decide, rfl⟩, ⟨['é', '\n', 'x', ' '], by decide, rfl⟩, by decide⟩
  exact ⟨first, second, merged_spans_cover_both.2.2 source left right first second⟩

end Poco
