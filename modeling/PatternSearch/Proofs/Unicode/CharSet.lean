import PatternSearch.Unicode.CharSet

/-!
# Members of sets of characters

Each operation on spans is described by the members of its result.
-/

namespace PatternSearch.Unicode

namespace Span

theorem contains_iff {span : Span} {c : Char} :
    span.contains c = true ↔ span.lo ≤ c ∧ c ≤ span.hi := by
  simp [contains]

theorem contains_single {c d : Char} : (single c).contains d = true ↔ d = c := by
  rw [contains_iff]
  constructor
  · rintro ⟨atLeast, atMost⟩
    exact Char.le_antisymm atMost atLeast
  · rintro rfl
    exact ⟨Char.le_refl d, Char.le_refl d⟩

/-- Spans without a code point between them cover their hull. -/
theorem contains_hull {a b : Span} {c : Char} (meets : CharSet.isApart a.hi b.lo = false)
    (meets' : CharSet.isApart b.hi a.lo = false) :
    (a.hull b).contains c = true ↔ a.contains c = true ∨ b.contains c = true := by
  have orderA := a.le
  have orderB := b.le
  simp only [contains_iff, hull, CharSet.isApart, decide_eq_false_iff_not, Char.le_def, Char.lt_def,
    UInt32.le_iff_toNat_le, UInt32.lt_iff_toNat_lt, Char.toNat] at *
  split <;> split <;> omega

end Span

namespace CharSet

@[simp] theorem contains_nothing (c : Char) : nothing.contains c = false := rfl

@[simp] theorem contains_single {c d : Char} : (single c).contains d = true ↔ d = c := by
  simp [contains, single, Span.contains_single]

theorem contains_insertSpan (span : Span) (spans : List Span) (c : Char) :
    (∃ s ∈ insertSpan span spans, s.contains c = true) ↔
      span.contains c = true ∨ ∃ s ∈ spans, s.contains c = true := by
  induction spans generalizing span with
  | nil => simp [insertSpan]
  | cons first rest ih =>
    rw [insertSpan]
    split
    · simp
    · next meets =>
      split
      · simp [ih, or_left_comm]
      · next meets' =>
        rw [ih, Span.contains_hull (by simpa using meets) (by simpa using meets')]
        simp [or_assoc]

theorem contains_insertAll {spans : List Span} {s : CharSet} {c : Char} :
    (s.insertAll spans).contains c = true ↔
      (∃ span ∈ spans, span.contains c = true) ∨ s.contains c = true := by
  simp only [contains, insertAll, List.any_eq_true]
  induction spans with
  | nil => simp
  | cons span rest ih =>
    rw [List.foldr_cons, contains_insertSpan, ih]
    simp [or_assoc]

theorem contains_union {a b : CharSet} {c : Char} :
    (a.union b).contains c = true ↔ a.contains c = true ∨ b.contains c = true := by
  rw [union, contains_insertAll, ← List.any_eq_true]
  rfl

theorem eq_single_of_only? {s : CharSet} {c : Char} (h : s.only? = some c) : s = single c := by
  rw [only?] at h
  split at h
  · next span spans =>
    split at h
    · next same =>
      obtain ⟨lo, hi, le⟩ := span
      obtain rfl : lo = hi := same
      cases h
      cases s
      cases spans
      rfl
    · cases h
  · cases h

end CharSet

end PatternSearch.Unicode
