import PatternSearch.Proofs.Number.HalfUp
import PatternSearch.Proofs.Number.Ratio
import PatternSearch.Proofs.Pattern.Anchoring

/-!
# The meaning of the perfect score

Each credit lies between zero and one and each penalty is zero or minus one. So the score is not above
the number of positive examples, a matched negative example keeps it below that number, and a
perfect score leaves at most one half of a credit missing. It does not say that every positive
example is matched as a whole.
-/

namespace PatternSearch

open Text Binary64

theorem Pattern.Regex.find_taken {r : Pattern.Regex} {text : List Char} {found : Pattern.Regex.Found}
    (h : r.find text = some found) : ∃ first n, found.taken = (text.drop first).take n := by
  rw [Pattern.Regex.find] at h
  split at h
  · obtain ⟨⟨first, last⟩, -, rfl⟩ := Option.map_eq_some_iff.mp h
    exact ⟨first, last - first, rfl⟩
  · cases h

theorem Text.unitWidth_part_le (text : List Char) (first n : Nat) :
    unitWidth ((text.drop first).take n) ≤ unitWidth text := by
  have front := congrArg unitWidth (List.take_append_drop first text)
  have back := congrArg unitWidth (List.take_append_drop n (text.drop first))
  rw [unitWidth_append] at front back
  omega

theorem Examples.minInt64_lt_goal_sub_one (examples : Examples) : minInt64 < examples.goal - 1 := by
  unfold minInt64 Examples.goal
  omega

namespace Matcher

variable (m : Matcher) (examples : Examples)

/-- The sum of what the positive examples earn, from left to right. -/
def credits : Binary64 := Binary64.sum (examples.positive.map m.credit)

/-- The sum of what the negative examples cost. -/
def penalties : Binary64 := Binary64.sum (examples.negative.map m.penalty)

/-- A text is matched as a whole, or else some of it is taken by the first match. -/
def Touches (text : String) : Prop :=
  m.whole.isMatch text = true ∨ ∃ found, m.part.find text = some found ∧ found.taken ≠ []

theorem score_eq : m.score examples = m.credits examples + m.penalties examples := rfl

/-- A credit is one, zero, or the share of the text that a match in it takes. -/
theorem credit_eq_or (text : String) : m.credit text = .ofNat 1 ∨ m.credit text = .zero ∨
    ∃ taken ≤ unitWidth text.toList, 0 < unitWidth text.toList ∧
      m.credit text = .ofNat taken / .ofNat (unitWidth text.toList) := by
  rw [credit]
  split
  · exact Or.inl rfl
  · dsimp only
    split
    · exact Or.inr (Or.inl rfl)
    · rename_i width
      split
      · rename_i found h
        obtain ⟨first, n, taken⟩ := Pattern.Regex.find_taken h
        refine Or.inr (Or.inr ⟨unitWidth found.taken, ?_, by omega, rfl⟩)
        rw [taken]
        exact unitWidth_part_le _ _ _
      · exact Or.inr (Or.inl rfl)

theorem credit_eq_nan_or (text : String) : m.credit text = nan ∨
    (m.credit text).isFinite = true ∧ 0 ≤ (m.credit text).value ∧ (m.credit text).value ≤ one := by
  have nonneg : (0 : Int) ≤ one := Int.natCast_nonneg _
  rcases m.credit_eq_or text with whole | missed | ⟨taken, le, positive, share⟩
  · rw [whole, ofNat_one]
    exact Or.inr ⟨rfl, nonneg, Int.le_refl _⟩
  · rw [missed]
    exact Or.inr ⟨rfl, Int.le_refl _, nonneg⟩
  · rw [share]
    exact ratio_eq_nan_or le positive

/-- Only a text that is touched earns anything. -/
theorem touches_of_credit_pos {text : String} (h : 0 < (m.credit text).value) : m.Touches text := by
  by_cases whole : m.whole.isMatch text = true
  · exact Or.inl whole
  · refine Or.inr ?_
    rw [credit, if_neg whole] at h
    dsimp only at h
    split at h
    · cases h
    · rename_i width
      split at h
      · rename_i found eq
        refine ⟨found, eq, ?_⟩
        intro empty
        rw [empty, unitWidth_nil, value_zero_ratio (by omega)] at h
        omega
      · cases h

theorem penalty_eq (text : String) :
    m.penalty text = if m.whole.isMatch text then finite true one else zero := by
  rw [penalty, ofNat_one]
  rfl

/-- The penalties depend on the number of negative examples that are matched, not on their order. -/
theorem penalties_eq : m.penalties examples =
    losses (!examples.negative.isEmpty) (examples.negative.countP m.whole.isMatch) := by
  have terms : ∀ x ∈ examples.negative.map m.penalty, x = zero ∨ x = finite true one := by
    intro x mem
    obtain ⟨text, -, rfl⟩ := List.mem_map.mp mem
    rw [penalty_eq]
    split
    · exact Or.inr rfl
    · exact Or.inl rfl
  have count : (examples.negative.map m.penalty).count (finite true one) =
      examples.negative.countP m.whole.isMatch := by
    rw [List.count, List.countP_map]
    apply List.countP_congr
    intro text _
    rw [Function.comp, penalty_eq]
    cases m.whole.isMatch text with
    | true => simp
    | false => simp [zero]
  have sum := sum_losses terms
  rwa [count, List.isEmpty_map] at sum

/-- The penalties count the negative examples that are matched. -/
theorem value_penalties : (m.penalties examples).isFinite = true ∧ (m.penalties examples).value =
    -tally (examples.negative.countP m.whole.isMatch) := by
  rw [penalties_eq]
  exact value_losses _ _

/-- The terms of a sum of credits that are all numbers. -/
theorem credits_terms {examples : Examples} (numbers : nan ∉ examples.positive.map m.credit) :
    ∀ x ∈ examples.positive.map m.credit, x.isFinite = true ∧ 0 ≤ x.value ∧ x.value ≤ one := by
  intro x mem
  obtain ⟨text, -, rfl⟩ := List.mem_map.mp mem
  rcases m.credit_eq_nan_or text with no | number
  · exact absurd (no ▸ mem) numbers
  · exact number

/-- Either some credit is no number, or the credits come to a number that is not above the number of
positive examples that are touched. -/
theorem credits_eq_nan_or :
    m.credits examples = nan ∧ examples.positive ≠ [] ∨
      (m.credits examples).isFinite = true ∧ 0 ≤ (m.credits examples).value ∧
        (m.credits examples).value ≤
          tally (examples.positive.countP fun text => 0 < (m.credit text).value) := by
  by_cases spoiled : nan ∈ examples.positive.map m.credit
  · refine Or.inl ⟨sum_of_nan_mem spoiled, ?_⟩
    rintro empty
    rw [empty] at spoiled
    cases spoiled
  · have sum := value_sum (m.credits_terms spoiled)
    rw [List.countP_map] at sum
    exact Or.inr sum

theorem canonical_credits : Canonical (m.credits examples) := canonical_sum _

theorem score_of_nan (h : m.credits examples = nan) : (m.score examples).roundHalfUp = 0 := by
  rw [score_eq, h, nan_add, roundHalfUp_nan]

/-- The score in terms of the credits and the number of matched negative examples. -/
theorem value_score (finite : (m.credits examples).isFinite = true)
    (nonneg : 0 ≤ (m.credits examples).value)
    (le : (m.credits examples).value ≤ tally examples.positive.length) :
    (m.score examples).isFinite = true ∧ (m.score examples).value =
      nearestInt ((m.credits examples).value -
        tally (examples.negative.countP m.whole.isMatch)) := by
  obtain ⟨finite', value⟩ := m.value_penalties examples
  obtain ⟨lower, upper⟩ :=
    nearestInt_sub_tally (examples.negative.countP m.whole.isMatch) nonneg le
  have below := tally_lt_overflow examples.positive.length
  have above := tally_lt_overflow (examples.negative.countP m.whole.isMatch)
  have sum := value_add finite finite'
  rw [value, ← Int.sub_eq_add_neg] at sum
  exact sum (by omega)

/-- The perfect score is never passed. -/
theorem roundHalfUp_score_le_goal : (m.score examples).roundHalfUp ≤ examples.goal := by
  rcases m.credits_eq_nan_or examples with ⟨no, -⟩ | ⟨finite, nonneg, le⟩
  · rw [m.score_of_nan examples no]
    exact Int.natCast_nonneg _
  · have enough := le.trans (tally_mono List.countP_le_length)
    obtain ⟨finiteScore, value⟩ := m.value_score examples finite nonneg enough
    have cost := tally_nonneg (examples.negative.countP m.whole.isMatch)
    apply roundHalfUp_le finiteScore (canonical_add _ _)
    · rw [value]
      exact (nearestInt_le_tally (by omega)).trans (tally_le _)
    · have := examples.minInt64_lt_goal_sub_one
      omega

/-- One matched negative example keeps the score below the perfect one. -/
theorem roundHalfUp_score_lt_goal (finite : (m.credits examples).isFinite = true)
    (nonneg : 0 ≤ (m.credits examples).value)
    (le : (m.credits examples).value ≤ tally examples.positive.length)
    (matched : 0 < examples.negative.countP m.whole.isMatch) :
    (m.score examples).roundHalfUp < examples.goal := by
  obtain ⟨finiteScore, value⟩ := m.value_score examples finite nonneg le
  have loss := tally_mono matched
  rw [tally_one] at loss
  have less := nearestInt_mono (show (m.credits examples).value -
    tally (examples.negative.countP m.whole.isMatch) ≤ tally examples.positive.length - one by omega)
  rw [nearestInt_of_representable (representable_tally_sub_one _)] at less
  have bound := tally_le examples.positive.length
  suffices h : (m.score examples).roundHalfUp ≤ examples.goal - 1 by omega
  apply roundHalfUp_le finiteScore (canonical_add _ _)
  · rw [value, Int.sub_mul, Int.one_mul, Examples.goal]
    omega
  · exact examples.minInt64_lt_goal_sub_one.le

/-- Credits that are at most one half short of the number of positive examples come from all of
them. -/
theorem touches_of_near (nearly : 2 * (examples.goal * one) ≤ 2 * (m.credits examples).value + one)
    (le : (m.credits examples).value ≤
      tally (examples.positive.countP fun text => 0 < (m.credit text).value)) :
    ∀ text ∈ examples.positive, m.Touches text := by
  have all : examples.positive.countP (fun text => 0 < (m.credit text).value) =
      examples.positive.length := by
    apply Nat.le_antisymm List.countP_le_length
    by_contra missing
    have bound := le.trans (tally_le _)
    have fewer := Nat.mul_le_mul_right one (Nat.succ_le_of_lt (Nat.lt_of_not_le missing))
    have positive := one_pos
    rw [Examples.goal] at nearly
    rw [Nat.succ_mul] at fewer
    have fewer' := Int.ofNat_le.mpr fewer
    rw [Int.natCast_add, Int.natCast_mul, Int.natCast_mul] at fewer'
    omega
  intro text mem
  apply m.touches_of_credit_pos
  simpa using List.countP_eq_length.mp all text mem

/-- What a perfect score means. -/
theorem of_roundHalfUp_score_eq_goal (h : (m.score examples).roundHalfUp = examples.goal) :
    (∀ text ∈ examples.negative, m.whole.isMatch text = false) ∧
      (m.credits examples).isFinite = true ∧
      2 * (examples.goal * one) ≤ 2 * (m.credits examples).value + one ∧
      ∀ text ∈ examples.positive, m.Touches text := by
  rcases m.credits_eq_nan_or examples with ⟨no, some⟩ | ⟨finite, nonneg, le⟩
  · rw [m.score_of_nan examples no] at h
    have positive := List.length_pos_iff.mpr some
    rw [Examples.goal] at h
    omega
  · have enough := le.trans (tally_mono List.countP_le_length)
    have unmatched : examples.negative.countP m.whole.isMatch = 0 := by
      by_contra matched
      have less := m.roundHalfUp_score_lt_goal examples finite nonneg enough (by omega)
      omega
    obtain ⟨finiteScore, value⟩ := m.value_score examples finite nonneg enough
    rw [unmatched, tally_zero, Int.sub_zero,
      nearestInt_of_representable (representable_value (m.canonical_credits examples))] at value
    have inRange := examples.minInt64_lt_goal_sub_one
    have nearly := le_of_roundHalfUp_eq finiteScore (canonical_add _ _) h (by omega)
    rw [value] at nearly
    refine ⟨?_, finite, nearly, m.touches_of_near examples nearly le⟩
    intro text mem
    exact Bool.eq_false_iff.mpr (List.countP_eq_zero.mp unmatched text mem)

end Matcher

end PatternSearch
