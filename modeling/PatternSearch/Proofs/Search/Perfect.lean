import PatternSearch.Proofs.Search.Scoring

/-!
# The perfect score exactly

A score is perfect exactly if no negative example is matched and the credits, added up as they are,
come to at most one half less than the number of positive examples. Every matched negative example
lowers the bound on the score by one.
-/

namespace PatternSearch

open Text Binary64

namespace Matcher

variable (m : Matcher) (examples : Examples)

/-- How many negative examples are matched as a whole. -/
def mistakes : Nat := examples.negative.countP m.whole.isMatch

/-- A text that a machine of 64 bits can hold earns a number. -/
theorem credit_ne_nan {text : String} (short : unitWidth text.toList < 2 ^ 64) :
    m.credit text ≠ nan := by
  rcases m.credit_eq_or text with whole | missed | ⟨taken, le, positive, share⟩
  · rw [whole, ofNat_one]
    intro spoiled
    cases spoiled
  · rw [missed]
    intro spoiled
    cases spoiled
  · rw [share]
    exact ratio_ne_nan le positive short

theorem nan_notMem_credits (short : ∀ text ∈ examples.positive, unitWidth text.toList < 2 ^ 64) :
    nan ∉ examples.positive.map m.credit := by
  intro spoiled
  obtain ⟨text, mem, no⟩ := List.mem_map.mp spoiled
  exact m.credit_ne_nan (short text mem) no

/-- Credits that are numbers come to a number, which is not above the number of the texts. -/
theorem credits_of_numbers (numbers : nan ∉ examples.positive.map m.credit) :
    (m.credits examples).isFinite = true ∧ 0 ≤ (m.credits examples).value ∧
      (m.credits examples).value ≤ tally examples.positive.length := by
  obtain ⟨finite, nonneg, le⟩ := value_sum (m.credits_terms numbers)
  have all : (examples.positive.map m.credit).countP (fun x => 0 < x.value) ≤
      examples.positive.length := by
    rw [← List.length_map m.credit]
    exact List.countP_le_length
  exact ⟨finite, nonneg, le.trans (tally_mono all)⟩

/-- Without matched negative examples the credits alone decide. -/
theorem roundHalfUp_score_eq_goal (unmatched : m.mistakes examples = 0)
    (finite : (m.credits examples).isFinite = true)
    (near : 2 * (examples.goal * one) ≤ 2 * (m.credits examples).value + one) :
    (m.score examples).roundHalfUp = examples.goal := by
  rcases m.credits_eq_nan_or examples with ⟨no, -⟩ | ⟨-, nonneg, le⟩
  · rw [no] at finite
    cases finite
  · have enough := le.trans (tally_mono List.countP_le_length)
    obtain ⟨finiteScore, value⟩ := m.value_score examples finite nonneg enough
    change examples.negative.countP m.whole.isMatch = 0 at unmatched
    rw [unmatched, tally_zero, Int.sub_zero,
      nearestInt_of_representable (representable_value (m.canonical_credits examples))] at value
    -- The sum of the credits saturates, so the number of positive examples is far from the clamp.
    have inRange : examples.goal ≤ maxInt64 := by
      have saturated : (m.credits examples).value ≤ 2 ^ 53 * one := by
        have most : min examples.positive.length (2 ^ 53) * one ≤ 2 ^ 53 * one :=
          Nat.mul_le_mul_right one (Nat.min_le_right _ _)
        have most' := Int.ofNat_le.mpr most
        rw [tally] at enough
        push_cast at most' enough ⊢
        omega
      have positive := natCast_one_pos
      have less : examples.goal * one < (2 ^ 53 + 1) * one := by omega
      have bound := Int.lt_of_mul_lt_mul_right less positive.le
      unfold maxInt64
      omega
    apply Int.le_antisymm (m.roundHalfUp_score_le_goal examples)
    apply le_roundHalfUp finiteScore (canonical_add _ _) _ inRange
    rw [value]
    exact near

/-- The score is perfect exactly if no negative example is matched and the credits are at most one
half short. -/
theorem roundHalfUp_score_eq_goal_iff : (m.score examples).roundHalfUp = examples.goal ↔
    m.mistakes examples = 0 ∧ (m.credits examples).isFinite = true ∧
      2 * (examples.goal * one) ≤ 2 * (m.credits examples).value + one := by
  constructor
  · intro perfect
    obtain ⟨negatives, finite, near, -⟩ := m.of_roundHalfUp_score_eq_goal examples perfect
    refine ⟨List.countP_eq_zero.mpr ?_, finite, near⟩
    intro text mem
    exact Bool.eq_false_iff.mp (negatives text mem)
  · rintro ⟨unmatched, finite, near⟩
    exact m.roundHalfUp_score_eq_goal examples unmatched finite near

/-- Every matched negative example lowers the bound. -/
theorem roundHalfUp_score_le (finite : (m.credits examples).isFinite = true)
    (nonneg : 0 ≤ (m.credits examples).value)
    (le : (m.credits examples).value ≤ tally examples.positive.length)
    (few : m.mistakes examples ≤ 2 ^ 53) :
    (m.score examples).roundHalfUp ≤ examples.goal - m.mistakes examples := by
  obtain ⟨finiteScore, value⟩ := m.value_score examples finite nonneg le
  change (m.score examples).value =
    nearestInt ((m.credits examples).value - tally (m.mistakes examples)) at value
  have exact' : tally (m.mistakes examples) = m.mistakes examples * one := by
    rw [tally, Nat.min_eq_left few, Int.natCast_mul]
  have whole : tally examples.positive.length - tally (m.mistakes examples) =
      ((min examples.positive.length (2 ^ 53) : Nat) - m.mistakes examples : Int) * one := by
    rw [exact', tally, Int.natCast_mul, Int.sub_mul]
  have fixed : nearestInt (tally examples.positive.length - tally (m.mistakes examples)) =
      tally examples.positive.length - tally (m.mistakes examples) := by
    apply nearestInt_of_representable
    rw [whole, Int.natAbs_mul, Int.natAbs_natCast]
    apply representable_whole
    omega
  have bound := tally_le examples.positive.length
  have less := nearestInt_mono (show (m.credits examples).value - tally (m.mistakes examples) ≤
    tally examples.positive.length - tally (m.mistakes examples) by omega)
  rw [fixed] at less
  apply roundHalfUp_le finiteScore (canonical_add _ _)
  · rw [value, Int.sub_mul, Examples.goal, ← exact']
    omega
  · unfold minInt64 Examples.goal
    omega

end Matcher

namespace Candidate

/-- What the score of an evaluated candidate means. The bound is for texts that a machine of 64 bits
can hold; the share of a longer text may be no number. -/
theorem evaluate_score_eq_goal_iff {c : Candidate} {m : Matcher} (examples : Examples)
    (compiled : Matcher.compile c.fragments = .ok m) :
    ∃ scored, c.evaluate examples = .ok scored ∧
      (scored.score = examples.goal ↔ m.mistakes examples = 0 ∧
        (m.credits examples).isFinite = true ∧
        (examples.positive.length : ℚ) - 1 / 2 ≤ (m.credits examples).toRat) ∧
      scored.score ≤ examples.goal ∧
      (examples.negative.length ≤ 2 ^ 53 →
        (∀ text ∈ examples.positive, unitWidth text.toList < 2 ^ 64) →
        (m.credits examples).isFinite = true ∧
          scored.score ≤ examples.goal - m.mistakes examples) := by
  refine ⟨c.scoredBy m examples, ?_, ?_, m.roundHalfUp_score_le_goal examples, ?_⟩
  · rw [evaluate, compiled]
    rfl
  · have near := @sub_half_le_toRat_iff examples.goal (m.credits examples)
    change ((examples.positive.length : Int) : ℚ) - 1 / 2 ≤ _ ↔ _ at near
    rw [Int.cast_natCast] at near
    rw [near]
    exact m.roundHalfUp_score_eq_goal_iff examples
  · intro few short
    obtain ⟨finite, nonneg, le⟩ :=
      m.credits_of_numbers examples (m.nan_notMem_credits examples short)
    exact ⟨finite, m.roundHalfUp_score_le examples finite nonneg le
      (List.countP_le_length.trans few)⟩

/-- One half of a credit is missing, which is just enough; a matched negative example is not. -/
theorem evaluate_half_missing :
    let c : Candidate := { id := 0, fragments := [⟨"a"⟩], generation := 0 }
    ∃ m, Matcher.compile c.fragments = .ok m ∧
      (∃ scored, c.evaluate ⟨["a", "ab"], ["b"]⟩ = .ok scored ∧ scored.score = 2 ∧
        (2 : ℚ) - 1 / 2 ≤ (m.credits ⟨["a", "ab"], ["b"]⟩).toRat) ∧
      ∃ scored, c.evaluate ⟨["a", "ab"], ["b", "a"]⟩ = .ok scored ∧ scored.score ≤ 2 - 1 := by
  intro c
  obtain ⟨m, compiled, verdict⟩ := @exists_of_toOption_map _ _ _ (Matcher.compile c.fragments)
    (fun m => ((m.score ⟨["a", "ab"], ["b"]⟩).roundHalfUp, m.mistakes ⟨["a", "ab"], ["b", "a"]⟩))
    (2, 1) (by decide +kernel)
  obtain ⟨score, mistakes⟩ := Prod.mk.inj verdict
  refine ⟨m, compiled, ?_, ?_⟩
  · obtain ⟨scored, evaluated, exactly', -⟩ :=
      evaluate_score_eq_goal_iff ⟨["a", "ab"], ["b"]⟩ compiled
    have same : scored.score = 2 := by
      rw [evaluate, compiled] at evaluated
      cases evaluated
      exact score
    obtain ⟨-, -, near⟩ := exactly'.mp same
    exact ⟨scored, evaluated, same, by simpa using near⟩
  · obtain ⟨scored, evaluated, -, -, bound⟩ :=
      evaluate_score_eq_goal_iff ⟨["a", "ab"], ["b", "a"]⟩ compiled
    obtain ⟨-, le⟩ := bound (by decide) (by decide)
    rw [mistakes] at le
    exact ⟨scored, evaluated, le⟩

end Candidate

end PatternSearch
