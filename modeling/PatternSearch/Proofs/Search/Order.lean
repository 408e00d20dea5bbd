import PatternSearch.Proofs.Number.Error
import PatternSearch.Proofs.Search.Alike
import PatternSearch.Proofs.Search.Perfect

/-!
# The order of the examples

Credits are added up from left to right, and each addition rounds. So the order of the positive
examples may decide on which side of a half the sum comes to lie, and with that about the score and
about the whole search. It does not matter where no half is near, nor for credits with few binary
digits; and the order of the negative examples never matters.
-/

namespace PatternSearch

open Text Binary64

attribute [local irreducible] one overflow

/-- The same examples in another order. -/
structure Examples.Reordered (a b : Examples) : Prop where
  positive : a.positive.Perm b.positive
  negative : a.negative.Perm b.negative

/-- How far a score may be from the exact one before it is rounded to a whole number. -/
def Examples.drift (examples : Examples) : ℚ :=
  Binary64.drift examples.positive.length +
    (max examples.positive.length examples.negative.length : Nat) / 2 ^ 53

namespace Matcher

variable (m : Matcher) (examples : Examples)

/-- What the positive examples earn, without any rounding of the sum. -/
def exactCredits : ℚ := (examples.positive.map fun text => (m.credit text).toRat).sum

/-- No half lies as near to the exact sum as the errors may reach. -/
def Clear : Prop := ∀ z : Int, examples.drift < |m.exactCredits examples - (z + 1 / 2)|

/-- The credits have so few binary digits that they are added without an error. -/
def Exact : Prop := ∃ digits, examples.positive.length * 2 ^ digits ≤ 2 ^ 53 ∧
  ∀ text ∈ examples.positive, ∃ n : Int, (m.credit text).toRat = n / 2 ^ digits

/-- The exact score, before it is rounded to a whole number. The mistakes count up to `2 ^ 53`. -/
def exactScore : ℚ := m.exactCredits examples - (min (m.mistakes examples) (2 ^ 53) : Nat)

variable {m examples}

/-! ## The error of a score -/

theorem credits_error (numbers : nan ∉ examples.positive.map m.credit) :
    |(m.credits examples).toRat - m.exactCredits examples| ≤
      Binary64.drift examples.positive.length := by
  have error := sum_error (m.credits_terms numbers)
  rwa [List.map_map, List.length_map] at error

theorem isFinite_score (numbers : nan ∉ examples.positive.map m.credit) :
    (m.score examples).isFinite = true := by
  obtain ⟨finite, nonneg, le⟩ := m.credits_of_numbers examples numbers
  exact (m.value_score examples finite nonneg le).1

/-- What the last addition rounds. -/
theorem exactDifference :
    (((m.credits examples).value - tally (m.mistakes examples) : Int) : ℚ) / one =
      (m.credits examples).toRat - (min (m.mistakes examples) (2 ^ 53) : Nat) := by
  have positive : (0 : ℚ) < one := Nat.cast_pos.mpr one_pos
  rw [Int.cast_sub, sub_div, tally, Int.cast_natCast, Nat.cast_mul,
    mul_div_cancel_right₀ _ positive.ne']
  rfl

theorem abs_exactDifference_le (numbers : nan ∉ examples.positive.map m.credit) :
    |(m.credits examples).toRat - (min (m.mistakes examples) (2 ^ 53) : Nat)| ≤
      (max examples.positive.length examples.negative.length : Nat) := by
  obtain ⟨finite, nonneg, le⟩ := m.credits_of_numbers examples numbers
  have above : 0 ≤ (m.credits examples).toRat := toRat_nonneg nonneg
  have below : (m.credits examples).toRat ≤ examples.positive.length := toRat_le le
  have few : min (m.mistakes examples) (2 ^ 53) ≤ examples.negative.length :=
    (Nat.min_le_left _ _).trans List.countP_le_length
  have cost : ((min (m.mistakes examples) (2 ^ 53) : Nat) : ℚ) ≤ examples.negative.length :=
    Nat.cast_le.mpr few
  have gain : (0 : ℚ) ≤ (min (m.mistakes examples) (2 ^ 53) : Nat) := Nat.cast_nonneg _
  have left := (Nat.cast_le (α := ℚ)).mpr
    (Nat.le_max_left examples.positive.length examples.negative.length)
  have right := (Nat.cast_le (α := ℚ)).mpr
    (Nat.le_max_right examples.positive.length examples.negative.length)
  rw [abs_le]
  constructor
  · linarith
  · linarith

/-- The error of the credits, and that of the last addition. -/
theorem score_error (numbers : nan ∉ examples.positive.map m.credit) :
    |(m.score examples).toRat - m.exactScore examples| ≤ examples.drift := by
  obtain ⟨finite, nonneg, le⟩ := m.credits_of_numbers examples numbers
  obtain ⟨-, value⟩ := m.value_score examples finite nonneg le
  have early := credits_error numbers
  have late := toRat_error value
  change |_ - (((m.credits examples).value - tally (m.mistakes examples) : Int) : ℚ) / one| ≤
    |(((m.credits examples).value - tally (m.mistakes examples) : Int) : ℚ) / one| / 2 ^ 53 at late
  rw [exactDifference] at late
  have small := div_le_div_of_nonneg_right (abs_exactDifference_le numbers)
    (show (0 : ℚ) ≤ 2 ^ 53 by norm_num)
  rw [Examples.drift, exactScore]
  rw [abs_le] at early late ⊢
  constructor
  · linarith
  · linarith

/-! ## Scores of reordered examples -/

theorem clear_exactScore (clear : m.Clear examples) :
    ∀ z : Int, examples.drift < |m.exactScore examples - (z + 1 / 2)| := by
  intro z
  have shifted := clear (z + (min (m.mistakes examples) (2 ^ 53) : Nat))
  rw [exactScore]
  rw [show m.exactCredits examples - (((z + (min (m.mistakes examples) (2 ^ 53) : Nat) : Int) : ℚ) +
    1 / 2) = m.exactCredits examples - (min (m.mistakes examples) (2 ^ 53) : Nat) - (z + 1 / 2) by
      push_cast; ring] at shifted
  exact shifted

/-- Where no half is near, the score is the exact one, rounded. -/
theorem roundHalfUp_score_of_clear (numbers : nan ∉ examples.positive.map m.credit)
    (clear : m.Clear examples) :
    (m.score examples).roundHalfUp = clamp ⌊m.exactScore examples + 1 / 2⌋ := by
  rw [roundHalfUp_eq_floor (isFinite_score numbers) (canonical_add _ _),
    floor_eq_of_clear (score_error numbers) (clear_exactScore clear)]

/-- Errors of a half or more leave nothing clear, so there are few examples. -/
theorem drift_lt_of_clear (clear : m.Clear examples) : examples.drift < 1 / 2 := by
  have below := Int.floor_le (m.exactCredits examples)
  have above := Int.lt_floor_add_one (m.exactCredits examples)
  have half : |m.exactCredits examples - (⌊m.exactCredits examples⌋ + 1 / 2)| ≤ 1 / 2 := by
    rw [abs_le]
    constructor
    · linarith
    · linarith
  exact (clear _).trans_le half

theorem length_lt_of_clear (clear : m.Clear examples) :
    max examples.positive.length examples.negative.length < 2 ^ 52 := by
  have small := drift_lt_of_clear clear
  have early : 0 ≤ Binary64.drift examples.positive.length := by
    rw [Binary64.drift]
    positivity
  rw [Examples.drift] at small
  have late :
      ((max examples.positive.length examples.negative.length : Nat) : ℚ) / 2 ^ 53 < 1 / 2 := by
    linarith
  rw [div_lt_iff₀ (by norm_num)] at late
  have bound :
      ((max examples.positive.length examples.negative.length : Nat) : ℚ) < (2 ^ 52 : Nat) := by
    norm_num at late ⊢
    exact late
  exact Nat.cast_lt.mp bound

/-- Where no half is near, the score is the exact one, rounded. -/
theorem roundHalfUp_score_eq_floor (numbers : nan ∉ examples.positive.map m.credit)
    (clear : m.Clear examples) :
    (m.score examples).roundHalfUp = ⌊m.exactCredits examples + 1 / 2⌋ - m.mistakes examples := by
  obtain ⟨-, nonneg, le⟩ := m.credits_of_numbers examples numbers
  have few := length_lt_of_clear clear
  have mistakes : m.mistakes examples ≤ examples.negative.length := List.countP_le_length
  have gain := credits_error numbers
  have small := drift_lt_of_clear clear
  have above := toRat_nonneg nonneg
  have below := toRat_le le
  have late : (0 : ℚ) ≤ (max examples.positive.length examples.negative.length : Nat) / 2 ^ 53 := by
    positivity
  rw [Examples.drift] at small
  rw [abs_le] at gain
  have lower : 0 ≤ ⌊m.exactCredits examples + 1 / 2⌋ := Int.floor_nonneg.mpr (by linarith)
  have upper : ⌊m.exactCredits examples + 1 / 2⌋ < examples.positive.length + 2 := by
    apply Int.floor_lt.mpr
    push_cast
    linarith
  rw [roundHalfUp_score_of_clear numbers clear, exactScore, Nat.min_eq_left (by omega),
    sub_add_eq_add_sub, ← Int.cast_natCast, Int.floor_sub_intCast]
  apply clamp_of_small
  · omega
  · omega

theorem score_of_spoiled (spoiled : nan ∈ examples.positive.map m.credit) :
    (m.score examples).roundHalfUp = 0 :=
  m.score_of_nan examples (sum_of_nan_mem spoiled)

variable {a b : Examples}

theorem nan_mem_iff (reordered : a.Reordered b) :
    nan ∈ b.positive.map m.credit ↔ nan ∈ a.positive.map m.credit :=
  (reordered.positive.map m.credit).mem_iff.symm

theorem exactCredits_reordered (reordered : a.Reordered b) : m.exactCredits b = m.exactCredits a :=
  (reordered.positive.map _).sum_eq.symm

theorem mistakes_reordered (reordered : a.Reordered b) : m.mistakes b = m.mistakes a :=
  (reordered.negative.countP_eq _).symm

theorem drift_reordered (reordered : a.Reordered b) : b.drift = a.drift := by
  rw [Examples.drift, Examples.drift, reordered.positive.length_eq, reordered.negative.length_eq]

theorem exactScore_reordered (reordered : a.Reordered b) : m.exactScore b = m.exactScore a := by
  rw [exactScore, exactScore, exactCredits_reordered reordered, mistakes_reordered reordered]

/-- The order of the negative examples has no effect at all. -/
theorem penalties_reordered (reordered : a.Reordered b) : m.penalties b = m.penalties a := by
  have count : b.negative.countP m.whole.isMatch = a.negative.countP m.whole.isMatch :=
    mistakes_reordered reordered
  rw [penalties_eq, penalties_eq, count, reordered.negative.isEmpty_eq]

theorem score_reordered (reordered : a.Reordered b) (same : a.positive = b.positive) :
    m.score b = m.score a := by
  rw [score_eq, score_eq, penalties_reordered reordered, credits, credits, same]

theorem clear_reordered (reordered : a.Reordered b) (clear : m.Clear a) : m.Clear b := by
  intro z
  rw [drift_reordered reordered, exactCredits_reordered reordered]
  exact clear z

theorem exact_reordered (reordered : a.Reordered b) (few : m.Exact a) : m.Exact b := by
  obtain ⟨digits, small, fractions⟩ := few
  refine ⟨digits, ?_, ?_⟩
  · rw [← reordered.positive.length_eq]
    exact small
  · intro text mem
    exact fractions text (reordered.positive.mem_iff.mpr mem)

theorem rounded_of_clear (reordered : a.Reordered b) (clear : m.Clear a) :
    (m.score b).roundHalfUp = (m.score a).roundHalfUp := by
  by_cases spoiled : nan ∈ a.positive.map m.credit
  · rw [score_of_spoiled spoiled, score_of_spoiled ((nan_mem_iff reordered).mpr spoiled)]
  · have numbers := fun other => spoiled ((nan_mem_iff reordered).mp other)
    rw [roundHalfUp_score_of_clear spoiled clear,
      roundHalfUp_score_of_clear numbers (clear_reordered reordered clear),
      exactScore_reordered reordered]

theorem value_credits_of_exact (numbers : nan ∉ examples.positive.map m.credit)
    (few : m.Exact examples) : (m.credits examples).value =
      ((examples.positive.map m.credit).map value).sum := by
  obtain ⟨digits, small, fractions⟩ := few
  apply sum_exact (m.credits_terms numbers) _ (by rwa [List.length_map])
  intro x mem
  obtain ⟨text, inner, rfl⟩ := List.mem_map.mp mem
  exact fractions text inner

/-- Credits that are added without an error come to the same in any order. -/
theorem rounded_of_exact (reordered : a.Reordered b) (few : m.Exact a) :
    (m.score b).roundHalfUp = (m.score a).roundHalfUp := by
  by_cases spoiled : nan ∈ a.positive.map m.credit
  · rw [score_of_spoiled spoiled, score_of_spoiled ((nan_mem_iff reordered).mpr spoiled)]
  · have numbers := fun other => spoiled ((nan_mem_iff reordered).mp other)
    have credits : (m.credits b).value = (m.credits a).value := by
      rw [value_credits_of_exact spoiled few,
        value_credits_of_exact numbers (exact_reordered reordered few)]
      exact ((reordered.positive.map _).map _).sum_eq.symm
    obtain ⟨finite, nonneg, le⟩ := m.credits_of_numbers a spoiled
    obtain ⟨finite', nonneg', le'⟩ := m.credits_of_numbers b numbers
    have scores : (m.score b).value = (m.score a).value := by
      have count : b.negative.countP m.whole.isMatch = a.negative.countP m.whole.isMatch :=
        mistakes_reordered reordered
      rw [(m.value_score a finite nonneg le).2, (m.value_score b finite' nonneg' le').2, credits,
        count]
    rw [roundHalfUp_eq_floor (isFinite_score spoiled) (canonical_add _ _),
      roundHalfUp_eq_floor (isFinite_score numbers) (canonical_add _ _), toRat, toRat, scores]

/-- Small errors move a score by one at most. -/
theorem abs_rounded_sub_le_one (reordered : a.Reordered b) (small : 2 * a.drift ≤ 1) :
    |(m.score b).roundHalfUp - (m.score a).roundHalfUp| ≤ 1 := by
  by_cases spoiled : nan ∈ a.positive.map m.credit
  · rw [score_of_spoiled spoiled, score_of_spoiled ((nan_mem_iff reordered).mpr spoiled)]
    decide
  · have numbers := fun other => spoiled ((nan_mem_iff reordered).mp other)
    have errorA := score_error spoiled
    have errorB := score_error numbers
    rw [drift_reordered reordered, exactScore_reordered reordered] at errorB
    rw [abs_le] at errorA errorB ⊢
    have up := roundHalfUp_le_add_one (isFinite_score numbers) (canonical_add _ _)
      (isFinite_score spoiled) (canonical_add _ _)
      (show (m.score b).toRat ≤ (m.score a).toRat + 1 by linarith)
    have down := roundHalfUp_le_add_one (isFinite_score spoiled) (canonical_add _ _)
      (isFinite_score numbers) (canonical_add _ _)
      (show (m.score a).toRat ≤ (m.score b).toRat + 1 by linarith)
    omega

end Matcher

/-! ## Runs on reordered examples -/

theorem Run.told_id (run : Run) : run.told id = (run.reports, run.result) := by
  have reports : run.reports.map (·.mapRaw id) = run.reports := List.map_id _
  have result : run.result.map (·.mapRaw id) = run.result := by
    cases run.result with
    | error failure => rfl
    | ok outcome => rfl
  rw [told, reports, result]

namespace Search

/-- What the order of the examples has an effect on. The order of the negative ones has none. The
order of the positive ones has none on the score of a matcher whose exact score is clear of halves or
whose credits are added without an error, and it moves the score by one at most if the examples are
few. And unless it changes the score of some candidate that a run evaluates, the run tells and ends
the same, the unrounded scores aside. -/
theorem told_of_reordered {a b : Examples} (reordered : a.Reordered b) :
    (a.positive = b.positive → (∀ m : Matcher, m.score b = m.score a) ∧
      ∀ search : Search, (search.against b).run.reports = (search.against a).run.reports ∧
        (search.against b).run.result = (search.against a).run.result) ∧
    (∀ m : Matcher,
      (m.Clear a ∨ m.Exact a → (m.score b).roundHalfUp = (m.score a).roundHalfUp) ∧
      (m.Clear a → (∀ text ∈ a.positive, unitWidth text.toList < 2 ^ 64) →
        (m.score a).roundHalfUp = ⌊m.exactCredits a + 1 / 2⌋ - m.mistakes a) ∧
      (2 * a.drift ≤ 1 → |(m.score b).roundHalfUp - (m.score a).roundHalfUp| ≤ 1)) ∧
    ∀ search : Search,
      (∀ g < search.settings.maxGenerations, (∀ i < g, (search.against a).OpenAt i) →
        ∀ c ∈ (search.against a).candidatesAt g, ∀ m, Matcher.compile c.fragments = .ok m →
          (m.score b).roundHalfUp = (m.score a).roundHalfUp) →
      ((search.against b).run.told fun _ => zero) = (search.against a).run.told fun _ => zero := by
  have goal : b.goal = a.goal := by
    rw [Examples.goal, Examples.goal, reordered.positive.length_eq]
  refine ⟨?_, ?_, ?_⟩
  · intro same
    have scores : ∀ m : Matcher, m.score b = m.score a :=
      fun m => Matcher.score_reordered reordered same
    refine ⟨scores, ?_⟩
    intro search
    have told := @told_run_against id (search.against a) b goal
      fun _ _ _ _ _ m _ => ⟨congrArg roundHalfUp (scores m), scores m⟩
    rw [Run.told_id, Run.told_id] at told
    exact Prod.mk.inj told
  · intro m
    refine ⟨?_, ?_, Matcher.abs_rounded_sub_le_one reordered⟩
    · rintro (clear | few)
      · exact Matcher.rounded_of_clear reordered clear
      · exact Matcher.rounded_of_exact reordered few
    · intro clear short
      exact Matcher.roundHalfUp_score_eq_floor (m.nan_notMem_credits a short) clear
  · intro search alike
    exact @told_run_against (fun _ => zero) (search.against a) b goal
      fun g less before c mem m compiled => ⟨alike g less before c mem m compiled, rfl⟩

/-- Halves are added without an error: in either order the pattern has the perfect score, and the
runs end the same. -/
theorem told_of_swapped_halves :
    let a : Examples := ⟨["ab", "a", "aa"], ["b", "c"]⟩
    let b : Examples := ⟨["aa", "ab", "a"], ["c", "b"]⟩
    let search : Search := { settings := { seeds := [⟨"a+"⟩], maxGenerations := 1 }, examples := a }
    a.Reordered b ∧
      (∃ m, Matcher.compile [⟨"a+"⟩] = .ok m ∧ m.Exact a ∧ (m.score b).roundHalfUp = 3) ∧
      ((search.against b).run.told fun _ => zero) = (search.against a).run.told fun _ => zero := by
  intro a b search
  have reordered : a.Reordered b := ⟨by decide, by decide⟩
  obtain ⟨-, scores, runs⟩ := told_of_reordered reordered
  obtain ⟨m, compiled, verdict⟩ := @exists_of_toOption_map _ _ _
    (Matcher.compile [⟨"a+"⟩])
    (fun m => (a.positive.map m.credit, (m.score a).roundHalfUp)) ([half, .ofNat 1, .ofNat 1], 3)
    (by decide +kernel)
  obtain ⟨credits, score⟩ := Prod.mk.inj verdict
  have few : m.Exact a := by
    have fractions : ∀ x ∈ a.positive.map m.credit, ∃ n : Int, x.toRat = n / 2 ^ 1 := by
      rw [credits]
      simp only [List.forall_mem_cons]
      exact ⟨⟨1, by decide +kernel⟩, ⟨2, by decide +kernel⟩, ⟨2, by decide +kernel⟩, by simp⟩
    exact ⟨1, by decide, fun text mem => fractions _ (List.mem_map_of_mem mem)⟩
  refine ⟨reordered, ⟨m, compiled, few, ((scores m).1 (Or.inr few)).trans score⟩, runs search ?_⟩
  intro g less before c mem m compiled
  obtain rfl : g = 0 := by
    change g < 1 at less
    omega
  have verdicts : ∀ c ∈ (search.against a).candidatesAt 0, (Matcher.compile c.fragments).toOption.map
      (fun m => decide ((m.score b).roundHalfUp = (m.score a).roundHalfUp)) = some true := by
    decide +kernel
  have same := verdicts c mem
  rw [compiled] at same
  exact of_decide_eq_true (Option.some.inj same)

/-- Five sixths after four whole credits and two thirds come to less than five and a half, and to
just that if they come first. -/
theorem reordered_sum_misses_half :
    let a : Examples := ⟨["aab", "a", "a", "a", "a", "aaaaab"], []⟩
    let b : Examples := ⟨["aaaaab", "aab", "a", "a", "a", "a"], []⟩
    let settings : Settings := { seeds := [⟨"a+"⟩], maxGenerations := 1 }
    a.Reordered b ∧ settings.defect? = none ∧
      (∃ m, Matcher.compile [⟨"a+"⟩] = .ok m ∧ (m.score a).roundHalfUp = 5 ∧
        (m.score b).roundHalfUp = 6) ∧
      (∃ outcome, ({ settings, examples := a } : Search).run.result = .ok outcome ∧
        outcome.ending = .timedOut) ∧
      ∃ outcome, ({ settings, examples := b } : Search).run.result = .ok outcome ∧
        outcome.ending = .solved := by
  intro a b settings
  have reordered : a.Reordered b := ⟨by decide, by decide⟩
  have valid : settings.defect? = none := by decide
  obtain ⟨m, compiled, verdict⟩ := @exists_of_toOption_map _ _ _
    (Matcher.compile [⟨"a+"⟩])
    (fun m => ((m.score a).roundHalfUp, (m.score b).roundHalfUp)) (5, 6) (by decide +kernel)
  obtain ⟨less, enough⟩ := Prod.mk.inj verdict
  refine ⟨reordered, valid, ⟨m, compiled, less, enough⟩, ?_, ?_⟩
  · have open' : ∀ i ≤ 0, ({ settings, examples := a } : Search).OpenAt i := by
      intro i le
      obtain rfl : i = 0 := by omega
      decide +kernel
    obtain ⟨best, tally, result, -⟩ := result_of_openAt valid rfl open'
    exact ⟨_, result, rfl⟩
  · have result : ({ settings, examples := b } : Search).run.result = .ok ⟨.solved,
        ⟨0, 0, none, [⟨"a+"⟩], 6, ofBits 0x4016000000000000, "^a+$"⟩, ⟨1, 2, 0, .zero⟩⟩ := by
      decide +kernel
    exact ⟨_, result, rfl⟩

end Search

end PatternSearch
