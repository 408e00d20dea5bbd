import PatternSearch.Proofs.Search.Best
import PatternSearch.Proofs.Search.Evaluated
import PatternSearch.Proofs.Search.Scoring

/-!
# Solved searches

The pattern of a solved search matches no negative example, and every positive example is matched by
it as a whole or touched by a match. The credits of the positive examples are at most one half short
of their number. They need not all be matched as a whole: rounding makes up for the rest.
-/

namespace PatternSearch

open Binary64

/-- The rounded bound on credits, as a statement on rational numbers. -/
theorem Binary64.sub_half_le_toRat {goal : Int} {x : Binary64}
    (h : 2 * (goal * one) ≤ 2 * x.value + one) : (goal : ℚ) - 1 / 2 ≤ x.toRat :=
  sub_half_le_toRat_iff.mpr h

namespace Search

variable {search : Search}

/-- A result says solved only if some generation of the run has a winner, which is the result. -/
theorem winner_of_solved {outcome : Outcome} {more : Nat}
    (result : (search.proceed more).result = .ok outcome) (solved : outcome.ending = .solved) :
    ∃ n best, (search.turns n).winner? = some best ∧ outcome.best = best.snapshot := by
  obtain ⟨n, le, before, last⟩ := search.exists_last more
  have run := proceed_turns (more - n) before
  rw [show n + (more - n) = more by omega] at run
  rw [run, Run.after_result] at result
  by_cases unpopulated : (search.turns n).population = []
  · rw [proceed_of_population_eq_nil _ unpopulated] at result
    cases result
  by_cases unscored : (search.turns n).scored = []
  · rw [proceed_of_scored_eq_nil _ unpopulated unscored] at result
    cases result
  cases winner : (search.turns n).winner? with
  | some best =>
    rw [proceed_of_winner _ winner] at result
    cases result
    exact ⟨n, best, winner, rfl⟩
  | none =>
    have open' : (search.turns n).IsOpen := ⟨unscored, winner⟩
    rcases last with rfl | closed
    · have top := List.head?_eq_some_head (ranked_ne_nil unscored)
      rw [Nat.sub_self, proceed_zero open' top] at result
      cases result
      cases solved
    · exact absurd open' closed

/-- The result of a solved search, from any state of the search before the run. -/
theorem solved_rejects_negatives {outcome : Outcome} (search : Search)
    (result : search.run.result = .ok outcome) (solved : outcome.ending = .solved) :
    ∃ m, Matcher.compile outcome.best.fragments = .ok m ∧
      m.whole.source = outcome.best.pattern ∧
      (∀ text ∈ search.examples.negative, m.whole.isMatch text = false) ∧
      (∀ text ∈ search.examples.positive, m.Touches text) ∧
      (m.credits search.examples).isFinite = true ∧
      (search.examples.positive.length : ℚ) - 1 / 2 ≤ (m.credits search.examples).toRat := by
  rw [run] at result
  split at result
  · cases result
  · obtain ⟨n, best, winner, same⟩ := winner_of_solved result solved
    obtain ⟨d, -, m, compiled, rfl, perfect⟩ := of_winner winner
    rw [turns_examples, seed_examples] at perfect
    obtain ⟨negatives, finite, near, positives⟩ :=
      m.of_roundHalfUp_score_eq_goal search.examples perfect
    refine ⟨m, ?_, ?_, negatives, positives, finite, ?_⟩
    · rw [same]
      exact compiled
    · rw [same]
      rfl
    · have bound := sub_half_le_toRat near
      exact_mod_cast bound

/-- Digits are told from letters: a search that is solved in its first generation. -/
theorem solved_rejects_letters :
    let search : Search :=
      { settings := { seeds := [⟨"[0-9]+"⟩] }, examples := ⟨["12", "345"], ["ab", "1a"]⟩ }
    ∃ outcome, search.run.result = .ok outcome ∧ outcome.ending = .solved ∧
      ∃ m, Matcher.compile outcome.best.fragments = .ok m ∧
        (∀ text ∈ search.examples.negative, m.whole.isMatch text = false) ∧
        (2 : ℚ) - 1 / 2 ≤ (m.credits search.examples).toRat := by
  intro search
  have result : search.run.result = .ok ⟨.solved,
      ⟨0, 0, none, [⟨"[0-9]+"⟩], 2, .ofNat 2, "^[0-9]+$"⟩, ⟨1, 2, 0, .zero⟩⟩ := by decide +kernel
  obtain ⟨m, compiled, -, negatives, -, -, near⟩ := solved_rejects_negatives search result rfl
  exact ⟨_, result, rfl, m, compiled, negatives, by exact_mod_cast near⟩

/-- The pattern of a solved search need not match the positive example: two of its three letters earn
two thirds, which is rounded to one. -/
theorem solved_misses_positive :
    let search : Search :=
      { settings := { seeds := [⟨"ab"⟩], maxGenerations := 1 }, examples := ⟨["abc"], []⟩ }
    search.settings.defect? = none ∧
      ∃ outcome, search.run.result = .ok outcome ∧ outcome.ending = .solved ∧
        ∃ m, Matcher.compile outcome.best.fragments = .ok m ∧
          m.whole.source = outcome.best.pattern ∧ m.whole.isMatch "abc" = false := by
  intro search
  have result : search.run.result = .ok ⟨.solved,
      ⟨0, 0, none, [⟨"ab"⟩], 1, .ofNat 2 / .ofNat 3, "^ab$"⟩, ⟨1, 2, 0, .zero⟩⟩ := by decide +kernel
  have compiled : Matcher.compile [⟨"ab"⟩] = .ok
      ⟨⟨"^ab$", .cat (.look .textStart) (.cat (.text ['a', 'b']) (.look .textEnd))⟩,
        ⟨"ab", .text ['a', 'b']⟩⟩ := by decide +kernel
  exact ⟨by decide, _, result, rfl, _, compiled, rfl, by decide +kernel⟩

end Search

end PatternSearch
