import PatternSearch.Proofs.Search.Ends
import PatternSearch.Proofs.Search.Numbering

/-!
# Conservation of candidates

No candidate is lost and none is counted twice. Whichever way a run ends, its counts are those of
evaluating once all the candidates that it has made, and it has told of every scored one, except of
those that come after the winner in the last generation.
-/

namespace PatternSearch

/-- The counts are those of the evaluation. -/
structure Tally.Counts (tally : Tally) (evaluation : Evaluation) : Prop where
  evaluations : tally.evaluations = evaluation.survivors.length
  failures : tally.failures = evaluation.failures

theorem upTo_append_cons {α : Type} {p : α → Bool} {before : List α} {a : α} (after : List α)
    (none : ∀ b ∈ before, p b = false) (found : p a = true) :
    upTo p (before ++ a :: after) = before ++ [a] := by
  rw [upTo_append _ none, upTo, if_pos found]

namespace Search

variable (search : Search)

/-! ## Counting turn by turn -/

theorem evaluation_turns (n : Nat) : (search.seed.turns n).evaluation =
    evaluateAll search.examples (search.candidatesAt n) := by
  rw [evaluation, (search.frontier_turns n).1, turns_examples, seed_examples]

/-- A turn counts the candidates of its generation, once. -/
theorem counts_countedAt {n : Nat}
    (h : (search.seed.turns n).tally.Counts (evaluateAll search.examples (search.candidatesBefore n))) :
    (search.countedAt n).tally.Counts
      (evaluateAll search.examples (search.candidatesBefore (n + 1))) where
  evaluations := by
    rw [candidatesBefore_succ, survivors_append, List.length_append, ← h.evaluations,
      ← evaluation_turns]
    rfl
  failures := by
    rw [candidatesBefore_succ, failures_append, ← h.failures, ← evaluation_turns]
    rfl

theorem counts_turns (n : Nat) : (search.seed.turns n).tally.Counts
    (evaluateAll search.examples (search.candidatesBefore n)) := by
  induction n with
  | zero => exact ⟨rfl, rfl⟩
  | succ n ih => exact search.counts_countedAt ih

variable {search} {n : Nat}

/-- The state that a run leaves behind. -/
theorem left_of_endsAt (valid : search.settings.defect? = none) (h : search.EndsAt n) :
    search.run.search.population = [] ∧
      search.run.search.nextId = (search.candidatesBefore (n + 1)).length ∧
      search.run.search.tally.Counts
        (evaluateAll search.examples (search.candidatesBefore (n + 1))) := by
  have nextId : (search.seed.turns n).nextId = (search.candidatesBefore (n + 1)).length := by
    rw [(search.frontier_turns n).2.1, (search.isNumbered_frontier n).nextId, Nat.zero_add]
  have counts := search.counts_countedAt (search.counts_turns n)
  cases ends_of_endsAt valid h with
  | unpopulated empty reports result left =>
    -- Nothing is counted here, but then there is nothing to count.
    have before : search.candidatesBefore (n + 1) = search.candidatesBefore n := by
      rw [candidatesBefore_succ, empty, List.append_nil]
    rw [left]
    refine ⟨(search.frontier_turns n).1.trans empty, nextId, ?_⟩
    rw [before]
    exact search.counts_turns n
  | unscored populated empty reports result left =>
    rw [left]
    exact ⟨rfl, nextId, counts⟩
  | won best winner reports result left =>
    rw [left]
    exact ⟨rfl, nextId, counts⟩
  | spent best isOpen top reports result left =>
    rw [left]
    exact ⟨rfl, nextId, counts⟩

/-! ## Counting reports -/

theorem length_flatMap_reportsAt (search : Search) (n : Nat) :
    ((List.range n).flatMap search.reportsAt).length =
      (evaluateAll search.examples (search.candidatesBefore n)).survivors.length := by
  rw [survivors_candidatesBefore, List.length_flatMap, List.length_flatMap]
  simp only [reportsAt, List.length_map]

/-- A run without a winner tells of all the scored candidates. -/
theorem reports_of_unsolved (valid : search.settings.defect? = none) (h : search.EndsAt n)
    (unsolved : ∀ outcome, search.run.result = .ok outcome → outcome.ending ≠ .solved) :
    search.run.reports = (List.range (n + 1)).flatMap search.reportsAt := by
  have last (none : search.scoredAt n = []) : (List.range (n + 1)).flatMap search.reportsAt =
      (List.range n).flatMap search.reportsAt := by
    rw [flatMap_range_succ, reportsAt, none, List.map_nil, List.append_nil]
  cases ends_of_endsAt valid h with
  | unpopulated empty reports result left =>
    rw [last (scoredAt_eq_nil empty)]
    exact reports
  | unscored populated empty reports result left =>
    rw [last empty]
    exact reports
  | won best winner reports result left => exact absurd rfl (unsolved _ result)
  | spent best isOpen top reports result left => exact reports

/-- A solved run tells of the scored candidates up to the winner. -/
theorem reports_of_solved (valid : search.settings.defect? = none) (h : search.EndsAt n)
    {outcome : Outcome} (result : search.run.result = .ok outcome)
    (solved : outcome.ending = .solved) :
    ∃ before best after, search.scoredAt n = before ++ best :: after ∧
      outcome.best = best.snapshot ∧ best.score = search.examples.goal ∧
      (∀ c ∈ before, c.score ≠ search.examples.goal) ∧
      search.run.reports = (List.range n).flatMap search.reportsAt ++
        (before ++ [best]).map (·.report n) := by
  cases ends_of_endsAt valid h with
  | unpopulated empty reports result' left => cases result'.symm.trans result
  | unscored populated empty reports result' left => cases result'.symm.trans result
  | won best winner reports result' left =>
    cases result'.symm.trans result
    obtain ⟨perfect, before, after, split, imperfect⟩ := List.find?_eq_some_iff_append.mp winner
    have below : ∀ c ∈ before, search.isPerfect c = false := by
      intro c mem
      simpa using imperfect c mem
    refine ⟨before, best, after, split, rfl, of_decide_eq_true perfect, ?_, ?_⟩
    · intro c mem
      exact of_decide_eq_false (below c mem)
    · have told : upTo (fun c => search.tellsPerfect (c.report n)) (search.scoredAt n) =
          before ++ [best] := by
        rw [split]
        exact upTo_append_cons after below perfect
      rw [reports, reportsAt, upTo_map, told]
  | spent best isOpen top reports result' left =>
    cases result'.symm.trans result
    cases solved

/-- At the end of a run every candidate that it made is counted once and none is left to evaluate, and
there are as many reports as evaluations, less those after a winner. -/
theorem counts_of_run (valid : search.settings.defect? = none) :
    ∃ n, search.EndsAt n ∧ search.run.search.population = [] ∧
      (search.candidatesBefore (n + 1)).map (·.id) = List.range search.run.search.nextId ∧
      search.run.search.tally.Counts
        (evaluateAll search.examples (search.candidatesBefore (n + 1))) ∧
      search.run.search.tally.evaluations + search.run.search.tally.failures =
        search.run.search.nextId ∧
      (∀ outcome, search.run.result = .ok outcome → outcome.tally = search.run.search.tally) ∧
      ((∀ outcome, search.run.result = .ok outcome → outcome.ending ≠ .solved) →
        search.run.reports.length = search.run.search.tally.evaluations) ∧
      ∀ outcome, search.run.result = .ok outcome → outcome.ending = .solved →
        ∃ before best after, search.scoredAt n = before ++ best :: after ∧
          outcome.best = best.snapshot ∧ best.score = search.examples.goal ∧
          (∀ c ∈ before, c.score ≠ search.examples.goal) ∧
          search.run.reports.length + after.length = search.run.search.tally.evaluations := by
  obtain ⟨n, endsAt⟩ := exists_endsAt valid
  obtain ⟨population, nextId, counts⟩ := left_of_endsAt valid endsAt
  refine ⟨n, endsAt, population, ?_, counts, ?_, ?_, ?_, ?_⟩
  · rw [(search.isNumbered_frontier n).ids, nextId, List.range_eq_range']
  · rw [counts.evaluations, counts.failures, nextId]
    exact length_survivors_add_failures _ _
  · intro outcome result
    exact tally_of_result result
  · intro unsolved
    rw [reports_of_unsolved valid endsAt unsolved, length_flatMap_reportsAt, counts.evaluations]
  · intro outcome result solved
    obtain ⟨before, best, after, split, same, perfect, below, reports⟩ :=
      reports_of_solved valid endsAt result solved
    refine ⟨before, best, after, split, same, perfect, below, ?_⟩
    have told := search.length_flatMap_reportsAt n
    have all : (evaluateAll search.examples (search.candidatesAt n)).survivors.length =
        (before ++ best :: after).length := congrArg List.length split
    rw [counts.evaluations, candidatesBefore_succ, survivors_append, List.length_append, all,
      reports, List.length_append, List.length_map, told]
    simp only [List.length_append, List.length_cons, List.length_nil]
    omega

/-- Six candidates in two generations: two patterns with an open group are dropped, and the winner
leaves one scored candidate untold. -/
theorem counts_of_letter_after_digit :
    let search : Search :=
      { settings := { seeds := [⟨"[0-9]"⟩, ⟨"("⟩], extensions := [⟨"[a-z]"⟩], maxGenerations := 3 }
        examples := ⟨["1x", "2y"], ["1", "x"]⟩ }
    ∃ outcome, search.run.result = .ok outcome ∧ outcome.ending = .solved ∧
      outcome.tally.evaluations = 4 ∧ outcome.tally.failures = 2 ∧
      search.run.search.nextId = 6 ∧ search.run.search.population = [] ∧
      search.run.reports.length = 3 ∧ ∃ (winner : Candidate) (untold : List Candidate),
        outcome.best = winner.snapshot ∧ winner.score = 2 ∧ untold.length = 1 := by
  intro search
  have valid : search.settings.defect? = none := by decide
  have first : search.OpenAt 0 := by decide +kernel
  have before : ∀ i < 1, search.OpenAt i := by
    intro i less
    obtain rfl : i = 0 := by omega
    exact first
  obtain ⟨events, run⟩ := @run_eq search 1 1 valid rfl before
  have ends : search.run.result.toOption.map
      (fun outcome => (outcome.ending, outcome.tally.evaluations, outcome.tally.failures)) =
        some (.solved, 4, 2) := by
    rw [run, Run.after_result]
    simp only [turns, turn, next, breed, selected, ranked_eq_foldr]
    decide +kernel
  have three : search.run.reports.length = 3 := by
    rw [run, Run.after_reports]
    simp only [turns, turn, next, breed, selected, ranked_eq_foldr]
    decide +kernel
  obtain ⟨n, -, population, -, -, all, tally, -, told⟩ := counts_of_run valid
  cases result : search.run.result with
  | error failure =>
    rw [result] at ends
    cases ends
  | ok outcome =>
    rw [result] at ends
    obtain ⟨solved, evaluations, failures⟩ : outcome.ending = .solved ∧
        outcome.tally.evaluations = 4 ∧ outcome.tally.failures = 2 := by
      simpa [Except.toOption] using ends
    rw [← tally outcome result, evaluations, failures] at all
    obtain ⟨before, best, after, -, same, perfect, -, reports⟩ := told outcome result solved
    rw [← tally outcome result, evaluations, three] at reports
    exact ⟨outcome, rfl, solved, evaluations, failures, all.symm, population, three, best, after,
      same, perfect, by omega⟩

end Search

end PatternSearch
