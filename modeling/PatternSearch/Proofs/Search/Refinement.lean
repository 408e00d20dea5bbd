import Mathlib.Data.List.TakeWhile
import PatternSearch.Proofs.Search.Best
import PatternSearch.Proofs.Search.Evaluated
import PatternSearch.Proofs.Search.Scoring

/-!
# The run and its operations

Seeding, evaluation and breeding, taken one after the other, give a sequence of generations. A run
goes through this sequence: it reports the scored candidates in order up to the first perfect one,
and how it ends is decided by the first generation that fails or has a perfect candidate, or else by
the last one of the budget.
-/

namespace PatternSearch.Search

variable (search : Search)

/-- Seeding, then evaluation and breeding over and over: the search whose identifiers are used up,
and the candidates to evaluate. -/
def frontier : Nat → Search × List Candidate
  | 0 => (search.seed, search.seed.population)
  | g + 1 =>
    let bred := (frontier g).1.breed (evaluateAll search.examples (frontier g).2).survivors
    (bred.1, bred.2.1)

/-- The candidates of a generation. -/
def candidatesAt (g : Nat) : List Candidate := (search.frontier g).2

/-- The scored candidates of a generation. -/
def scoredAt (g : Nat) : List Candidate := (evaluateAll search.examples (search.candidatesAt g)).survivors

/-- A generation with scored candidates, none of which is perfect. -/
def OpenAt (g : Nat) : Prop :=
  search.scoredAt g ≠ [] ∧ ∀ c ∈ search.scoredAt g, c.score ≠ search.examples.goal

instance (g : Nat) : Decidable (search.OpenAt g) := inferInstanceAs (Decidable (_ ∧ _))

/-- The reports on all scored candidates of a generation. -/
def reportsAt (g : Nat) : List Report := (search.scoredAt g).map (·.report g)

/-- Breeding depends on the settings and the next identifier alone. -/
theorem breed_congr {s t : Search} (settings : s.settings = t.settings) (nextId : s.nextId = t.nextId)
    (scored : List Candidate) : (s.breed scored).2 = (t.breed scored).2 ∧
      (s.breed scored).1.nextId = (t.breed scored).1.nextId := by
  rw [breed, settings, nextId]
  exact ⟨rfl, rfl⟩

/-- The turns of a run have the candidates and identifiers of the sequence. -/
theorem frontier_turns (g : Nat) :
    (search.seed.turns g).population = search.candidatesAt g ∧
      (search.seed.turns g).nextId = (search.frontier g).1.nextId ∧
      (search.frontier g).1.settings = search.settings := by
  induction g with
  | zero => exact ⟨rfl, rfl, rfl⟩
  | succ g ih =>
    obtain ⟨population, nextId, settings⟩ := ih
    have scored : (search.seed.turns g).scored = search.scoredAt g := by
      rw [Search.scored, evaluation, population, turns_examples, seed_examples]
      rfl
    have same := breed_congr (s := (search.seed.turns g).count (search.seed.turns g).evaluation)
      (t := (search.frontier g).1) (by simp [settings]) (by simp [nextId]) (search.scoredAt g)
    refine ⟨?_, ?_, settings⟩
    · change (((search.seed.turns g).count _).breed (search.seed.turns g).scored).2.1 =
        ((search.frontier g).1.breed (search.scoredAt g)).2.1
      rw [scored, same.1]
    · change (((search.seed.turns g).count _).breed (search.seed.turns g).scored).1.nextId =
        ((search.frontier g).1.breed (search.scoredAt g)).1.nextId
      rw [scored, same.2]

theorem scored_turns (g : Nat) : (search.seed.turns g).scored = search.scoredAt g := by
  rw [Search.scored, evaluation, (search.frontier_turns g).1, turns_examples, seed_examples]
  rfl

theorem reports_turns (g : Nat) : (search.seed.turns g).reports = search.reportsAt g := by
  rw [reports, scored_turns, turns_generation, seed_generation, Nat.zero_add]
  rfl

theorem winner_turns (g : Nat) : (search.seed.turns g).winner? =
    (search.scoredAt g).find? search.isPerfect := by
  rw [winner?, scored_turns]
  unfold isPerfect
  rw [turns_examples, seed_examples]

theorem isOpen_turns (g : Nat) : (search.seed.turns g).IsOpen ↔ search.OpenAt g := by
  unfold IsOpen OpenAt
  rw [scored_turns, winner_turns, List.find?_eq_none]
  simp [isPerfect]

variable {search}

/-! ## How a run ends -/

/-- The events of the first generations, as long as they are open. -/
def logBefore (search : Search) (n : Nat) : List Event :=
  (List.range n).flatMap fun g => (search.seed.turns g).log ++ [(search.seed.turns g).promotion]

/-- A run whose first generations are open: what they tell, and the run from the next one. -/
theorem run_eq_after {n more : Nat} (valid : search.settings.defect? = none)
    (budget : search.settings.maxGenerations = n + more + 1) (before : ∀ i < n, search.OpenAt i) :
    search.run = ((search.seed.turns n).proceed more).after
      ((List.range n).flatMap search.reportsAt) (search.logBefore n) := by
  have opened : ∀ i < n, (search.seed.turns i).IsOpen :=
    fun i less => (search.isOpen_turns i).mpr (before i less)
  have whole := proceed_turns more opened
  simp only [reports_turns] at whole
  rw [run, valid, budget, Nat.add_sub_cancel]
  exact whole

theorem run_eq {n more : Nat} (valid : search.settings.defect? = none)
    (budget : search.settings.maxGenerations = n + more + 1) (before : ∀ i < n, search.OpenAt i) :
    ∃ events, search.run = ((search.seed.turns n).proceed more).after
      ((List.range n).flatMap search.reportsAt) events :=
  ⟨_, run_eq_after valid budget before⟩

theorem result_of_winner {n more : Nat} {best : Candidate}
    (valid : search.settings.defect? = none)
    (budget : search.settings.maxGenerations = n + more + 1) (before : ∀ i < n, search.OpenAt i)
    (winner : (search.scoredAt n).find? search.isPerfect = some best) :
    ∃ tally, search.run.result = .ok ⟨.solved, best.snapshot, tally⟩ ∧
      tally.generations = n + 1 := by
  obtain ⟨events, run⟩ := run_eq valid budget before
  rw [← winner_turns] at winner
  rw [run, Run.after_result, proceed_of_winner more winner]
  refine ⟨_, rfl, ?_⟩
  simp [count]

theorem result_of_candidatesAt_eq_nil {n more : Nat} (valid : search.settings.defect? = none)
    (budget : search.settings.maxGenerations = n + more + 1) (before : ∀ i < n, search.OpenAt i)
    (none : search.candidatesAt n = []) : search.run.result = .error (.noCandidates n) := by
  obtain ⟨events, run⟩ := run_eq valid budget before
  rw [← (search.frontier_turns n).1] at none
  rw [run, Run.after_result, proceed_of_population_eq_nil more none]
  simp [fail]

theorem result_of_scoredAt_eq_nil {n more : Nat} (valid : search.settings.defect? = none)
    (budget : search.settings.maxGenerations = n + more + 1) (before : ∀ i < n, search.OpenAt i)
    (some : search.candidatesAt n ≠ []) (none : search.scoredAt n = []) :
    search.run.result = .error (.allInvalid n (search.candidatesAt n).length) := by
  obtain ⟨events, run⟩ := run_eq valid budget before
  have all := length_survivors_add_failures search.examples (search.candidatesAt n)
  rw [show (evaluateAll search.examples (search.candidatesAt n)).survivors = [] from none,
    List.length_nil, Nat.zero_add] at all
  have population := (search.frontier_turns n).1
  have failures : (search.seed.turns n).evaluation.failures = (search.candidatesAt n).length := by
    rw [evaluation, population, turns_examples, seed_examples, all]
  rw [← scored_turns] at none
  rw [← population] at some
  rw [run, Run.after_result, proceed_of_scored_eq_nil more some none, failures]
  simp [fail]

/-- The best candidate of the last generation is the result, and it is not perfect. -/
theorem result_of_openAt {n : Nat} (valid : search.settings.defect? = none)
    (budget : search.settings.maxGenerations = n + 1) (open' : ∀ i ≤ n, search.OpenAt i) :
    ∃ best tally, search.run.result = .ok ⟨.timedOut, best.snapshot, tally⟩ ∧
      tally.generations = n + 1 ∧ IsEarliestBest best (search.scoredAt n) ∧
      best.score < search.examples.goal := by
  obtain ⟨events, run⟩ :=
    @run_eq search n 0 valid budget fun i less => open' i (Nat.le_of_lt less)
  have last := open' n (Nat.le_refl n)
  obtain ⟨best, top⟩ : ∃ best, (ranked (search.scoredAt n)).head? = some best :=
    ⟨_, List.head?_eq_some_head (ranked_ne_nil last.1)⟩
  have earliest := isEarliestBest_of_head? top
  have below : best.score < search.examples.goal := by
    obtain ⟨d, -, m, -, rfl⟩ := mem_survivors.mp earliest.mem
    have atMost : (d.scoredBy m search.examples).score ≤ search.examples.goal :=
      m.roundHalfUp_score_le_goal search.examples
    exact lt_of_le_of_ne atMost (last.2 _ earliest.mem)
  rw [← scored_turns] at top
  rw [run, Run.after_result, proceed_zero ((search.isOpen_turns n).mpr last) top]
  refine ⟨best, _, rfl, ?_, earliest, below⟩
  simp [count]

/-! ## What a run tells -/

variable (search)

/-- The generations of the budget, up to the first without scored candidates. -/
def answered : List Nat :=
  (List.range search.settings.maxGenerations).takeWhile fun g => !(search.scoredAt g).isEmpty

variable {search}

theorem answered_of_scoredAt_eq_nil {n more : Nat}
    (budget : search.settings.maxGenerations = n + more + 1) (before : ∀ i < n, search.OpenAt i)
    (none : search.scoredAt n = []) : search.answered = List.range n := by
  rw [answered, budget, Nat.add_assoc, List.range_add, List.takeWhile_append_of_pos]
  · simp [List.range_succ_eq_map, none]
  · intro i mem
    simpa using (before i (List.mem_range.mp mem)).1

theorem answered_of_scoredAt_ne_nil {n more : Nat}
    (budget : search.settings.maxGenerations = n + more + 1) (before : ∀ i < n, search.OpenAt i)
    (some : search.scoredAt n ≠ []) : ∃ later, search.answered = List.range n ++ n :: later := by
  rw [answered, budget, Nat.add_assoc, List.range_add, List.takeWhile_append_of_pos]
  · simp [List.range_succ_eq_map, some]
  · intro i mem
    simpa using (before i (List.mem_range.mp mem)).1

theorem answered_of_openAt {n : Nat} (budget : search.settings.maxGenerations = n + 1)
    (open' : ∀ i ≤ n, search.OpenAt i) : search.answered = List.range (n + 1) := by
  rw [answered, budget, List.takeWhile_eq_self_iff]
  intro i mem
  simpa using (open' i (Nat.lt_succ_iff.mp (List.mem_range.mp mem))).1

/-- A report tells of a perfect candidate. -/
def tellsPerfect (search : Search) (report : Report) : Bool := report.score = search.examples.goal

theorem tellsPerfect_eq_false {n : Nat} (before : ∀ i < n, search.OpenAt i) :
    ∀ report ∈ (List.range n).flatMap search.reportsAt, search.tellsPerfect report = false := by
  intro report mem
  obtain ⟨i, less, inner⟩ := List.mem_flatMap.mp mem
  obtain ⟨c, scored, rfl⟩ := List.mem_map.mp inner
  exact decide_eq_false ((before i (List.mem_range.mp less)).2 c scored)

theorem reports_of_scoredAt_eq_nil {n more : Nat} (valid : search.settings.defect? = none)
    (budget : search.settings.maxGenerations = n + more + 1) (before : ∀ i < n, search.OpenAt i)
    (none : search.scoredAt n = []) :
    search.run.reports = (List.range n).flatMap search.reportsAt := by
  obtain ⟨events, run⟩ := run_eq valid budget before
  rw [run, Run.after_reports]
  by_cases unpopulated : (search.seed.turns n).population = []
  · rw [proceed_of_population_eq_nil more unpopulated]
    exact List.append_nil _
  · rw [← scored_turns] at none
    rw [proceed_of_scored_eq_nil more unpopulated none]
    exact List.append_nil _

theorem reports_of_winner {n more : Nat} {best : Candidate}
    (valid : search.settings.defect? = none)
    (budget : search.settings.maxGenerations = n + more + 1) (before : ∀ i < n, search.OpenAt i)
    (winner : (search.scoredAt n).find? search.isPerfect = some best) :
    search.run.reports = (List.range n).flatMap search.reportsAt ++
      upTo search.tellsPerfect (search.reportsAt n) := by
  obtain ⟨events, run⟩ := run_eq valid budget before
  have perfect : (search.seed.turns n).isPerfect = fun c => search.tellsPerfect (c.report n) := by
    funext c
    rw [isPerfect, turns_examples, seed_examples]
    rfl
  rw [← winner_turns] at winner
  rw [run, Run.after_reports, proceed_of_winner more winner, Run.after_reports, scored_turns,
    turns_generation, seed_generation, Nat.zero_add, reportsAt, upTo_map, perfect]
  simp [stop]

theorem reports_of_openAt {n : Nat} (valid : search.settings.defect? = none)
    (budget : search.settings.maxGenerations = n + 1) (open' : ∀ i ≤ n, search.OpenAt i) :
    search.run.reports = (List.range (n + 1)).flatMap search.reportsAt := by
  obtain ⟨events, run⟩ :=
    @run_eq search n 0 valid budget fun i less => open' i (Nat.le_of_lt less)
  have last := open' n (Nat.le_refl n)
  have scored : (search.seed.turns n).scored ≠ [] := by
    rw [scored_turns]
    exact last.1
  have top := List.head?_eq_some_head (ranked_ne_nil scored)
  rw [run, Run.after_reports, proceed_zero ((search.isOpen_turns n).mpr last) top,
    Run.after_reports, reports_turns, List.range_succ, List.flatMap_append]
  simp [stop]

theorem maxGenerations_pos (valid : search.settings.defect? = none) :
    0 < search.settings.maxGenerations := by
  rw [Nat.pos_iff_ne_zero]
  intro zero
  simp [Settings.defect?, zero] at valid

/-- A run reports the scored candidates of its generations in order, up to the first perfect one. -/
theorem reports_run (valid : search.settings.defect? = none) :
    search.run.reports = upTo search.tellsPerfect (search.answered.flatMap search.reportsAt) := by
  obtain ⟨n, le, opened, last⟩ := search.seed.exists_last (search.settings.maxGenerations - 1)
  have positive := maxGenerations_pos valid
  have before : ∀ i < n, search.OpenAt i :=
    fun i less => (search.isOpen_turns i).mp (opened i less)
  have budget : search.settings.maxGenerations =
      n + (search.settings.maxGenerations - 1 - n) + 1 := by omega
  have none' := tellsPerfect_eq_false before
  by_cases unscored : search.scoredAt n = []
  · rw [reports_of_scoredAt_eq_nil valid budget before unscored,
      answered_of_scoredAt_eq_nil budget before unscored, upTo_eq_self none']
  by_cases isOpen : search.OpenAt n
  · have all : ∀ i ≤ n, search.OpenAt i := by
      intro i le
      rcases Nat.lt_or_eq_of_le le with less | rfl
      · exact before i less
      · exact isOpen
    have end' : search.settings.maxGenerations = n + 1 := by
      rcases last with rfl | closed
      · omega
      · exact absurd ((search.isOpen_turns n).mpr isOpen) closed
    rw [reports_of_openAt valid end' all, answered_of_openAt end' all,
      upTo_eq_self (tellsPerfect_eq_false fun i less => all i (Nat.le_of_lt_succ less))]
  · obtain ⟨c, mem, perfect⟩ : ∃ c ∈ search.scoredAt n, c.score = search.examples.goal := by
      simpa [OpenAt, unscored] using isOpen
    obtain ⟨best, winner⟩ : ∃ best, (search.scoredAt n).find? search.isPerfect = some best :=
      Option.isSome_iff_exists.mp (List.find?_isSome.mpr ⟨c, mem, decide_eq_true perfect⟩)
    obtain ⟨later, answered⟩ := answered_of_scoredAt_ne_nil budget before unscored
    have any : (search.reportsAt n).any search.tellsPerfect = true :=
      List.any_eq_true.mpr ⟨_, List.mem_map_of_mem mem, decide_eq_true perfect⟩
    rw [reports_of_winner valid budget before winner, answered, List.flatMap_append,
      List.flatMap_cons, upTo_append _ none', upTo_append_of_any _ any]

/-- What a run tells and how it ends, by the sequence of its generations. -/
theorem run_refines_generations (valid : search.settings.defect? = none) :
    search.run.reports = upTo search.tellsPerfect (search.answered.flatMap search.reportsAt) ∧
    (∀ g < search.settings.maxGenerations, (∀ i < g, search.OpenAt i) →
      (∀ best, (search.scoredAt g).find? search.isPerfect = some best →
        ∃ tally, search.run.result = .ok ⟨.solved, best.snapshot, tally⟩ ∧
          tally.generations = g + 1) ∧
      (search.candidatesAt g = [] → search.run.result = .error (.noCandidates g)) ∧
      (search.candidatesAt g ≠ [] → search.scoredAt g = [] →
        search.run.result = .error (.allInvalid g (search.candidatesAt g).length))) ∧
    ((∀ g < search.settings.maxGenerations, search.OpenAt g) →
      ∃ best tally, search.run.result = .ok ⟨.timedOut, best.snapshot, tally⟩ ∧
        tally.generations = search.settings.maxGenerations ∧
        IsEarliestBest best (search.scoredAt (search.settings.maxGenerations - 1)) ∧
        best.score < search.examples.goal) := by
  have positive := maxGenerations_pos valid
  refine ⟨reports_run valid, ?_, ?_⟩
  · intro g less before
    have budget : search.settings.maxGenerations =
        g + (search.settings.maxGenerations - 1 - g) + 1 := by omega
    exact ⟨fun best => result_of_winner valid budget before,
      result_of_candidatesAt_eq_nil valid budget before,
      result_of_scoredAt_eq_nil valid budget before⟩
  · intro all
    have budget : search.settings.maxGenerations = search.settings.maxGenerations - 1 + 1 := by
      omega
    obtain ⟨best, tally, result, generations, earliest, below⟩ :=
      result_of_openAt valid budget fun i le => all i (by omega)
    exact ⟨best, tally, result, by omega, earliest, below⟩

/-- A digit does not do, but followed by a letter it does: the second generation solves the search. -/
theorem run_refines_digit_letter :
    let search : Search :=
      { settings := { seeds := [⟨"[0-9]"⟩], extensions := [⟨"[a-z]"⟩], maxGenerations := 3 }
        examples := ⟨["1x", "2y"], ["1", "x"]⟩ }
    ∃ best tally, (search.scoredAt 1).find? search.isPerfect = some best ∧
      best.wholeSource = "^[0-9][a-z]$" ∧
      search.run.result = .ok ⟨.solved, best.snapshot, tally⟩ ∧ tally.generations = 2 := by
  intro search
  have first : search.OpenAt 0 := by decide +kernel
  have before : ∀ i < 1, search.OpenAt i := by
    intro i less
    obtain rfl : i = 0 := by omega
    exact first
  have found : ((search.scoredAt 1).find? search.isPerfect).map (·.wholeSource) =
      some "^[0-9][a-z]$" := by
    simp only [scoredAt, candidatesAt, frontier, breed, selected, ranked_eq_foldr]
    decide +kernel
  obtain ⟨best, winner, source⟩ := Option.map_eq_some_iff.mp found
  have valid : search.settings.defect? = none := by decide
  obtain ⟨-, ends, -⟩ := run_refines_generations valid
  obtain ⟨tally, result, generations⟩ := (ends 1 (by decide) before).1 best winner
  exact ⟨best, tally, winner, source, result, generations⟩

end PatternSearch.Search
