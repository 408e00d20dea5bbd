import PatternSearch.Proofs.Search.Refinement

/-!
# The last generation

A run ends in one generation of its sequence, in one of four ways: the generation has no candidates,
none of them compiles, one of them is perfect, or the budget is spent. What a run tells, how it ends
and which state it leaves behind is stated here once for each of the four.
-/

namespace PatternSearch

@[simp] theorem Run.after_search (r : List Report) (e : List Event) (run : Run) :
    (run.after r e).search = run.search := rfl

namespace Search

variable (search : Search)

/-! ## The last turn -/

/-- All that the last turn of a budget can come to. -/
inductive LastTurn : Prop
  | unpopulated (empty : search.population = [])
      (run : search.proceed 0 = search.fail (.noCandidates search.generation))
  | unscored (populated : search.population ≠ []) (empty : search.scored = [])
      (run : search.proceed 0 = ((search.count search.evaluation).fail
        (.allInvalid search.generation search.evaluation.failures)).after
          [] search.evaluation.events)
  | won (best : Candidate) (winner : search.winner? = some best)
      (run : search.proceed 0 = ((search.count search.evaluation).stop .solved best).after
        ((upTo search.isPerfect search.scored).map (·.report search.generation))
        (search.tellings (upTo search.isPerfect search.scored)))
  | spent (best : Candidate) (isOpen : search.IsOpen)
      (top : (ranked search.scored).head? = some best)
      (run : search.proceed 0 = ((search.count search.evaluation).stop .timedOut best).after
        search.reports search.log)

theorem lastTurn : search.LastTurn := by
  by_cases unpopulated : search.population = []
  · exact .unpopulated unpopulated (proceed_of_population_eq_nil 0 unpopulated)
  by_cases unscored : search.scored = []
  · exact .unscored unpopulated unscored (proceed_of_scored_eq_nil 0 unpopulated unscored)
  cases winner : search.winner? with
  | some best => exact .won best winner (proceed_of_winner 0 winner)
  | none =>
    have top := List.head?_eq_some_head (ranked_ne_nil unscored)
    exact .spent _ ⟨unscored, winner⟩ top (proceed_zero ⟨unscored, winner⟩ top)

variable {search}

/-- A turn that fails or has a winner is the last one, whatever is left of the budget. -/
theorem proceed_of_closed (more : Nat) (closed : ¬search.IsOpen) :
    search.proceed more = search.proceed 0 := by
  cases search.lastTurn with
  | unpopulated empty run => rw [run, proceed_of_population_eq_nil more empty]
  | unscored populated empty run => rw [run, proceed_of_scored_eq_nil more populated empty]
  | won best winner run => rw [run, proceed_of_winner more winner]
  | spent best isOpen top run => exact absurd isOpen closed

variable (search)

/-- The last turn leaves the search as it is, or with the current generation counted. -/
theorem left_of_proceed_zero : (search.proceed 0).search = search ∨
    (search.proceed 0).search = search.count search.evaluation := by
  cases search.lastTurn with
  | unpopulated empty run =>
    rw [run]
    exact Or.inl rfl
  | unscored populated empty run =>
    rw [run]
    exact Or.inr rfl
  | won best winner run =>
    rw [run]
    exact Or.inr rfl
  | spent best isOpen top run =>
    rw [run]
    exact Or.inr rfl

/-! ## The end of a run -/

/-- The run goes through open generations up to this one and no further. -/
structure EndsAt (n : Nat) : Prop where
  within : n < search.settings.maxGenerations
  before : ∀ i < n, search.OpenAt i
  last : n + 1 = search.settings.maxGenerations ∨ ¬search.OpenAt n

/-- The state of a run that has evaluated a generation. -/
def countedAt (n : Nat) : Search := (search.seed.turns n).count (search.seed.turns n).evaluation

/-- All that can happen at the end of a run in a generation. -/
inductive Ends (n : Nat) : Prop
  | unpopulated (empty : search.candidatesAt n = [])
      (reports : search.run.reports = (List.range n).flatMap search.reportsAt)
      (result : search.run.result = .error (.noCandidates n))
      (left : search.run.search = search.seed.turns n)
  | unscored (populated : search.candidatesAt n ≠ []) (empty : search.scoredAt n = [])
      (reports : search.run.reports = (List.range n).flatMap search.reportsAt)
      (result : search.run.result = .error (.allInvalid n (search.candidatesAt n).length))
      (left : search.run.search = search.countedAt n)
  | won (best : Candidate) (winner : (search.scoredAt n).find? search.isPerfect = some best)
      (reports : search.run.reports = (List.range n).flatMap search.reportsAt ++
        upTo search.tellsPerfect (search.reportsAt n))
      (result : search.run.result = .ok ⟨.solved, best.snapshot, (search.countedAt n).tally⟩)
      (left : search.run.search = search.countedAt n)
  | spent (best : Candidate) (isOpen : search.OpenAt n)
      (top : (ranked (search.scoredAt n)).head? = some best)
      (reports : search.run.reports = (List.range (n + 1)).flatMap search.reportsAt)
      (result : search.run.result = .ok ⟨.timedOut, best.snapshot, (search.countedAt n).tally⟩)
      (left : search.run.search = search.countedAt n)

variable {search} {n : Nat}

theorem EndsAt.budget (h : search.EndsAt n) : search.settings.maxGenerations =
    n + (search.settings.maxGenerations - 1 - n) + 1 := by
  have within := h.within
  omega

/-- No run gets past its end. -/
theorem EndsAt.le {m : Nat} (h : search.EndsAt n) (h' : search.EndsAt m) : m ≤ n := by
  rcases h.last with spent | closed
  · have within := h'.within
    omega
  · by_contra past
    exact closed (h'.before n (by omega))

theorem EndsAt.unique {m : Nat} (h : search.EndsAt n) (h' : search.EndsAt m) : n = m :=
  Nat.le_antisymm (h'.le h) (h.le h')

theorem exists_endsAt (valid : search.settings.defect? = none) : ∃ n, search.EndsAt n := by
  obtain ⟨n, le, opened, last⟩ := search.seed.exists_last (search.settings.maxGenerations - 1)
  have positive := maxGenerations_pos valid
  refine ⟨n, by omega, ?_, ?_⟩
  · intro i less
    exact (search.isOpen_turns i).mp (opened i less)
  · rcases last with spent | closed
    · exact Or.inl (by omega)
    · exact Or.inr fun isOpen => closed ((search.isOpen_turns n).mpr isOpen)

/-- The run is what it tells on the way and its last turn. -/
theorem run_eq_after_lastTurn (valid : search.settings.defect? = none) (h : search.EndsAt n) :
    search.run = ((search.seed.turns n).proceed 0).after
      ((List.range n).flatMap search.reportsAt) (search.logBefore n) := by
  refine (run_eq_after valid h.budget h.before).trans ?_
  rcases h.last with spent | closed
  · rw [show search.settings.maxGenerations - 1 - n = 0 by omega]
  · rw [proceed_of_closed _ fun isOpen => closed ((search.isOpen_turns n).mp isOpen)]

theorem run_of_defect {defect : Defect} (h : search.settings.defect? = some defect) :
    search.run = search.fail (.badSettings defect) := by
  rw [run, h]

theorem scoredAt_eq_nil (empty : search.candidatesAt n = []) : search.scoredAt n = [] := by
  rw [scoredAt, empty]
  rfl

/-- How a run with valid settings ends. -/
theorem ends_of_endsAt (valid : search.settings.defect? = none) (h : search.EndsAt n) :
    search.Ends n := by
  have before := h.before
  have budget := h.budget
  have run := run_eq_after_lastTurn valid h
  cases (search.seed.turns n).lastTurn with
  | unpopulated empty last =>
    rw [(search.frontier_turns n).1] at empty
    refine .unpopulated empty
      (reports_of_scoredAt_eq_nil valid budget before (scoredAt_eq_nil empty))
      (result_of_candidatesAt_eq_nil valid budget before empty) ?_
    rw [run, last]
    rfl
  | unscored populated empty last =>
    rw [(search.frontier_turns n).1] at populated
    rw [scored_turns] at empty
    refine .unscored populated empty (reports_of_scoredAt_eq_nil valid budget before empty)
      (result_of_scoredAt_eq_nil valid budget before populated empty) ?_
    rw [run, last]
    rfl
  | won best winner last =>
    rw [winner_turns] at winner
    refine .won best winner (reports_of_winner valid budget before winner) ?_ ?_
    · rw [run, last]
      rfl
    · rw [run, last]
      rfl
  | spent best isOpen top last =>
    rw [isOpen_turns] at isOpen
    rw [scored_turns] at top
    refine .spent best isOpen top ?_ ?_ ?_
    · rw [run, last, Run.after_reports, Run.after_reports, reports_turns, flatMap_range_succ]
      simp [stop]
    · rw [run, last]
      rfl
    · rw [run, last]
      rfl

/-- A run tells of scored candidates only, and in their order. -/
theorem reports_isPrefix (valid : search.settings.defect? = none) (h : search.EndsAt n) :
    search.run.reports <+: (List.range (n + 1)).flatMap search.reportsAt := by
  have all := flatMap_range_succ search.reportsAt n
  cases ends_of_endsAt valid h with
  | unpopulated empty reports result left =>
    rw [reports, all]
    exact List.prefix_append _ _
  | unscored populated empty reports result left =>
    rw [reports, all]
    exact List.prefix_append _ _
  | won best winner reports result left =>
    rw [reports, all]
    exact (List.prefix_append_right_inj _).mpr (upTo_isPrefix _)
  | spent best isOpen top reports result left => exact reports ▸ List.prefix_refl _

/-- An outcome has the counts of the state that the run leaves behind. -/
theorem tally_of_result {outcome : Outcome} (result : search.run.result = .ok outcome) :
    outcome.tally = search.run.search.tally := by
  cases valid : search.settings.defect? with
  | some defect =>
    rw [run_of_defect valid] at result
    cases result
  | none =>
    obtain ⟨n, endsAt⟩ := exists_endsAt valid
    cases ends_of_endsAt valid endsAt with
    | unpopulated empty reports result' left => cases result'.symm.trans result
    | unscored populated empty reports result' left => cases result'.symm.trans result
    | won best winner reports result' left =>
      cases result'.symm.trans result
      rw [left]
    | spent best isOpen top reports result' left =>
      cases result'.symm.trans result
      rw [left]

end Search

end PatternSearch
