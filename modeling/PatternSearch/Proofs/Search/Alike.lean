import Mathlib.Data.List.Basic
import PatternSearch.Proofs.Search.Refinement

/-!
# Searches that score alike

What a run does depends on its examples through the scores alone: two runs whose candidates score
alike go through the same generations, tell the same and end the same. How far the raw scores have to
agree is a parameter, and what is not compared is not told apart.
-/

namespace PatternSearch

def Candidate.mapRaw (f : Binary64 → Binary64) (c : Candidate) : Candidate :=
  { c with raw := f c.raw }

def Report.mapRaw (f : Binary64 → Binary64) (report : Report) : Report :=
  { report with raw := f report.raw }

def Snapshot.mapRaw (f : Binary64 → Binary64) (snapshot : Snapshot) : Snapshot :=
  { snapshot with raw := f snapshot.raw }

def Outcome.mapRaw (f : Binary64 → Binary64) (outcome : Outcome) : Outcome :=
  { outcome with best := outcome.best.mapRaw f }

/-- What a run tells and how it ends, up to a view of the raw scores. -/
def Run.told (f : Binary64 → Binary64) (run : Run) : List Report × Except Failure Outcome :=
  (run.reports.map (·.mapRaw f), run.result.map (·.mapRaw f))

section MapRaw

variable (f : Binary64 → Binary64)

theorem ranked_mapRaw (cs : List Candidate) :
    ranked (cs.map (·.mapRaw f)) = (ranked cs).map (·.mapRaw f) := by
  rw [ranked, ranked, List.map_mergeSort]
  intro a _ b _
  rfl

theorem selected_mapRaw (cs : List Candidate) (count : Nat) :
    selected (cs.map (·.mapRaw f)) count = (selected cs count).map (·.mapRaw f) := by
  rw [selected, selected, ranked_mapRaw, List.map_take]

/-- The reports on the same candidates, up to the view. -/
theorem reports_congr {cs cs' : List Candidate}
    (h : cs.map (·.mapRaw f) = cs'.map (·.mapRaw f)) (generation : Nat) :
    (cs.map (·.report generation)).map (·.mapRaw f) =
      (cs'.map (·.report generation)).map (·.mapRaw f) := by
  have same := congrArg (List.map (·.report generation)) h
  rwa [List.map_map, List.map_map] at same ⊢

/-- Children inherit no score. -/
theorem Search.breed_mapRaw (search : Search) (scored : List Candidate) :
    search.breed (scored.map (·.mapRaw f)) = search.breed scored := by
  have bred : ((selected scored search.settings.keep).map (·.mapRaw f)).flatMap (fun parent =>
      (search.settings.breeding.children parent.fragments).map fun fragments => (parent, fragments)) =
      ((selected scored search.settings.keep).flatMap fun parent =>
        (search.settings.breeding.children parent.fragments).map fun fragments =>
          (parent, fragments)).map (Prod.map (·.mapRaw f) id) := by
    rw [List.flatMap_map, List.map_flatMap]
    simp only [List.map_map]
    rfl
  simp only [breed, selected_mapRaw, bred, List.zipIdx_map, List.map_map, List.length_map]
  rfl

theorem Run.told_after (reports : List Report) (events : List Event) (run : Run) :
    (run.after reports events).told f =
      (reports.map (·.mapRaw f) ++ (run.told f).1, (run.told f).2) := by
  rw [told, told, after_reports, after_result, List.map_append]

end MapRaw

namespace Search

/-- The search with other examples. -/
def against (search : Search) (examples : Examples) : Search := { search with examples }

/-- The candidates of the current generation get the same scores from other examples, and the same
view of the raw ones. -/
def ScoresAlike (f : Binary64 → Binary64) (search : Search) (examples : Examples) : Prop :=
  ∀ c ∈ search.population, ∀ m, Matcher.compile c.fragments = .ok m →
    (m.score examples).roundHalfUp = (m.score search.examples).roundHalfUp ∧
      f (m.score examples) = f (m.score search.examples)

variable {f : Binary64 → Binary64} {search : Search} {examples : Examples}

theorem failures_against :
    (search.against examples).evaluation.failures = search.evaluation.failures := by
  rw [evaluation, evaluation, failures_eq, failures_eq]
  apply List.countP_congr
  intro c _
  rw [Candidate.judge, Candidate.judge]
  cases Matcher.compile c.fragments with
  | error rejection => rfl
  | ok m => rfl

theorem scored_against (alike : search.ScoresAlike f examples) :
    (search.against examples).scored.map (·.mapRaw f) = search.scored.map (·.mapRaw f) := by
  rw [scored, scored, evaluation, evaluation, survivors_eq, survivors_eq, List.map_filterMap,
    List.map_filterMap]
  apply List.filterMap_congr
  intro c mem
  rw [Candidate.judge, Candidate.judge]
  cases compiled : Matcher.compile c.fragments with
  | error rejection => rfl
  | ok m =>
    obtain ⟨score, raw⟩ := alike c mem m compiled
    change some ((c.scoredBy m examples).mapRaw f) = some ((c.scoredBy m search.examples).mapRaw f)
    rw [Candidate.scoredBy, Candidate.scoredBy, Candidate.mapRaw, Candidate.mapRaw]
    dsimp only
    rw [score, raw]

/-! ## One turn -/

theorem scored_against_eq_nil_iff (alike : search.ScoresAlike f examples) :
    (search.against examples).scored = [] ↔ search.scored = [] := by
  rw [← List.map_eq_nil_iff (f := (·.mapRaw f)), scored_against alike, List.map_eq_nil_iff]

theorem count_against (alike : search.ScoresAlike f examples) :
    (search.against examples).count (search.against examples).evaluation =
      (search.count search.evaluation).against examples := by
  have length := congrArg List.length (scored_against alike)
  rw [List.length_map, List.length_map] at length
  rw [count, count, failures_against]
  change (search.against examples).evaluation.survivors.length =
    search.evaluation.survivors.length at length
  rw [length]
  rfl

theorem turn_against (alike : search.ScoresAlike f examples) :
    (search.against examples).turn = search.turn.against examples := by
  have same := scored_against alike
  have bred : ∀ s : Search, s.breed (search.against examples).scored = s.breed search.scored := by
    intro s
    rw [← breed_mapRaw f, same, breed_mapRaw]
  rw [turn, turn, next, next, count_against alike, bred]
  rfl

variable (goal : examples.goal = search.examples.goal)

include goal

theorem isPerfect_against : (search.against examples).isPerfect = search.isPerfect := by
  funext c
  rw [isPerfect, isPerfect]
  change decide (c.score = examples.goal) = _
  rw [goal]

theorem winner_against (alike : search.ScoresAlike f examples) :
    (search.against examples).winner?.map (·.mapRaw f) = search.winner?.map (·.mapRaw f) := by
  have found := congrArg (List.find? search.isPerfect) (scored_against alike)
  rw [List.find?_map, List.find?_map] at found
  rw [winner?, winner?, isPerfect_against goal]
  exact found

theorem isOpen_against (alike : search.ScoresAlike f examples) :
    (search.against examples).IsOpen ↔ search.IsOpen := by
  have winner := winner_against goal alike
  rw [IsOpen, IsOpen, ne_eq, ne_eq, scored_against_eq_nil_iff alike,
    ← Option.map_eq_none_iff (f := (·.mapRaw f)), winner, Option.map_eq_none_iff]

theorem upTo_scored_against (alike : search.ScoresAlike f examples) :
    (upTo (search.against examples).isPerfect (search.against examples).scored).map (·.mapRaw f) =
      (upTo search.isPerfect search.scored).map (·.mapRaw f) := by
  have told := congrArg (upTo search.isPerfect) (scored_against alike)
  rw [upTo_map, upTo_map] at told
  rw [isPerfect_against goal]
  exact told

/-! ## Whole runs -/

omit goal in
theorem turns_turn (n : Nat) : search.turn.turns n = search.turns (n + 1) := by
  induction n with
  | zero => rfl
  | succ n ih => exact congrArg turn ih

omit goal in
theorem told_stop (ending : Ending) {best best' : Candidate} (h : best.mapRaw f = best'.mapRaw f) :
    ((search.against examples).stop ending best).told f = (search.stop ending best').told f := by
  have snapshots : best.snapshot.mapRaw f = best'.snapshot.mapRaw f :=
    congrArg Candidate.snapshot h
  change (_, Except.ok (Outcome.mk ending (best.snapshot.mapRaw f) search.tally)) = _
  rw [snapshots]
  rfl

/-- A turn that fails or finds a winner is the last one. -/
theorem told_of_closed (more : Nat) (alike : search.ScoresAlike f examples)
    (closed : ¬search.IsOpen) :
    ((search.against examples).proceed more).told f = (search.proceed more).told f := by
  by_cases unpopulated : search.population = []
  · rw [proceed_of_population_eq_nil more unpopulated,
      @proceed_of_population_eq_nil (search.against examples) more unpopulated]
    rfl
  by_cases unscored : search.scored = []
  · have unscored' := (scored_against_eq_nil_iff alike).mpr unscored
    rw [proceed_of_scored_eq_nil more unpopulated unscored,
      @proceed_of_scored_eq_nil (search.against examples) more unpopulated unscored',
      Run.told_after, Run.told_after, failures_against]
    rfl
  cases winner : search.winner? with
  | none => exact absurd ⟨unscored, winner⟩ closed
  | some best =>
    have found := winner_against goal alike
    rw [winner] at found
    obtain ⟨best', winner', same⟩ := Option.map_eq_some_iff.mp found
    have reports := reports_congr f (upTo_scored_against goal alike) search.generation
    rw [proceed_of_winner more winner, proceed_of_winner more winner', Run.told_after,
      Run.told_after, count_against alike, told_stop .solved same]
    exact congrArg (fun told => (told ++ _, _)) reports

/-- The budget may end with an open turn. -/
theorem told_zero (alike : search.ScoresAlike f examples) (open' : search.IsOpen) :
    ((search.against examples).proceed 0).told f = (search.proceed 0).told f := by
  have top := List.head?_eq_some_head (ranked_ne_nil open'.1)
  have tops := congrArg (fun cs => (ranked cs).head?) (scored_against alike)
  simp only [ranked_mapRaw, List.head?_map] at tops
  rw [top] at tops
  obtain ⟨best', top', same⟩ := Option.map_eq_some_iff.mp tops
  have reports := reports_congr f (scored_against alike) search.generation
  rw [proceed_zero open' top, proceed_zero ((isOpen_against goal alike).mpr open') top',
    Run.told_after, Run.told_after, count_against alike, told_stop .timedOut same]
  exact congrArg (fun told => (told ++ _, _)) reports

/-- A run tells the same with other examples if every candidate that it comes to scores alike: the
turns of both are the same, one by one. -/
theorem told_proceed_against (more : Nat)
    (alike : ∀ i ≤ more, (∀ j < i, (search.turns j).IsOpen) →
      (search.turns i).ScoresAlike f examples) :
    ((search.against examples).proceed more).told f = (search.proceed more).told f := by
  induction more generalizing search with
  | zero =>
    have here : search.ScoresAlike f examples :=
      alike 0 (Nat.le_refl 0) fun j less => absurd less (Nat.not_lt_zero j)
    by_cases open' : search.IsOpen
    · exact told_zero goal here open'
    · exact told_of_closed goal 0 here open'
  | succ more ih =>
    have here : search.ScoresAlike f examples :=
      alike 0 (Nat.zero_le _) fun j less => absurd less (Nat.not_lt_zero j)
    by_cases open' : search.IsOpen
    · have reports := reports_congr f (scored_against here) search.generation
      have later : ∀ i ≤ more, (∀ j < i, (search.turn.turns j).IsOpen) →
          (search.turn.turns i).ScoresAlike f examples := by
        intro i le before
        rw [turns_turn]
        apply alike (i + 1) (by omega)
        intro j less
        cases j with
        | zero => exact open'
        | succ j => exact turns_turn j ▸ before j (by omega)
      rw [proceed_succ more open', proceed_succ more ((isOpen_against goal here).mpr open'),
        Run.told_after, Run.told_after, turn_against here, @ih search.turn goal later]
      exact congrArg (fun told => (told ++ _, _)) reports
    · exact told_of_closed goal (more + 1) here open'

/-- The same by the sequence of generations. -/
theorem told_run_against
    (alike : ∀ g < search.settings.maxGenerations, (∀ i < g, search.OpenAt i) →
      ∀ c ∈ search.candidatesAt g, ∀ m, Matcher.compile c.fragments = .ok m →
        (m.score examples).roundHalfUp = (m.score search.examples).roundHalfUp ∧
          f (m.score examples) = f (m.score search.examples)) :
    (search.against examples).run.told f = search.run.told f := by
  rw [run, run]
  cases valid : search.settings.defect? with
  | some defect =>
    rw [show (search.against examples).settings.defect? = some defect from valid]
    rfl
  | none =>
    rw [show (search.against examples).settings.defect? = none from valid]
    have positive := maxGenerations_pos valid
    change ((search.seed.against examples).proceed (search.settings.maxGenerations - 1)).told f = _
    apply @told_proceed_against f search.seed examples goal
    intro i le before c mem m compiled
    rw [(search.frontier_turns i).1] at mem
    rw [turns_examples]
    apply alike i (by omega) _ c mem m compiled
    intro j less
    exact (search.isOpen_turns j).mp (before j less)

end Search

end PatternSearch
