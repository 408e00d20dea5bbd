import PatternSearch.Proofs.Search.Ends

/-!
# Larger budgets

A run looks at its budget of generations only to stop. With a larger one it takes the same turns, one
by one, and a run that is not stopped by its budget is the same run. Nothing is said of how a search
that timed out ends with a larger budget, but what it has told and counted stays told and counted.
-/

namespace PatternSearch

/-- One tally counts no more than the other. -/
structure Tally.AtMost (tally tally' : Tally) : Prop where
  evaluations : tally.evaluations ≤ tally'.evaluations
  failures : tally.failures ≤ tally'.failures

namespace Tally.AtMost

theorem refl (tally : Tally) : tally.AtMost tally := ⟨Nat.le_refl _, Nat.le_refl _⟩

theorem trans {a b c : Tally} (h : a.AtMost b) (h' : b.AtMost c) : a.AtMost c :=
  ⟨h.evaluations.trans h'.evaluations, h.failures.trans h'.failures⟩

end Tally.AtMost

namespace Run

/-- The budget was used up. -/
def IsTimedOut (run : Run) : Prop := ∃ outcome, run.result = .ok outcome ∧ outcome.ending = .timedOut

/-- A run is another one, or it timed out where the other one went on. -/
structure IsCutOf (short long : Run) : Prop where
  reports : short.reports <+: long.reports
  same : ¬short.IsTimedOut → long = short
  tally : short.search.tally.AtMost long.search.tally

theorem IsCutOf.refl (run : Run) : run.IsCutOf run where
  reports := List.prefix_refl run.reports
  same _ := rfl
  tally := Tally.AtMost.refl run.search.tally

/-- What comes before both runs can be left out. -/
theorem IsCutOf.after {short long : Run} (h : short.IsCutOf long) (reports : List Report)
    (events : List Event) : (short.after reports events).IsCutOf (long.after reports events) where
  reports := (List.prefix_append_right_inj reports).mpr h.reports
  same unfinished := by rw [h.same unfinished]
  tally := h.tally

end Run

/-- The search with another budget of generations. -/
def Search.withBudget (search : Search) (generations : Nat) : Search :=
  { search with settings := { search.settings with maxGenerations := generations } }

/-- The run, leaving behind a search with another budget. -/
def Run.withBudget (run : Run) (generations : Nat) : Run :=
  { run with search := run.search.withBudget generations }

namespace Search

variable {search : Search}

/-! ## The last turn -/

/-- The last turn counts a generation, unless it finds none. -/
theorem atMost_proceed_zero (search : Search) :
    search.tally.AtMost (search.proceed 0).search.tally := by
  rcases search.left_of_proceed_zero with unchanged | counted
  · rw [unchanged]
    exact Tally.AtMost.refl _
  · rw [counted]
    exact ⟨Nat.le_add_right _ _, Nat.le_add_right _ _⟩

theorem proceed_zero_withBudget (search : Search) (generations : Nat) :
    (search.withBudget generations).proceed 0 = (search.proceed 0).withBudget generations := by
  cases search.lastTurn with
  | unpopulated empty run =>
    rw [run, @proceed_of_population_eq_nil (search.withBudget generations) 0 empty]
    rfl
  | unscored populated empty run =>
    rw [run, @proceed_of_scored_eq_nil (search.withBudget generations) 0 populated empty]
    rfl
  | won best winner run =>
    rw [run, @proceed_of_winner (search.withBudget generations) best 0 winner]
    rfl
  | spent best isOpen top run =>
    rw [run, @proceed_zero (search.withBudget generations) best isOpen top]
    rfl

/-! ## All turns -/

/-- Whatever a search goes on with, it does not uncount anything. -/
theorem atMost_proceed (more : Nat) : search.tally.AtMost (search.proceed more).search.tally := by
  induction more generalizing search with
  | zero => exact search.atMost_proceed_zero
  | succ more ih =>
    by_cases isOpen : search.IsOpen
    · have counted : search.tally.AtMost search.turn.tally :=
        ⟨Nat.le_add_right _ _, Nat.le_add_right _ _⟩
      rw [proceed_succ more isOpen]
      exact counted.trans ih
    · rw [proceed_of_closed (more + 1) isOpen]
      exact search.atMost_proceed_zero

/-- The budget is no part of what a turn does. -/
theorem proceed_withBudget (more generations : Nat) :
    (search.withBudget generations).proceed more =
      (search.proceed more).withBudget generations := by
  induction more generalizing search with
  | zero => exact search.proceed_zero_withBudget generations
  | succ more ih =>
    by_cases isOpen : search.IsOpen
    · rw [proceed_succ more isOpen, @proceed_succ (search.withBudget generations) more isOpen]
      exact congrArg (Run.after _ _) (@ih search.turn)
    · rw [proceed_of_closed (more + 1) isOpen,
        @proceed_of_closed (search.withBudget generations) (more + 1) isOpen]
      exact search.proceed_zero_withBudget generations

/-- An open turn at the end of the budget is cut off from all that could follow. -/
theorem isCutOf_of_open (extra : Nat) (isOpen : search.IsOpen) :
    (search.proceed 0).IsCutOf (search.proceed extra) := by
  have top := List.head?_eq_some_head (ranked_ne_nil isOpen.1)
  cases extra with
  | zero => exact Run.IsCutOf.refl _
  | succ extra =>
    rw [proceed_zero isOpen top, proceed_succ extra isOpen]
    refine ⟨?_, ?_, @atMost_proceed search.turn extra⟩
    · exact (List.prefix_append_right_inj _).mpr List.nil_prefix
    · intro unfinished
      exact absurd ⟨_, rfl, rfl⟩ unfinished

/-- Two runs with the same search and different numbers of turns to go. -/
theorem isCutOf_proceed (more extra : Nat) :
    (search.proceed more).IsCutOf (search.proceed (more + extra)) := by
  -- Both runs take the same turns up to a closed one, or up to where the smaller budget ends.
  induction more generalizing search with
  | zero =>
    rw [Nat.zero_add]
    by_cases isOpen : search.IsOpen
    · exact isCutOf_of_open extra isOpen
    · rw [proceed_of_closed extra isOpen]
      exact Run.IsCutOf.refl _
  | succ more ih =>
    rw [Nat.add_right_comm]
    by_cases isOpen : search.IsOpen
    · rw [proceed_succ more isOpen, proceed_succ (more + extra) isOpen]
      exact ih.after _ _
    · rw [proceed_of_closed (more + 1) isOpen, proceed_of_closed (more + extra + 1) isOpen]
      exact Run.IsCutOf.refl _

/-! ## Whole runs -/

theorem defect?_withBudget {generations : Nat} (valid : search.settings.defect? = none)
    (positive : 0 < generations) : (search.withBudget generations).settings.defect? = none := by
  have some : ¬(search.withBudget generations).settings.maxGenerations = 0 := positive.ne'
  rw [Settings.defect?, if_neg (maxGenerations_pos valid).ne'] at valid
  rw [Settings.defect?, if_neg some]
  exact valid

/-- A larger budget makes a run longer, if it timed out, and is of no consequence otherwise. -/
theorem run_prefix_of_le {generations : Nat} (valid : search.settings.defect? = none)
    (le : search.settings.maxGenerations ≤ generations) :
    let longer := (search.withBudget generations).run
    search.run.reports <+: longer.reports ∧
      (¬search.run.IsTimedOut → longer.reports = search.run.reports ∧
        longer.result = search.run.result ∧
        longer.search = search.run.search.withBudget generations) ∧
      (∀ outcome, search.run.result = .ok outcome → outcome.ending = .timedOut →
        outcome.tally.evaluations ≤ longer.search.tally.evaluations ∧
          outcome.tally.failures ≤ longer.search.tally.failures) ∧
      ∀ outcome, longer.result = .ok outcome → outcome.tally = longer.search.tally := by
  intro longer
  have positive := maxGenerations_pos valid
  have short : search.run = search.seed.proceed (search.settings.maxGenerations - 1) := by
    rw [run, valid]
  have long : longer = (search.seed.proceed (generations - 1)).withBudget generations := by
    rw [← proceed_withBudget]
    change (search.withBudget generations).run = _
    rw [run, defect?_withBudget valid (by omega)]
    rfl
  have cut := @isCutOf_proceed search.seed (search.settings.maxGenerations - 1)
    (generations - search.settings.maxGenerations)
  rw [show search.settings.maxGenerations - 1 + (generations - search.settings.maxGenerations) =
    generations - 1 by omega, ← short] at cut
  refine ⟨?_, ?_, ?_, fun outcome => tally_of_result⟩
  · rw [long]
    exact cut.reports
  · intro unfinished
    rw [long, cut.same unfinished]
    exact ⟨rfl, rfl, rfl⟩
  · intro outcome result _
    rw [tally_of_result result, long]
    exact ⟨cut.tally.evaluations, cut.tally.failures⟩

/-- Digits alone do not do for the first examples, and the run goes on with a larger budget; they do
for the others, and the larger budget is not used. -/
theorem run_prefix_of_digit :
    let pending : Search :=
      { settings := { seeds := [⟨"[0-9]"⟩], extensions := [⟨"[a-z]"⟩], maxGenerations := 1 }
        examples := ⟨["1x", "2y"], ["1", "x"]⟩ }
    let solved : Search := { pending with examples := ⟨["1", "2"], ["x"]⟩ }
    (∃ outcome, pending.run.result = .ok outcome ∧ outcome.ending = .timedOut ∧
      pending.run.reports <+: (pending.withBudget 3).run.reports ∧
      outcome.tally.evaluations ≤ (pending.withBudget 3).run.search.tally.evaluations) ∧
    ∃ outcome, solved.run.result = .ok outcome ∧ outcome.ending = .solved ∧
      (solved.withBudget 3).run.result = .ok outcome := by
  intro pending solved
  have first : pending.OpenAt 0 := by decide +kernel
  have all : ∀ i ≤ 0, pending.OpenAt i := by
    intro i le
    obtain rfl := Nat.le_zero.mp le
    exact first
  obtain ⟨best, tally, timedOut, -⟩ := @result_of_openAt pending 0 (by decide) rfl all
  have found : solved.run.result = .ok ⟨.solved,
      ⟨0, 0, none, [⟨"[0-9]"⟩], 2, .ofNat 2, "^[0-9]$"⟩, ⟨1, 2, 0, .zero⟩⟩ := by decide +kernel
  obtain ⟨told, -, counted, -⟩ := @run_prefix_of_le pending 3 (by decide) (by decide)
  obtain ⟨-, same, -, -⟩ := @run_prefix_of_le solved 3 (by decide) (by decide)
  have finished : ¬solved.run.IsTimedOut := by
    rintro ⟨outcome, result, ending⟩
    cases found.symm.trans result
    cases ending
  exact ⟨⟨_, timedOut, rfl, told, (counted _ timedOut rfl).1⟩,
    ⟨_, found, rfl, (same finished).2.1.trans found⟩⟩

end Search

end PatternSearch
