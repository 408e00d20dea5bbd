import Mathlib.Data.List.Forall2
import PatternSearch.Proofs.Search.Evaluated

/-!
# Evaluation as a partition

Evaluating a population splits it into the candidates that compile and those that do not. The first are
kept in order, each as if it were evaluated alone, and the others are counted. So what becomes of one
candidate depends on no other one, nor on the score and pattern that it was given earlier.
-/

namespace PatternSearch

/-- The patterns of the candidate are accepted. -/
def Candidate.compiles (c : Candidate) : Bool := (Matcher.compile c.fragments).isOk

/-- Evaluating the first candidate alone gives the second one, whatever score and pattern the first one
held before, and the second has the place of the first in the search. -/
structure Candidate.EvaluatesTo (examples : Examples) (c d : Candidate) : Prop where
  evaluate_eq : ∀ score raw whole, evaluate { c with score, raw, whole } examples = .ok d
  id_eq : d.id = c.id
  fragments_eq : d.fragments = c.fragments
  generation_eq : d.generation = c.generation
  parent_eq : d.parent = c.parent

section Partition

variable {examples : Examples} {c : Candidate} {m : Matcher} {rejection : Rejection}

theorem evaluatesTo_scoredBy (compiled : Matcher.compile c.fragments = .ok m) :
    c.EvaluatesTo examples (c.scoredBy m examples) where
  evaluate_eq := by
    intro score raw whole
    simp only [Candidate.evaluate, compiled]
    rfl
  id_eq := rfl
  fragments_eq := rfl
  generation_eq := rfl
  parent_eq := rfl

theorem compiles_of_ok (compiled : Matcher.compile c.fragments = .ok m) : c.compiles = true := by
  simp only [Candidate.compiles, compiled]
  rfl

theorem compiles_of_error (refused : Matcher.compile c.fragments = .error rejection) :
    c.compiles = false := by
  simp only [Candidate.compiles, refused]
  rfl

/-- A candidate that does not compile is refused for the reason that its patterns are. -/
theorem evaluate_of_error (refused : Matcher.compile c.fragments = .error rejection) :
    c.evaluate examples = .error rejection := by
  simp only [Candidate.evaluate, refused]
  rfl

theorem isNone_judge (examples : Examples) (c : Candidate) :
    (c.judge examples).1.isNone = !c.compiles := by
  cases compiled : Matcher.compile c.fragments with
  | ok m => simp [Candidate.judge, compiled, compiles_of_ok compiled]
  | error rejection => simp [Candidate.judge, compiled, compiles_of_error compiled]

/-- Candidate by candidate: one that compiles is the next survivor, and any other leaves no trace. -/
theorem evaluatesTo_survivors (examples : Examples) (population : List Candidate) :
    List.Forall₂ (Candidate.EvaluatesTo examples) (population.filter (·.compiles))
      (evaluateAll examples population).survivors := by
  rw [survivors_eq]
  induction population with
  | nil => exact .nil
  | cons c rest ih =>
    cases compiled : Matcher.compile c.fragments with
    | ok m =>
      have judged : (c.judge examples).1 = some (c.scoredBy m examples) :=
        Candidate.judge_eq_some.mpr ⟨m, compiled, rfl⟩
      have both := List.Forall₂.cons (evaluatesTo_scoredBy compiled) ih
      simpa only [List.filter_cons, List.filterMap_cons, compiles_of_ok compiled, judged, if_true]
        using both
    | error rejection =>
      have refused : (c.judge examples).1 = none := by simp only [Candidate.judge, compiled]
      simpa only [List.filter_cons, List.filterMap_cons, compiles_of_error compiled, refused,
        Bool.false_eq_true, if_false] using ih

end Partition

/-- The survivors are the candidates that compile, in order and evaluated one by one, the failures are
the others, and evaluating two populations together is evaluating each of them. -/
theorem evaluateAll_partition (examples : Examples) :
    (∀ population, let evaluation := evaluateAll examples population
      List.Forall₂ (Candidate.EvaluatesTo examples) (population.filter (·.compiles))
        evaluation.survivors ∧
      evaluation.failures = population.countP (!·.compiles) ∧
      evaluation.survivors.length + evaluation.failures = population.length) ∧
    (∀ c : Candidate, (c.evaluate examples).isOk = c.compiles) ∧
    ∀ before after, let together := evaluateAll examples (before ++ after)
      together.survivors =
        (evaluateAll examples before).survivors ++ (evaluateAll examples after).survivors ∧
      together.failures =
        (evaluateAll examples before).failures + (evaluateAll examples after).failures := by
  refine ⟨?_, ?_, ?_⟩
  · intro population
    refine ⟨evaluatesTo_survivors examples population, ?_, ?_⟩
    · simp only [failures_eq, isNone_judge]
    · exact length_survivors_add_failures examples population
  · intro c
    cases compiled : Matcher.compile c.fragments with
    | ok m =>
      have alone := (@evaluatesTo_scoredBy examples c m compiled).evaluate_eq
      simp [compiles_of_ok compiled, alone c.score c.raw c.whole, Except.isOk, Except.toBool]
    | error rejection =>
      simp [compiles_of_error compiled, evaluate_of_error compiled, Except.isOk, Except.toBool]
  · intro before after
    exact ⟨survivors_append examples before after, failures_append examples before after⟩

end PatternSearch
