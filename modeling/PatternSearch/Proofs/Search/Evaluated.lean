import PatternSearch.Proofs.Search.Turns

/-!
# Evaluated populations

Evaluation keeps the candidates whose patterns are accepted, in order, and counts the others.
-/

namespace PatternSearch

theorem Candidate.judge_eq_some {c d : Candidate} {examples : Examples} :
    (d.judge examples).1 = some c ↔
      ∃ m, Matcher.compile d.fragments = .ok m ∧ c = d.scoredBy m examples := by
  rw [Candidate.judge]
  cases h : Matcher.compile d.fragments with
  | error rejection => simp
  | ok m => simp [eq_comm]

theorem survivors_eq (examples : Examples) (population : List Candidate) :
    (evaluateAll examples population).survivors =
      population.filterMap fun c => (c.judge examples).1 := by
  simp [evaluateAll, List.filterMap_map, Function.comp_def]

theorem failures_eq (examples : Examples) (population : List Candidate) :
    (evaluateAll examples population).failures =
      population.countP fun c => (c.judge examples).1.isNone := by
  simp [evaluateAll, List.countP_map, Function.comp_def]

theorem survivors_append (examples : Examples) (before after : List Candidate) :
    (evaluateAll examples (before ++ after)).survivors =
      (evaluateAll examples before).survivors ++ (evaluateAll examples after).survivors := by
  simp only [survivors_eq, List.filterMap_append]

theorem failures_append (examples : Examples) (before after : List Candidate) :
    (evaluateAll examples (before ++ after)).failures =
      (evaluateAll examples before).failures + (evaluateAll examples after).failures := by
  simp only [failures_eq, List.countP_append]

/-- The survivors are the candidates of the population that compile, with their scores. -/
theorem mem_survivors {c : Candidate} {examples : Examples} {population : List Candidate} :
    c ∈ (evaluateAll examples population).survivors ↔ ∃ d ∈ population, ∃ m,
      Matcher.compile d.fragments = .ok m ∧ c = d.scoredBy m examples := by
  simp only [survivors_eq, List.mem_filterMap, Candidate.judge_eq_some]

/-- Every candidate either survives or counts as a failure. -/
theorem length_survivors_add_failures (examples : Examples) (population : List Candidate) :
    (evaluateAll examples population).survivors.length +
      (evaluateAll examples population).failures = population.length := by
  rw [survivors_eq, failures_eq]
  induction population with
  | nil => rfl
  | cons c rest ih =>
    cases h : (c.judge examples).1 with
    | none =>
      simp only [List.filterMap_cons, List.countP_cons, List.length_cons, h, Option.isNone_none,
        if_true]
      omega
    | some d =>
      simp only [List.filterMap_cons, List.countP_cons, List.length_cons, h, Option.isNone_some,
        Bool.false_eq_true, if_false]
      omega

namespace Search

variable (search : Search)

@[simp] theorem turn_settings : search.turn.settings = search.settings := rfl

@[simp] theorem turn_examples : search.turn.examples = search.examples := rfl

@[simp] theorem turn_generation : search.turn.generation = search.generation + 1 := rfl

@[simp] theorem seed_settings : search.seed.settings = search.settings := rfl

@[simp] theorem seed_examples : search.seed.examples = search.examples := rfl

@[simp] theorem seed_generation : search.seed.generation = 0 := rfl

@[simp] theorem turns_settings (n : Nat) : (search.turns n).settings = search.settings := by
  induction n with
  | zero => rfl
  | succ n ih => exact ih

@[simp] theorem turns_examples (n : Nat) : (search.turns n).examples = search.examples := by
  induction n with
  | zero => rfl
  | succ n ih => exact ih

@[simp] theorem turns_generation (n : Nat) :
    (search.turns n).generation = search.generation + n := by
  induction n with
  | zero => rfl
  | succ n ih => rw [turns, turn_generation, ih, Nat.add_assoc]

/-- A run comes to a last generation: all before it are open, and it is not, or the budget ends. -/
theorem exists_last (more : Nat) : ∃ n ≤ more, (∀ i < n, (search.turns i).IsOpen) ∧
    (n = more ∨ ¬(search.turns n).IsOpen) := by
  induction more with
  | zero => exact ⟨0, Nat.le_refl 0, fun i hi => absurd hi (Nat.not_lt_zero i), Or.inl rfl⟩
  | succ more ih =>
    obtain ⟨n, le, before, last⟩ := ih
    by_cases open' : (search.turns n).IsOpen
    · refine ⟨n + 1, ?_, ?_, ?_⟩
      · omega
      · intro i hi
        rcases Nat.lt_succ_iff_lt_or_eq.mp hi with less | rfl
        · exact before i less
        · exact open'
      · rcases last with rfl | closed
        · exact Or.inl rfl
        · exact absurd open' closed
    · exact ⟨n, by omega, before, Or.inr open'⟩

/-- The winner is a candidate of its generation, scored as perfect. -/
theorem of_winner {search : Search} {best : Candidate} (h : search.winner? = some best) :
    ∃ d ∈ search.population, ∃ m, Matcher.compile d.fragments = .ok m ∧
      best = d.scoredBy m search.examples ∧ (m.score search.examples).roundHalfUp =
        search.examples.goal := by
  obtain ⟨d, mem, m, compiled, rfl⟩ := mem_survivors.mp (List.mem_of_find?_eq_some h)
  refine ⟨d, mem, m, compiled, rfl, ?_⟩
  have perfect : search.isPerfect (d.scoredBy m search.examples) = true := List.find?_some h
  exact of_decide_eq_true perfect

end Search

end PatternSearch
