import PatternSearch.Proofs.Search.Lineage

/-!
# What a run tells

Scores and patterns are carried along with the candidates, from evaluation through the ranking to the
reports and the outcome. They are those of the fragments all the same: evaluating these again gives
nothing else. The outcome repeats one of the reports, which is told by its candidate.
-/

namespace PatternSearch

/-! ## What is told of a sequence of fragments -/

/-- A score, before rounding and after, and a pattern are what evaluating these fragments gives,
whatever the evaluated candidate has held before. -/
structure Describes (examples : Examples) (fragments : List Fragment) (score : Int) (raw : Binary64)
    (pattern : String) : Prop where
  pattern_eq : pattern = anchored (Fragment.join fragments)
  score_eq : score = raw.roundHalfUp
  evaluate_eq : ∀ fresh : Candidate, fresh.fragments = fragments → ∃ c,
    fresh.evaluate examples = .ok c ∧ c.score = score ∧ c.raw = raw ∧ c.wholeSource = pattern

/-- The outcome of a run says of its best candidate what a report says. -/
structure Report.TellsOf (report : Report) (best : Snapshot) : Prop where
  candidate : report.candidate = best.id
  generation : report.generation = best.generation
  score : report.score = best.score
  raw : report.raw = best.raw
  pattern : report.pattern = best.pattern

theorem Pattern.source_of_compile {source : String} {p : Pattern}
    (h : Pattern.compile source = .ok p) : p.source = source := by
  rw [Pattern.compile] at h
  split at h
  · cases h
  · split at h
    · cases h
      rfl
    · cases h

theorem Matcher.source_of_compile {fragments : List Fragment} {m : Matcher}
    (h : Matcher.compile fragments = .ok m) :
    m.whole.source = anchored (Fragment.join fragments) :=
  Pattern.source_of_compile (compiled_of_compile h).2

theorem Candidate.describes_scoredBy {c : Candidate} {m : Matcher} (examples : Examples)
    (compiled : Matcher.compile c.fragments = .ok m) :
    Describes examples c.fragments (c.scoredBy m examples).score (c.scoredBy m examples).raw
      (c.scoredBy m examples).wholeSource where
  pattern_eq := Matcher.source_of_compile compiled
  score_eq := rfl
  evaluate_eq := by
    intro fresh same
    refine ⟨fresh.scoredBy m examples, ?_, rfl, rfl, rfl⟩
    rw [evaluate, same, compiled]
    rfl

/-- Where numbers increase, none comes again. -/
theorem ne_of_pairwise_lt {α : Type} {number : α → Nat} {before after : List α} {a : α}
    (increasing : ((before ++ a :: after).map number).Pairwise (· < ·)) :
    ∀ b ∈ before ++ after, number b ≠ number a := by
  have distinct := increasing.imp Nat.ne_of_lt
  rw [List.pairwise_map, List.pairwise_middle Ne.symm, List.pairwise_cons] at distinct
  intro b mem
  exact (distinct.1 b mem).symm

namespace Search

variable {search : Search} {n : Nat}

theorem describes_of_mem_scoredAt {g : Nat} {c : Candidate} (mem : c ∈ search.scoredAt g) :
    Describes search.examples c.fragments c.score c.raw c.wholeSource := by
  obtain ⟨d, -, m, compiled, rfl⟩ := mem_survivors.mp mem
  exact d.describes_scoredBy search.examples compiled

/-! ## Reports -/

/-- Each report is made from a candidate of the generation that it names. -/
theorem exists_of_mem_reports (valid : search.settings.defect? = none) (endsAt : search.EndsAt n)
    {report : Report} (mem : report ∈ search.run.reports) :
    ∃ c ∈ search.scoredAt report.generation, report = c.report report.generation := by
  obtain ⟨g, -, told⟩ := List.mem_flatMap.mp ((reports_isPrefix valid endsAt).subset mem)
  obtain ⟨c, scored, rfl⟩ := List.mem_map.mp told
  exact ⟨c, scored, rfl⟩

/-! ## The outcome -/

theorem generations_countedAt (search : Search) (n : Nat) :
    (search.countedAt n).tally.generations = n + 1 := by
  change (search.seed.turns n).generation + 1 = n + 1
  rw [turns_generation, seed_generation, Nat.zero_add]

/-- The best candidate of an outcome is among those told of in the last generation; it is the very
last one if it is perfect. -/
theorem exists_best_of_result (valid : search.settings.defect? = none) (endsAt : search.EndsAt n)
    {outcome : Outcome} (result : search.run.result = .ok outcome) :
    ∃ best ∈ search.scoredAt n, outcome.best = best.snapshot ∧ outcome.tally.generations = n + 1 ∧
      ∃ before after, search.run.reports = before ++ best.report n :: after ∧
        (outcome.ending = .solved → after = []) := by
  cases ends_of_endsAt valid endsAt with
  | unpopulated empty reports result' left => cases result'.symm.trans result
  | unscored populated empty reports result' left => cases result'.symm.trans result
  | won winner found reports result' left =>
    cases result'.symm.trans result
    obtain ⟨before, best, after, split, same, -, -, told⟩ :=
      reports_of_solved valid endsAt result' rfl
    refine ⟨best, ?_, same, search.generations_countedAt n, ?_⟩
    · rw [split]
      exact List.mem_append_right before List.mem_cons_self
    · refine ⟨(List.range n).flatMap search.reportsAt ++ before.map (·.report n), [], ?_, fun _ => rfl⟩
      rw [told, List.map_append, List.append_assoc]
      rfl
  | spent best isOpen top reports result' left =>
    cases result'.symm.trans result
    have scored := (isEarliestBest_of_head? top).mem
    have mem : best.report n ∈ search.run.reports := by
      rw [reports, flatMap_range_succ]
      exact List.mem_append_right _ (List.mem_map_of_mem scored)
    obtain ⟨before, after, split⟩ := List.append_of_mem mem
    refine ⟨best, scored, rfl, search.generations_countedAt n, before, after, split, ?_⟩
    intro solved
    cases solved

theorem generation_of_mem_scoredAt {c : Candidate} (endsAt : search.EndsAt n)
    (countable : search.settings.maxGenerations < UInt64.size) (mem : c ∈ search.scoredAt n) :
    c.generation = n := by
  obtain ⟨d, inner, m, -, rfl⟩ := mem_survivors.mp mem
  have generation : d.generation = n % UInt64.size := generation_of_mem_candidatesAt inner
  rw [Nat.mod_eq_of_lt (endsAt.within.trans countable)] at generation
  exact generation

/-- Reports and outcome describe what was evaluated. The outcome says what exactly one report says,
which is in the last generation, and at the very end if the search is solved. -/
theorem run_tells_evaluations (valid : search.settings.defect? = none)
    (countable : search.settings.maxGenerations < UInt64.size) :
    (∀ report ∈ search.run.reports, ∃ c ∈ search.candidatesAt report.generation,
      report.candidate = c.id ∧
      Describes search.examples c.fragments report.score report.raw report.pattern) ∧
    ∀ outcome, search.run.result = .ok outcome →
      Describes search.examples outcome.best.fragments outcome.best.score outcome.best.raw
        outcome.best.pattern ∧
      ∃ before report after, search.run.reports = before ++ report :: after ∧
        report.TellsOf outcome.best ∧
        (∀ other ∈ before ++ after, other.candidate ≠ outcome.best.id) ∧
        (outcome.ending = .solved → after = []) ∧
        report.generation + 1 = outcome.tally.generations := by
  obtain ⟨n, endsAt⟩ := exists_endsAt valid
  constructor
  · intro report mem
    obtain ⟨c, scored, same⟩ := exists_of_mem_reports valid endsAt mem
    obtain ⟨d, inner, m, -, rfl⟩ := mem_survivors.mp scored
    rw [same]
    exact ⟨d, inner, rfl, describes_of_mem_scoredAt scored⟩
  · intro outcome result
    obtain ⟨best, scored, same, generations, before, after, split, last⟩ :=
      exists_best_of_result valid endsAt result
    have increasing := pairwise_reports valid endsAt
    rw [split] at increasing
    rw [same, generations]
    refine ⟨describes_of_mem_scoredAt scored, before, best.report n, after, split, ?_,
      ne_of_pairwise_lt increasing, last, rfl⟩
    exact ⟨rfl, (generation_of_mem_scoredAt endsAt countable scored).symm, rfl, rfl, rfl⟩

/-- Two thirds of a text are matched. That is enough for one positive example, and not for two. -/
theorem run_tells_two_thirds :
    let solved : Search :=
      { settings := { seeds := [⟨"ab"⟩], maxGenerations := 1 }, examples := ⟨["abc"], []⟩ }
    let spent : Search := { solved with examples := ⟨["xyz", "abc"], []⟩ }
    let share := Binary64.ofNat 2 / Binary64.ofNat 3
    (∃ outcome, solved.run.result = .ok outcome ∧ outcome.ending = .solved ∧
      ∃ before report, solved.run.reports = before ++ [report] ∧ report.TellsOf outcome.best ∧
        Describes solved.examples [⟨"ab"⟩] 1 share "^ab$") ∧
    ∃ outcome, spent.run.result = .ok outcome ∧ outcome.ending = .timedOut ∧
      ∃ before report after, spent.run.reports = before ++ report :: after ∧
        report.TellsOf outcome.best ∧ Describes spent.examples [⟨"ab"⟩] 1 share "^ab$" := by
  intro solved spent share
  have won : solved.run.result = .ok
      ⟨.solved, ⟨0, 0, none, [⟨"ab"⟩], 1, share, "^ab$"⟩, ⟨1, 2, 0, .zero⟩⟩ := by decide +kernel
  have late : spent.run.result = .ok
      ⟨.timedOut, ⟨0, 0, none, [⟨"ab"⟩], 1, share, "^ab$"⟩, ⟨1, 2, 0, .zero⟩⟩ := by
    change (spent.seed.proceed 0).result = _
    rw [proceed.eq_def]
    simp only [ranked_eq_foldr]
    decide +kernel
  obtain ⟨-, first⟩ := @run_tells_evaluations solved (by decide) (by decide)
  obtain ⟨-, second⟩ := @run_tells_evaluations spent (by decide) (by decide)
  obtain ⟨whole, before, report, after, split, tells, -, last, -⟩ := first _ won
  obtain ⟨whole', before', report', after', split', tells', -, -, -⟩ := second _ late
  obtain rfl := last rfl
  exact ⟨⟨_, won, rfl, before, report, split, tells, whole⟩,
    ⟨_, late, rfl, before', report', after', split', tells', whole'⟩⟩

end Search

end PatternSearch
