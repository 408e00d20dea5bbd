import Mathlib.Data.List.Basic
import PatternSearch.Proofs.Search.Bounds
import PatternSearch.Proofs.Search.Reports

/-!
# The log of a run

A run writes one record for each event. The records come generation by generation: what evaluating each
candidate comes to, then each report, then the summary of an open generation, and the promotion to the
next one. A run with an outcome has one record more, at its very end. So the warnings of a run count the
candidates that are dropped, and the negative examples that are told of a candidate are those that it
loses a point for.

The records that are expected are written out here, level and text, independently of the events.
-/

namespace PatternSearch

/-! ## Records -/

/-- What is written of an event: its level, the part of the program that it belongs to, and its text. -/
structure Record where
  level : Level
  target : String
  text : String
  deriving DecidableEq

/-- A record about a candidate that is evaluated. -/
def Record.fitness (level : Level) (text : String) : Record :=
  ⟨level, "regex_synth::search::fitness", text⟩

/-- A record about the course of a search. -/
def Record.engine (level : Level) (text : String) : Record :=
  ⟨level, "regex_synth::search::engine", text⟩

def Record.isWarning (record : Record) : Bool := record.level == .warn

/-- The record of an event, given the words for refused patterns. -/
def Event.record (words : Wording) (event : Event) : Record :=
  ⟨event.level, event.target, event.message words⟩

/-- What a run writes. -/
def Run.records (words : Wording) (run : Run) : List Record := run.events.map (·.record words)

/-! ## Evaluation -/

/-- What is told of a candidate when it is evaluated: that it is dropped, or each negative example that
its pattern matches. -/
def Candidate.judgement (c : Candidate) (words : Wording) (examples : Examples) : List Record :=
  match Matcher.compile c.fragments with
  | .error rejection =>
    let cause := words (Matcher.refused c.fragments) rejection
    [.fitness .warn s!"Dropping candidate ^{c.body}$: {cause}"]
  | .ok m =>
    (examples.negative.filter m.whole.isMatch).map fun text =>
      .fitness .debug s!"Matched failure ^{c.body}$ on {Text.quoted text}"

section Evaluation

theorem text_dropped (body cause : String) :
    s!"Dropping candidate {anchored body}: {cause}" = s!"Dropping candidate ^{body}$: {cause}" := by
  rw [String.ext_iff]
  simp [toString, anchored]

theorem text_matchedFailure (body text : String) :
    s!"Matched failure {anchored body} on {text}" = s!"Matched failure ^{body}$ on {text}" := by
  rw [String.ext_iff]
  simp [toString, anchored]

variable (words : Wording) (examples : Examples)

theorem judge_eq_judgement {c : Candidate} (fresh : c.whole = none) :
    (c.judge examples).2.map (·.record words) = c.judgement words examples := by
  rw [Candidate.judge, Candidate.judgement]
  cases compiled : Matcher.compile c.fragments with
  | error rejection =>
    have source : c.wholeSource = anchored c.body := by rw [Candidate.wholeSource, fresh]
    rw [source]
    exact congrArg (fun text => [Record.fitness .warn text]) (text_dropped _ _)
  | ok m =>
    simp only [Matcher.failures, Matcher.source_of_compile compiled, List.map_map]
    exact List.map_congr_left fun text _ =>
      congrArg (Record.fitness .debug) (text_matchedFailure _ _)

theorem records_evaluateAll {population : List Candidate} (fresh : ∀ c ∈ population, c.whole = none) :
    (evaluateAll examples population).events.map (·.record words) =
      population.flatMap (·.judgement words examples) := by
  simp only [evaluateAll, List.flatMap_map, List.map_flatMap]
  exact List.flatMap_congr fun c mem => judge_eq_judgement words examples (fresh c mem)

/-- The warnings count the candidates that are dropped. -/
theorem countP_judgement (population : List Candidate) :
    (population.flatMap (·.judgement words examples)).countP Record.isWarning =
      (evaluateAll examples population).failures := by
  rw [failures_eq]
  induction population with
  | nil => rfl
  | cons c rest ih =>
    rw [List.flatMap_cons, List.countP_append, ih, List.countP_cons, Nat.add_comm]
    congr 1
    rw [Candidate.judgement, Candidate.judge]
    cases Matcher.compile c.fragments with
    | error rejection => rfl
    | ok m => simp [List.countP_map, Record.isWarning, Record.fitness, Function.comp_def]

/-- The part of the score that negative examples take away is the number of those that are told. Sums of
ones are exact up to two to the fifty-third, and stay there. -/
theorem toRat_penalties {c : Candidate} {m : Matcher} (compiled : Matcher.compile c.fragments = .ok m) :
    (m.penalties examples).isFinite = true ∧
      (m.penalties examples).toRat = -(min (c.judgement words examples).length (2 ^ 53) : Nat) := by
  have told : (c.judgement words examples).length = m.mistakes examples := by
    rw [Candidate.judgement, compiled]
    simp [List.countP_eq_length_filter, Matcher.mistakes]
  rw [told]
  exact ⟨(m.value_penalties examples).1, m.toRat_penalties⟩

end Evaluation

/-! ## Turns -/

def Report.record (report : Report) : Record := .engine .debug s!"{report.score} {report.pattern}"

/-- The record at the end of a run that has an outcome. -/
def Run.closing (run : Run) : List Record :=
  match run.result with
  | .ok outcome =>
    let ending := if outcome.ending = .solved then "Solved" else "TimedOut"
    let pattern := outcome.best.pattern
    [.engine .info
      s!"Search stopped ({ending}) after {outcome.tally.generations} generations: {pattern}"]
  | .error _ => []

theorem Run.records_after (words : Wording) (reports : List Report) (events : List Event) (run : Run) :
    (run.after reports events).records words = events.map (·.record words) ++ run.records words :=
  List.map_append

theorem Run.closing_after (reports : List Report) (events : List Event) (run : Run) :
    (run.after reports events).closing = run.closing := rfl

namespace Search

variable (words : Wording)

theorem records_tellings (search : Search) (told : List Candidate) :
    (search.tellings told).map (·.record words) = search.evaluation.events.map (·.record words) ++
      (told.map (·.report search.generation)).map Report.record := by
  rw [tellings, List.map_append, List.map_map, List.map_map]
  rfl

instance (search : Search) : Decidable search.IsOpen := inferInstanceAs (Decidable (_ ∧ _))

/-- The summary of the generation, if it is open. -/
def summaryIfOpen (search : Search) : List Event :=
  if search.IsOpen then search.summary search.scored else []

theorem records_log {search : Search} (isOpen : search.IsOpen) :
    search.log.map (·.record words) = search.evaluation.events.map (·.record words) ++
      search.reports.map Report.record ++ search.summaryIfOpen.map (·.record words) := by
  rw [log, List.map_append, records_tellings, summaryIfOpen, if_pos isOpen]
  rfl

theorem stop_reports (search : Search) (ending : Ending) (best : Candidate) :
    (search.stop ending best).reports = [] := rfl

theorem records_stop (search : Search) (ending : Ending) (best : Candidate) :
    (search.stop ending best).records words = (search.stop ending best).closing := by
  cases ending <;> rfl

/-- What the last turn writes. -/
theorem records_proceed_zero (search : Search) : (search.proceed 0).records words =
    search.evaluation.events.map (·.record words) ++ (search.proceed 0).reports.map Report.record ++
      search.summaryIfOpen.map (·.record words) ++ (search.proceed 0).closing := by
  cases search.lastTurn with
  | unpopulated empty run =>
    have unscored : ¬search.IsOpen := fun isOpen => population_ne_nil isOpen.1 empty
    rw [run, summaryIfOpen, if_neg unscored, evaluation, empty]
    rfl
  | unscored populated empty run =>
    have unscored : ¬search.IsOpen := fun isOpen => isOpen.1 empty
    rw [run, summaryIfOpen, if_neg unscored]
    simp [Run.records, Run.after, fail, Run.closing]
  | won best winner run =>
    have closed : ¬search.IsOpen := by
      rintro ⟨-, none⟩
      cases none.symm.trans winner
    rw [run, summaryIfOpen, if_neg closed, List.map_nil, List.append_nil, Run.records_after,
      Run.closing_after, Run.after_reports, stop_reports, List.append_nil, records_stop,
      records_tellings]
  | spent best isOpen top run =>
    rw [run, Run.records_after, Run.closing_after, Run.after_reports, stop_reports, List.append_nil,
      records_stop, records_log words isOpen]

/-! ## Generations -/

variable (search : Search) (words : Wording)

/-- The reports that the run makes of a generation. -/
def reportsOf (g : Nat) : List Report := search.run.reports.filter (·.generation = g)

/-- The summary of a generation names its earliest best candidate. There is none if the generation
fails or has a perfect candidate. -/
def summaryAt (g : Nat) : List Record :=
  if search.OpenAt g then
    let scored := search.scoredAt g
    let goal := search.examples.goal
    (best? scored).toList.map fun best => .engine .info
      s!"Generation {g}: {scored.length} candidates, best score {best.score}/{goal} ({best.wholeSource})"
  else []

def promotionAt (g : Nat) : Record :=
  let survivors := min search.settings.keep (search.scoredAt g).length
  let children := (search.candidatesAt (g + 1)).length
  .engine .debug s!"Promoted {survivors} survivors into {children} candidates"

/-- The records of a generation, given the last one of the run. -/
def recordsAt (last g : Nat) : List Record :=
  (search.candidatesAt g).flatMap (·.judgement words search.examples) ++
    (search.reportsOf g).map Report.record ++ search.summaryAt g ++
    if g < last then [search.promotionAt g] else []

variable {search} {n g : Nat}

theorem whole_of_mem_candidatesAt {c : Candidate} (mem : c ∈ search.candidatesAt g) :
    c.whole = none := by
  cases g with
  | zero =>
    obtain ⟨numbered, -, rfl⟩ := List.mem_map.mp mem
    rfl
  | succ g =>
    obtain ⟨parent, -, -, -, same⟩ := exists_parent_of_mem_breed (search.candidatesAt_succ g ▸ mem)
    rw [same]
    rfl

theorem records_evaluation_turns (search : Search) (g : Nat) :
    (search.seed.turns g).evaluation.events.map (·.record words) =
      (search.candidatesAt g).flatMap (·.judgement words search.examples) := by
  rw [evaluation_turns]
  exact records_evaluateAll words search.examples fun c mem => whole_of_mem_candidatesAt mem

theorem records_summaryIfOpen_turns (search : Search) (g : Nat) :
    (search.seed.turns g).summaryIfOpen.map (·.record words) = search.summaryAt g := by
  simp only [summaryIfOpen, summaryAt, summary, isOpen_turns, scored_turns, turns_generation,
    turns_examples, seed_generation, seed_examples, Nat.zero_add]
  split
  · rw [List.map_map]
    rfl
  · rfl

theorem record_promotion_turns (search : Search) (g : Nat) :
    (search.seed.turns g).promotion.record words = search.promotionAt g := by
  have next : (search.seed.turns g).turn.population = search.candidatesAt (g + 1) :=
    (search.frontier_turns (g + 1)).1
  have kept : (selected (search.seed.turns g).scored (search.seed.turns g).settings.keep).length =
      min search.settings.keep (search.scoredAt g).length := by
    simp [selected, ranked, scored_turns]
  rw [promotionAt, ← next, ← kept]
  rfl

theorem records_log_turns (isOpen : search.OpenAt g) : (search.seed.turns g).log.map (·.record words) =
    (search.candidatesAt g).flatMap (·.judgement words search.examples) ++
      (search.reportsAt g).map Report.record ++ search.summaryAt g := by
  rw [records_log words ((search.isOpen_turns g).mpr isOpen), records_evaluation_turns, reports_turns,
    records_summaryIfOpen_turns]

/-! ## Reports, generation by generation -/

theorem filter_reportsAt (search : Search) (h : Nat) : (search.reportsAt h).filter (·.generation = g) =
    if h = g then search.reportsAt h else [] := by
  have same : ∀ report ∈ search.reportsAt h, report.generation = h := by
    intro report mem
    obtain ⟨c, -, rfl⟩ := List.mem_map.mp mem
    rfl
  split
  · next here => simpa [here] using same
  · next other => simpa using fun report mem => (same report mem).trans_ne other

theorem filter_flatMap_reportsAt (search : Search) (n g : Nat) :
    ((List.range n).flatMap search.reportsAt).filter (·.generation = g) =
      if g < n then search.reportsAt g else [] := by
  induction n with
  | zero => rfl
  | succ n ih =>
    rw [flatMap_range_succ, List.filter_append, ih, filter_reportsAt]
    rcases Nat.lt_trichotomy g n with less | rfl | more
    · simp [less, less.ne', Nat.lt_succ_of_lt less]
    · simp
    · simp [more.ne, Nat.not_lt.mpr more.le, Nat.not_lt.mpr more]

/-- The run reports all the scored candidates of a generation before the last one, and in the last one
those that the last turn tells. -/
theorem reportsOf_eq (valid : search.settings.defect? = none) (endsAt : search.EndsAt n) :
    (∀ g < n, search.reportsOf g = search.reportsAt g) ∧
      search.reportsOf n = ((search.seed.turns n).proceed 0).reports := by
  have told : search.run.reports = (List.range n).flatMap search.reportsAt ++
      ((search.seed.turns n).proceed 0).reports := by
    rw [run_eq_after_lastTurn valid endsAt, Run.after_reports]
  have late : ∀ report ∈ ((search.seed.turns n).proceed 0).reports, report.generation = n := by
    have all := reports_isPrefix valid endsAt
    rw [told, flatMap_range_succ, List.prefix_append_right_inj] at all
    intro report mem
    obtain ⟨c, -, rfl⟩ := List.mem_map.mp (all.subset mem)
    rfl
  constructor
  · intro g less
    have none : ((search.seed.turns n).proceed 0).reports.filter (·.generation = g) = [] := by
      simpa using fun report mem => (late report mem).trans_ne less.ne'
    rw [reportsOf, told, List.filter_append, none, List.append_nil, filter_flatMap_reportsAt,
      if_pos less]
  · rw [reportsOf, told, List.filter_append, filter_flatMap_reportsAt, if_neg (Nat.lt_irrefl n),
      List.nil_append]
    simpa using late

/-- Every report is one of some generation, in order. -/
theorem flatMap_reportsOf (valid : search.settings.defect? = none) (endsAt : search.EndsAt n) :
    (List.range (n + 1)).flatMap search.reportsOf = search.run.reports := by
  obtain ⟨earlier, last⟩ := reportsOf_eq valid endsAt
  have before : (List.range n).flatMap search.reportsOf = (List.range n).flatMap search.reportsAt :=
    List.flatMap_congr fun g mem => earlier g (List.mem_range.mp mem)
  rw [flatMap_range_succ, before, last, run_eq_after_lastTurn valid endsAt, Run.after_reports]

theorem records_run (valid : search.settings.defect? = none) (endsAt : search.EndsAt n) :
    search.run.records words =
      (List.range (n + 1)).flatMap (search.recordsAt words n) ++ search.run.closing := by
  have run := run_eq_after_lastTurn valid endsAt
  obtain ⟨earlier, last⟩ := reportsOf_eq valid endsAt
  have before : (search.logBefore n).map (·.record words) =
      (List.range n).flatMap (search.recordsAt words n) := by
    rw [logBefore, List.map_flatMap]
    refine List.flatMap_congr fun g mem => ?_
    have less := List.mem_range.mp mem
    rw [List.map_append, records_log_turns words (endsAt.before g less), List.map_singleton,
      record_promotion_turns, recordsAt, earlier g less, if_pos less]
  have closing : search.run.closing = ((search.seed.turns n).proceed 0).closing := by
    rw [run, Run.closing_after]
  calc search.run.records words
      = (search.logBefore n).map (·.record words) ++
          ((search.seed.turns n).proceed 0).records words := by
        rw [run, Run.records_after]
    _ = (List.range n).flatMap (search.recordsAt words n) ++
          (search.recordsAt words n n ++ search.run.closing) := by
        rw [before, records_proceed_zero, records_evaluation_turns, records_summaryIfOpen_turns,
          ← last, closing, recordsAt, if_neg (Nat.lt_irrefl n), List.append_nil]
    _ = _ := by rw [flatMap_range_succ, List.append_assoc]

/-! ## Warnings -/

theorem countP_recordsAt (search : Search) (last g : Nat) :
    (search.recordsAt words last g).countP Record.isWarning =
      (evaluateAll search.examples (search.candidatesAt g)).failures := by
  have reports : ((search.reportsOf g).map Report.record).countP Record.isWarning = 0 := by
    simp [List.countP_map, Function.comp_def, Report.record, Record.engine, Record.isWarning]
  have summary : (search.summaryAt g).countP Record.isWarning = 0 := by
    rw [summaryAt]
    split
    · simp [List.countP_map, Function.comp_def, Record.engine, Record.isWarning]
    · rfl
  have promotion : (if g < last then [search.promotionAt g] else []).countP Record.isWarning = 0 := by
    split <;> rfl
  rw [recordsAt, List.countP_append, List.countP_append, List.countP_append, countP_judgement, reports,
    summary, promotion]
  rfl

theorem countP_flatMap_recordsAt (search : Search) (last n : Nat) :
    ((List.range n).flatMap (search.recordsAt words last)).countP Record.isWarning =
      (evaluateAll search.examples (search.candidatesBefore n)).failures := by
  induction n with
  | zero => rfl
  | succ n ih =>
    rw [flatMap_range_succ, List.countP_append, ih, countP_recordsAt, candidatesBefore_succ,
      failures_append]

theorem countP_closing (run : Run) : run.closing.countP Record.isWarning = 0 := by
  rw [Run.closing]
  split <;> rfl

/-- The records of a run with valid settings, level and text, generation by generation. Its warnings are
as many as the candidates whose patterns it could not compile, and each tells why. A candidate loses as
many points as negative examples are told of it. -/
theorem log_of_run (valid : search.settings.defect? = none) (words : Wording) :
    ∃ n, search.EndsAt n ∧
      search.run.records words =
        (List.range (n + 1)).flatMap (search.recordsAt words n) ++ search.run.closing ∧
      (List.range (n + 1)).flatMap search.reportsOf = search.run.reports ∧
      (search.run.records words).countP Record.isWarning = search.run.search.tally.failures ∧
      (∀ outcome, search.run.result = .ok outcome → outcome.tally = search.run.search.tally) ∧
      ∀ g, ∀ c ∈ search.candidatesAt g,
        (∀ rejection, Matcher.compile c.fragments = .error rejection →
          Pattern.compile (Matcher.refused c.fragments) = .error rejection) ∧
        ∀ m, Matcher.compile c.fragments = .ok m →
          c.scoredBy m search.examples ∈ search.scoredAt g ∧
          (c.scoredBy m search.examples).raw =
            m.credits search.examples + m.penalties search.examples ∧
          (m.penalties search.examples).isFinite = true ∧
          (m.penalties search.examples).toRat =
            -(min (c.judgement words search.examples).length (2 ^ 53) : Nat) := by
  obtain ⟨n, endsAt⟩ := exists_endsAt valid
  have records := records_run words valid endsAt
  refine ⟨n, endsAt, records, flatMap_reportsOf valid endsAt, ?_, fun outcome => tally_of_result, ?_⟩
  · rw [records, List.countP_append, countP_closing, countP_flatMap_recordsAt, Nat.add_zero,
      (left_of_endsAt valid endsAt).2.2.failures]
  · intro g c mem
    refine ⟨fun rejection => Matcher.compile_refused, fun m compiled => ?_⟩
    exact ⟨mem_survivors.mpr ⟨c, mem, m, compiled, rfl⟩, rfl,
      toRat_penalties words search.examples compiled⟩

/-- The whole log of a run. Two patterns with an open group are dropped, and the digit alone loses a
point. -/
theorem log_of_letter_after_digit :
    let search : Search :=
      { settings := { seeds := [⟨"[0-9]"⟩, ⟨"("⟩], extensions := [⟨"[a-z]"⟩], maxGenerations := 3 }
        examples := ⟨["1x", "2y"], ["1", "x"]⟩ }
    let words : Wording := fun pattern _ => "regex parse error:\n    " ++ pattern ++ "\n    " ++
      String.ofList (List.replicate (pattern.length - 1) ' ') ++ "^\nerror: unclosed group"
    let digit : Candidate := { id := 2, fragments := [⟨"[0-9]"⟩], generation := 0 }
    search.settings.defect? = none ∧
    (∃ n, search.EndsAt n ∧
      (List.range (n + 1)).flatMap (search.recordsAt words n) ++ search.run.closing =
        [.fitness .warn ("Dropping candidate ^[0-9]($: regex parse error:\n    [0-9](\n         ^\n" ++
          "error: unclosed group"),
        .fitness .warn
          "Dropping candidate ^($: regex parse error:\n    (\n    ^\nerror: unclosed group",
        .fitness .debug "Matched failure ^[0-9]$ on \"1\"",
        .engine .debug "0 ^[0-9]$",
        .engine .debug "0 ^$",
        .engine .info "Generation 0: 2 candidates, best score 0/2 (^[0-9]$)",
        .engine .debug "Promoted 2 survivors into 2 candidates",
        .fitness .debug "Matched failure ^[a-z]$ on \"x\"",
        .engine .debug "2 ^[0-9][a-z]$",
        .engine .info "Search stopped (Solved) after 2 generations: ^[0-9][a-z]$"]) ∧
    (search.run.records words).countP Record.isWarning = 2 ∧ digit ∈ search.candidatesAt 0 ∧
    digit.judgement words search.examples = [.fitness .debug "Matched failure ^[0-9]$ on \"1\""] ∧
    ∃ m, Matcher.compile digit.fragments = .ok m ∧ (m.penalties search.examples).toRat = -1 := by
  intro search words digit
  have valid : search.settings.defect? = none := by decide
  have first : search.OpenAt 0 := by decide +kernel
  have before : ∀ i < 1, search.OpenAt i := by
    intro i less
    obtain rfl : i = 0 := by omega
    exact first
  have run := @run_eq_after search 1 1 valid rfl before
  have failures : search.run.search.tally.failures = 2 := by
    rw [run, Run.after_search]
    simp only [turns, turn, next, breed, selected, ranked_eq_foldr]
    decide +kernel
  have member : digit ∈ search.candidatesAt 0 := by decide +kernel
  have told : digit.judgement words search.examples =
      [.fitness .debug "Matched failure ^[0-9]$ on \"1\""] := by decide +kernel
  have compiles : (Matcher.compile digit.fragments).isOk = true := by decide +kernel
  obtain ⟨n, endsAt, records, -, warnings, -, candidates⟩ := log_of_run valid words
  rw [failures] at warnings
  cases compiled : Matcher.compile digit.fragments with
  | error rejection =>
    rw [compiled] at compiles
    cases compiles
  | ok m =>
    obtain ⟨-, points⟩ := candidates 0 digit member
    obtain ⟨-, -, -, lost⟩ := points m compiled
    rw [told] at lost
    refine ⟨valid, ⟨n, endsAt, ?_⟩, warnings, member, told, m, rfl, lost⟩
    rw [← records, run, Run.records_after, logBefore]
    simp only [promotion, turns, turn, next, breed, selected, ranked_eq_foldr]
    decide +kernel

end Search

end PatternSearch
