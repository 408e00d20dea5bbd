import PatternSearch.Breeding
import PatternSearch.Ranking
import PatternSearch.Report
import PatternSearch.Score
/-! # The search

A search goes through generations. The candidates of a generation are evaluated; the best of them
are kept and bred, and their children are the next generation. It ends with the first candidate that
has the perfect score, or when the generations are used up with the best candidate of the last
one. -/
namespace PatternSearch

/-- Ends of a search without a result. -/
inductive Failure where
  | badSettings (defect : Defect)
  | noCandidates (generation : Nat)
  | allInvalid (generation failures : Nat)
  deriving DecidableEq

def Failure.message : Failure → String
  | badSettings defect => s!"Invalid search configuration: {defect.message}"
  | noCandidates generation => s!"Generation {generation} has no candidates to evaluate"
  | allInvalid generation failures =>
    s!"All {failures} candidates of generation {generation} failed to compile"

/-- The state of a search. -/
structure Search where
  settings : Settings
  examples : Examples
  /-- The candidates to evaluate next. -/
  population : List Candidate := []
  generation : Nat := 0
  nextId : Nat := 0
  tally : Tally := {}
  deriving DecidableEq

/-- A run of a search: what it tells, how it ends, and the state it leaves. -/
structure Run where
  reports : List Report
  events : List Event
  result : Except Failure Outcome
  search : Search

namespace Run

/-- The run with what happened before it. -/
def after (reports : List Report) (events : List Event) (run : Run) : Run :=
  { run with reports := reports ++ run.reports, events := events ++ run.events }

end Run

namespace Search

/-- The first generation: a candidate for every selection from the seeds. -/
def seed (search : Search) : Search :=
  let population := (selections search.settings.seeds).zipIdx.map fun (fragments, id) =>
    ({ id, fragments, generation := 0 } : Candidate)
  { search with population, generation := 0, nextId := population.length, tally := {} }

/-- Breeds the best of the scored candidates: the search with its identifiers used up, and the
children in order. -/
def breed (search : Search) (scored : List Candidate) : Search × List Candidate × Event :=
  let survivors := selected scored search.settings.keep
  let bred := survivors.flatMap fun parent =>
    (search.settings.breeding.children parent.fragments).map fun fragments => (parent, fragments)
  let children := (bred.zipIdx search.nextId).map fun ((parent, fragments), id) =>
    parent.child id fragments
  ({ search with nextId := search.nextId + children.length }, children,
    .promoted survivors.length children.length)

/-- The candidates up to the first one with the given score, and that one. -/
def cut (perfect : Int) : List Candidate → List Candidate × Option Candidate
  | [] => ([], none)
  | c :: rest =>
    if c.score = perfect then ([c], some c)
    else
      let (told, winner) := cut perfect rest
      (c :: told, winner)

/-- The search with an evaluation counted and its candidates gone. -/
def count (search : Search) (evaluation : Evaluation) : Search :=
  { search with
    population := []
    tally := { search.tally with
      generations := search.generation + 1
      evaluations := search.tally.evaluations + evaluation.survivors.length
      failures := search.tally.failures + evaluation.failures } }

/-- The end of a run with a result. -/
def stop (search : Search) (ending : Ending) (best : Candidate) : Run :=
  { reports := []
    events := [.stopped ending search.tally.generations best.wholeSource]
    result := .ok ⟨ending, best.snapshot, search.tally⟩
    search }

/-- The end of a run without a result. -/
def fail (search : Search) (failure : Failure) : Run :=
  { reports := [], events := [], result := .error failure, search }

/-- The event that sums up a generation. -/
def summary (search : Search) (scored : List Candidate) : List Event :=
  (best? scored).toList.map fun best =>
    .summary search.generation scored.length best.score search.examples.goal best.wholeSource

/-- The search at its next generation, and the event of getting there. -/
def next (search : Search) (scored : List Candidate) : Search × Event :=
  let (search, children, event) := search.breed scored
  ({ search with population := children, generation := search.generation + 1 }, event)

/-- Evaluates the current generation and at most `more` generations after it. -/
def proceed (search : Search) (more : Nat) : Run :=
  let generation := search.generation
  if search.population.isEmpty then search.fail (.noCandidates generation)
  else
    let evaluation := evaluateAll search.examples search.population
    let search := search.count evaluation
    let scored := evaluation.survivors
    if scored.isEmpty then
      (search.fail (.allInvalid generation evaluation.failures)).after [] evaluation.events
    else
      let (told, winner) := cut search.examples.goal scored
      let reports := told.map (·.report generation)
      let events := evaluation.events ++ told.map fun c => .scored c.score c.wholeSource
      match winner with
      | some best => (search.stop .solved best).after reports events
      | none =>
        let events := events ++ search.summary scored
        match more with
        | 0 =>
          match (ranked scored).head? with
          | some best => (search.stop .timedOut best).after reports events
          | none => (search.fail (.noCandidates generation)).after reports events
        | more + 1 =>
          let (search, event) := search.next scored
          (search.proceed more).after reports (events ++ [event])

/-- Runs a search from its first generation, whatever it did before. -/
def run (search : Search) : Run :=
  match search.settings.defect? with
  | some defect => search.fail (.badSettings defect)
  | none => search.seed.proceed (search.settings.maxGenerations - 1)

end Search

end PatternSearch
