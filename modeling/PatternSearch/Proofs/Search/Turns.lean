import PatternSearch.Search

/-!
# Turns of the search

A run is a loop. A turn evaluates the current generation and breeds the next one, and the run goes on
with it if some candidate was scored, none of them is perfect and a generation is left. Each of the
four ways to end is one equation for `proceed`, and so is going on.
-/

namespace PatternSearch

/-- The members up to the first one with a property, that one included. -/
def upTo {α : Type} (p : α → Bool) : List α → List α
  | [] => []
  | a :: rest => if p a then [a] else a :: upTo p rest

section UpTo

variable {α β : Type} {p : α → Bool}

theorem upTo_eq_self {xs : List α} (h : ∀ a ∈ xs, p a = false) : upTo p xs = xs := by
  induction xs with
  | nil => rfl
  | cons a rest ih =>
    have rest' := ih fun b hb => h b (List.mem_cons_of_mem a hb)
    simp [upTo, h a List.mem_cons_self, rest']

theorem upTo_append {xs : List α} (ys : List α) (h : ∀ a ∈ xs, p a = false) :
    upTo p (xs ++ ys) = xs ++ upTo p ys := by
  induction xs with
  | nil => rfl
  | cons a rest ih =>
    have rest' := ih fun b hb => h b (List.mem_cons_of_mem a hb)
    simp [upTo, h a List.mem_cons_self, rest']

theorem upTo_append_of_any {xs : List α} (ys : List α) (h : xs.any p = true) :
    upTo p (xs ++ ys) = upTo p xs := by
  induction xs with
  | nil => cases h
  | cons a rest ih =>
    by_cases found : p a = true
    · simp [upTo, found]
    · have more : rest.any p = true := by simpa [found] using h
      simp [upTo, found, ih more]

theorem upTo_map (f : β → α) (xs : List β) :
    upTo p (xs.map f) = (upTo (fun b => p (f b)) xs).map f := by
  induction xs with
  | nil => rfl
  | cons a rest ih =>
    by_cases found : p (f a) = true
    · simp [upTo, found]
    · simp [upTo, found, ih]

theorem upTo_isPrefix (xs : List α) : upTo p xs <+: xs := by
  induction xs with
  | nil => exact List.nil_prefix
  | cons a rest ih =>
    by_cases found : p a = true
    · simp [upTo, found]
    · simpa [upTo, found] using ih

end UpTo

theorem flatMap_range_succ {α : Type} (f : Nat → List α) (n : Nat) :
    (List.range (n + 1)).flatMap f = (List.range n).flatMap f ++ f n := by
  rw [List.range_succ, List.flatMap_append, List.flatMap_singleton]

namespace Run

@[simp] theorem after_after (r r' : List Report) (e e' : List Event) (run : Run) :
    (run.after r' e').after r e = run.after (r ++ r') (e ++ e') := by
  simp [after]

@[simp] theorem after_reports (r : List Report) (e : List Event) (run : Run) :
    (run.after r e).reports = r ++ run.reports := rfl

@[simp] theorem after_events (r : List Report) (e : List Event) (run : Run) :
    (run.after r e).events = e ++ run.events := rfl

@[simp] theorem after_result (r : List Report) (e : List Event) (run : Run) :
    (run.after r e).result = run.result := rfl

end Run

namespace Search

variable (search : Search)

/-- What evaluating the current generation comes to. -/
def evaluation : Evaluation := evaluateAll search.examples search.population

/-- The candidates that the current generation scores. -/
def scored : List Candidate := search.evaluation.survivors

/-- A candidate has the perfect score. -/
def isPerfect (c : Candidate) : Bool := c.score = search.examples.goal

/-- The candidate that ends the search in the current generation, if there is one. -/
def winner? : Option Candidate := search.scored.find? search.isPerfect

/-- The current generation neither fails nor solves the search. -/
def IsOpen : Prop := search.scored ≠ [] ∧ search.winner? = none

/-- The reports of a generation without a winner. -/
def reports : List Report := search.scored.map (·.report search.generation)

/-- The events of evaluating the current generation and telling of some of its candidates. -/
def tellings (told : List Candidate) : List Event :=
  search.evaluation.events ++ told.map fun c => .scored c.score c.wholeSource

/-- The events of a generation without a winner. -/
def log : List Event := search.tellings search.scored ++ search.summary search.scored

/-- The event of breeding the next generation. -/
def promotion : Event := ((search.count search.evaluation).next search.scored).2

/-- The search at its next generation. -/
def turn : Search := ((search.count search.evaluation).next search.scored).1

/-- The search after some turns. -/
def turns : Nat → Search
  | 0 => search
  | n + 1 => (turns n).turn

@[simp] theorem count_settings (e : Evaluation) : (search.count e).settings = search.settings := rfl

@[simp] theorem count_examples (e : Evaluation) : (search.count e).examples = search.examples := rfl

@[simp] theorem count_generation (e : Evaluation) :
    (search.count e).generation = search.generation := rfl

@[simp] theorem count_nextId (e : Evaluation) : (search.count e).nextId = search.nextId := rfl

theorem cut_eq (cs : List Candidate) (perfect : Int) :
    cut perfect cs = (upTo (fun c => c.score = perfect) cs, cs.find? fun c => c.score = perfect) := by
  induction cs with
  | nil => rfl
  | cons c rest ih =>
    by_cases found : c.score = perfect
    · simp [cut, upTo, found]
    · simp [cut, upTo, found, ih]

theorem cut_scored : cut search.examples.goal search.evaluation.survivors =
    (upTo search.isPerfect search.scored, search.winner?) := cut_eq _ _

variable {search}

theorem population_ne_nil (h : search.scored ≠ []) : search.population ≠ [] := by
  intro empty
  apply h
  simp [scored, evaluation, evaluateAll, empty]

theorem IsOpen.isPerfect_eq_false (h : search.IsOpen) {c : Candidate} (mem : c ∈ search.scored) :
    search.isPerfect c = false := by
  simpa using List.find?_eq_none.mp h.2 c mem

theorem upTo_scored (h : search.IsOpen) : upTo search.isPerfect search.scored = search.scored :=
  upTo_eq_self fun _ mem => h.isPerfect_eq_false mem

/-! ## How a turn ends -/

theorem proceed_of_population_eq_nil (more : Nat) (h : search.population = []) :
    search.proceed more = search.fail (.noCandidates search.generation) := by
  rw [proceed.eq_def]
  simp [h]

theorem proceed_of_scored_eq_nil (more : Nat) (some : search.population ≠ [])
    (h : search.scored = []) : search.proceed more =
      ((search.count search.evaluation).fail
        (.allInvalid search.generation search.evaluation.failures)).after
          [] search.evaluation.events := by
  rw [proceed.eq_def]
  simp only [scored, evaluation] at h
  simp [some, h, evaluation]

theorem proceed_of_winner {best : Candidate} (more : Nat) (h : search.winner? = some best) :
    search.proceed more = ((search.count search.evaluation).stop .solved best).after
      ((upTo search.isPerfect search.scored).map (·.report search.generation))
      (search.tellings (upTo search.isPerfect search.scored)) := by
  have nonempty : search.scored ≠ [] := by
    intro empty
    simp [winner?, empty] at h
  have populated := population_ne_nil nonempty
  have cut := search.cut_scored
  rw [h] at cut
  simp only [scored, evaluation] at cut nonempty
  rw [proceed.eq_def]
  simp only [List.isEmpty_iff, populated, nonempty, if_false, count_examples, cut]
  rfl

/-- The budget is used up: the best candidate of the last generation is the result. -/
theorem proceed_zero {best : Candidate} (h : search.IsOpen)
    (top : (ranked search.scored).head? = some best) :
    search.proceed 0 = ((search.count search.evaluation).stop .timedOut best).after
      search.reports search.log := by
  have populated := population_ne_nil h.1
  have cut := search.cut_scored
  rw [h.2, upTo_scored h] at cut
  have nonempty := h.1
  simp only [scored, evaluation] at cut nonempty top
  rw [proceed.eq_def]
  simp only [List.isEmpty_iff, populated, nonempty, if_false, count_examples, cut, top]
  rfl

/-- The search goes on with the next generation. -/
theorem proceed_succ (more : Nat) (h : search.IsOpen) :
    search.proceed (more + 1) = (search.turn.proceed more).after search.reports
      (search.log ++ [search.promotion]) := by
  have populated := population_ne_nil h.1
  have cut := search.cut_scored
  rw [h.2, upTo_scored h] at cut
  have nonempty := h.1
  simp only [scored, evaluation] at cut nonempty
  rw [proceed.eq_def]
  simp only [List.isEmpty_iff, populated, nonempty, if_false, count_examples, cut]
  rfl

/-- While all generations are open, a run is what it tells on the way and the run from there. -/
theorem proceed_turns {n : Nat} (more : Nat) (h : ∀ i < n, (search.turns i).IsOpen) :
    search.proceed (n + more) = ((search.turns n).proceed more).after
      ((List.range n).flatMap fun i => (search.turns i).reports)
      ((List.range n).flatMap fun i => (search.turns i).log ++ [(search.turns i).promotion]) := by
  induction n generalizing more with
  | zero =>
    rw [Nat.zero_add]
    rfl
  | succ n ih =>
    have before := ih (more + 1) fun i hi => h i (by omega)
    have step := proceed_succ more (h n (by omega))
    rw [show n + 1 + more = n + (more + 1) by omega, before, step, Run.after_after]
    simp [List.range_succ, turns]

end Search

end PatternSearch
