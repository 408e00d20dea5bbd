import PatternSearch.Proofs.Search.Ends

/-!
# Searches with a history

A search can be seeded, bred from and run, over and over and with or without success. Its candidates,
counters and identifiers then depend on all of that, but a run does not: it starts over from the
settings and the examples, and nothing that is asked of a search changes these.
-/

namespace PatternSearch.Search

/-- Both searches have the same settings and the same examples. -/
structure SameTask (a b : Search) : Prop where
  settings : a.settings = b.settings
  examples : a.examples = b.examples

/-- The searches that one with these settings and examples can become, by any requests in any order. -/
inductive Reached (settings : Settings) (examples : Examples) : Search → Prop
  | fresh : Reached settings examples { settings, examples }
  | seeded {search : Search} (before : Reached settings examples search) :
      Reached settings examples search.seed
  | bred {search : Search} (before : Reached settings examples search) (scored : List Candidate) :
      Reached settings examples (search.breed scored).1
  | ran {search : Search} (before : Reached settings examples search) :
      Reached settings examples search.run.search

namespace SameTask

variable {a b c : Search}

theorem refl (search : Search) : search.SameTask search := ⟨rfl, rfl⟩

theorem trans (h : a.SameTask b) (h' : b.SameTask c) : a.SameTask c :=
  ⟨h.settings.trans h'.settings, h.examples.trans h'.examples⟩

/-- Seeding replaces all that a search has besides its settings and examples. -/
theorem seed_eq (h : a.SameTask b) : a.seed = b.seed := by
  rw [seed, seed, h.settings, h.examples]

theorem run_eq (h : a.SameTask b) (valid : b.settings.defect? = none) : a.run = b.run := by
  rw [run, run, h.settings, valid, h.seed_eq]

end SameTask

variable {search : Search}

/-! ## What requests keep -/

theorem sameTask_seed (search : Search) : search.seed.SameTask search := ⟨rfl, rfl⟩

theorem sameTask_breed (search : Search) (scored : List Candidate) :
    (search.breed scored).1.SameTask search := ⟨rfl, rfl⟩

theorem sameTask_turn (search : Search) : search.turn.SameTask search := ⟨rfl, rfl⟩

theorem sameTask_proceed_zero (search : Search) : (search.proceed 0).search.SameTask search := by
  rcases search.left_of_proceed_zero with unchanged | counted
  · rw [unchanged]
    exact SameTask.refl search
  · rw [counted]
    exact ⟨rfl, rfl⟩

theorem sameTask_proceed (more : Nat) : (search.proceed more).search.SameTask search := by
  induction more generalizing search with
  | zero => exact search.sameTask_proceed_zero
  | succ more ih =>
    by_cases isOpen : search.IsOpen
    · rw [proceed_succ more isOpen]
      exact (@ih search.turn).trans search.sameTask_turn
    · rw [proceed_of_closed (more + 1) isOpen]
      exact search.sameTask_proceed_zero

/-- However a run ends, it keeps the settings and the examples. -/
theorem sameTask_run (search : Search) : search.run.search.SameTask search := by
  rw [run]
  cases search.settings.defect? with
  | some defect => exact SameTask.refl search
  | none => exact (sameTask_proceed _).trans search.sameTask_seed

/-- The invariant of all requests. -/
theorem Reached.sameTask {settings : Settings} {examples : Examples}
    (reached : Reached settings examples search) : search.SameTask { settings, examples } := by
  induction reached with
  | fresh => exact SameTask.refl _
  | seeded _ ih => exact (sameTask_seed _).trans ih
  | bred _ scored ih => exact (sameTask_breed _ scored).trans ih
  | ran _ ih => exact (sameTask_run _).trans ih

/-! ## Running again -/

/-- Whatever was asked of a search before, a run tells the same and ends the same as that of a fresh
one. With valid settings it leaves the same search behind, and otherwise the one that it finds. -/
theorem run_of_reached {settings : Settings} {examples : Examples}
    (reached : Reached settings examples search) :
    let fresh : Search := { settings, examples }
    search.run.reports = fresh.run.reports ∧ search.run.events = fresh.run.events ∧
      search.run.result = fresh.run.result ∧
      (settings.defect? = none → search.run.search = fresh.run.search) ∧
      (settings.defect? ≠ none → search.run.search = search) := by
  intro fresh
  have same : search.SameTask fresh := reached.sameTask
  cases defective : settings.defect? with
  | none =>
    rw [same.run_eq defective]
    exact ⟨rfl, rfl, rfl, fun _ => rfl, fun invalid => absurd rfl invalid⟩
  | some defect =>
    have here : search.settings.defect? = some defect := same.settings ▸ defective
    have there : fresh.settings.defect? = some defect := defective
    rw [run_of_defect here, run_of_defect there]
    refine ⟨rfl, rfl, rfl, ?_, fun _ => rfl⟩
    intro valid
    cases valid

/-- A search that fails in its second generation fails the same way again, with identifiers used up by
breeding in between. -/
theorem run_of_failed_and_bred :
    let fresh : Search :=
      { settings := { seeds := [⟨"("⟩], extensions := [⟨"("⟩] }, examples := ⟨["1"], []⟩ }
    let used := (fresh.run.search.breed [{ id := 9, fragments := [⟨"a+"⟩], generation := 4 }]).1
    used.generation = 1 ∧ used.nextId = 8 ∧ used.tally.failures = 2 ∧
      used.run.result = .error (.allInvalid 1 1) ∧ used.run.reports = fresh.run.reports ∧
      used.run.search = fresh.run.search := by
  intro fresh used
  have reached : Reached fresh.settings fresh.examples used := (Reached.fresh.ran).bred _
  have valid : fresh.settings.defect? = none := by decide
  have fails : fresh.run.result = .error (.allInvalid 1 1) := by decide +kernel
  have state : used.generation = 1 ∧ used.nextId = 8 ∧ used.tally.failures = 2 := by decide +kernel
  obtain ⟨reports, -, result, left, -⟩ := run_of_reached reached
  exact ⟨state.1, state.2.1, state.2.2, result.trans fails, reports, left valid⟩

end PatternSearch.Search
