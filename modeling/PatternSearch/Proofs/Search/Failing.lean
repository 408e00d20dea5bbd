import PatternSearch.Proofs.Search.Completeness
import PatternSearch.Proofs.Search.Ends

/-!
# Failing searches

A run fails for one of three reasons. Its settings have a defect, and then nothing has happened; or
the kept candidates of the generation before have no children, which takes an empty vocabulary of
extensions and no repetition left to pin; or no pattern of a generation compiles. The first generation
has the empty sequence of fragments among its candidates and never fails.
-/

namespace PatternSearch

theorem selected_ne_nil {scored : List Candidate} {count : Nat} (some : scored ≠ [])
    (positive : count ≠ 0) : selected scored count ≠ [] := by
  intro empty
  rcases List.take_eq_nil_iff.mp empty with zero | unranked
  · exact positive zero
  · exact ranked_ne_nil some unranked

theorem Settings.keep_ne_zero {settings : Settings} (valid : settings.defect? = none) :
    settings.keep ≠ 0 := by
  intro zero
  rw [defect?] at valid
  split_ifs at valid

namespace Search

variable {search : Search} {g : Nat}

/-- After scored candidates there is an empty generation only if none of the kept ones has a child. -/
theorem childless_of_candidatesAt_succ_eq_nil (valid : search.settings.defect? = none)
    (scored : search.scoredAt g ≠ []) (empty : search.candidatesAt (g + 1) = []) :
    search.settings.extensions = [] ∧
      ∀ parent ∈ selected (search.scoredAt g) search.settings.keep,
        ∀ fragment ∈ parent.fragments, fragment.marker? = none := by
  have fragments := search.candidatesAt_succ_fragments g
  rw [empty, List.map_nil, eq_comm, List.flatMap_eq_nil_iff] at fragments
  have childless := fun parent kept => Breeding.children_eq_nil_iff.mp (fragments parent kept)
  obtain ⟨parent, kept⟩ :=
    List.exists_mem_of_ne_nil _ (selected_ne_nil scored (Settings.keep_ne_zero valid))
  exact ⟨(childless parent kept).1, fun parent kept => (childless parent kept).2⟩

/-! ## The first generation -/

theorem compiles_nil : Compiles [] := by
  refine ⟨⟨⟨"^$", .cat (.look .textStart) (.look .textEnd)⟩, ⟨"", .empty⟩⟩, ?_⟩
  decide +kernel

/-- Nothing at all is a selection of the seeds, and compiles. -/
theorem scoredAt_zero_ne_nil (search : Search) : search.scoredAt 0 ≠ [] := by
  have none : [] ∈ selections search.settings.seeds :=
    mem_selections.mpr (List.nil_sublist search.settings.seeds)
  apply scoredAt_ne_nil (Derived.seed none compiles_nil)
  intro i less
  exact absurd less (Nat.not_lt_zero i)

/-! ## The reasons -/

/-- A loop that is at the last generation of its budget stops for want of candidates only where it
finds none to begin with: the ranking of scored candidates has a first one. -/
theorem population_eq_nil_of_proceed_zero
    (result : (search.proceed 0).result = .error (.noCandidates g)) : search.population = [] := by
  cases search.lastTurn with
  | unpopulated empty run => exact empty
  | unscored populated empty run =>
    rw [run] at result
    cases result
  | won best winner run =>
    rw [run] at result
    cases result
  | spent best isOpen top run =>
    rw [run] at result
    cases result

/-- What is the case in a search that fails in one way or another. -/
def Explains (search : Search) : Failure → Prop
  | .badSettings defect => search.settings.defect? = some defect
  | .noCandidates g => search.settings.defect? = none ∧ search.EndsAt g ∧ 0 < g ∧
      search.candidatesAt g = [] ∧ search.settings.extensions = [] ∧
      ∀ parent ∈ selected (search.scoredAt (g - 1)) search.settings.keep,
        ∀ fragment ∈ parent.fragments, fragment.marker? = none
  | .allInvalid g failures => search.settings.defect? = none ∧ search.EndsAt g ∧ 0 < g ∧
      search.scoredAt g = [] ∧ failures = (search.candidatesAt g).length ∧ 0 < failures

theorem explains_of_result {failure : Failure} (result : search.run.result = .error failure) :
    search.Explains failure := by
  cases valid : search.settings.defect? with
  | some defect =>
    rw [run_of_defect valid] at result
    cases result
    exact valid
  | none =>
    obtain ⟨n, endsAt⟩ := exists_endsAt valid
    have start := search.scoredAt_zero_ne_nil
    cases ends_of_endsAt valid endsAt with
    | unpopulated empty reports result' left =>
      cases result'.symm.trans result
      -- A generation with nothing in it is not the first one, so there are kept candidates before it.
      cases n with
      | zero => exact absurd (scoredAt_eq_nil empty) start
      | succ g =>
        have scored := (endsAt.before g (Nat.lt_succ_self g)).1
        obtain ⟨extensions, unmarked⟩ := childless_of_candidatesAt_succ_eq_nil valid scored empty
        exact ⟨valid, endsAt, Nat.succ_pos g, empty, extensions, unmarked⟩
    | unscored populated empty reports result' left =>
      cases result'.symm.trans result
      have positive : 0 < n := by
        rw [Nat.pos_iff_ne_zero]
        rintro rfl
        exact start empty
      exact ⟨valid, endsAt, positive, empty, rfl, List.length_pos_iff.mpr populated⟩
    | won best winner reports result' left => cases result'.symm.trans result
    | spent best isOpen top reports result' left => cases result'.symm.trans result

theorem result_of_explains {failure : Failure} (h : search.Explains failure) :
    search.run.result = .error failure := by
  cases failure with
  | badSettings defect =>
    rw [run_of_defect h]
    rfl
  | noCandidates g =>
    obtain ⟨valid, endsAt, -, empty, -, -⟩ := h
    exact result_of_candidatesAt_eq_nil valid endsAt.budget endsAt.before empty
  | allInvalid g failures =>
    obtain ⟨valid, endsAt, -, empty, rfl, positive⟩ := h
    exact result_of_scoredAt_eq_nil valid endsAt.budget endsAt.before
      (List.length_pos_iff.mp positive) empty

/-- A run fails if and only if there is a reason to. With a defect in its settings it has told nothing
and changed nothing, and the end of the budget is never taken for a lack of candidates. -/
theorem result_eq_error_iff_explains (search : Search) :
    (∀ failure, search.run.result = .error failure ↔ search.Explains failure) ∧
    (∀ defect, search.settings.defect? = some defect →
      search.run.reports = [] ∧ search.run.events = [] ∧ search.run.search = search) ∧
    ∀ (loop : Search) (g : Nat), (loop.proceed 0).result = .error (.noCandidates g) →
      loop.population = [] := by
  refine ⟨?_, ?_, ?_⟩
  · intro failure
    exact ⟨explains_of_result, result_of_explains⟩
  · intro defect h
    rw [run_of_defect h]
    exact ⟨rfl, rfl, rfl⟩
  · intro loop g result
    exact population_eq_nil_of_proceed_zero result

/-- No candidate may be kept; the empty pattern has no children; an opened group is never closed. -/
theorem explains_each_failure :
    let idle : Search := { settings := { keep := 0 }, examples := {}, nextId := 7 }
    let barren : Search :=
      { settings := { seeds := [], extensions := [] }, examples := ⟨["1"], []⟩ }
    let broken : Search :=
      { settings := { seeds := [⟨"("⟩], extensions := [⟨"("⟩] }, examples := ⟨["1"], []⟩ }
    (idle.run.result = .error (.badSettings .noSurvivors) ∧ idle.run.search = idle) ∧
    (barren.run.result = .error (.noCandidates 1) ∧ barren.Explains (.noCandidates 1)) ∧
    (broken.run.result = .error (.allInvalid 1 1) ∧ broken.Explains (.allInvalid 1 1)) := by
  intro idle barren broken
  have defect : idle.settings.defect? = some .noSurvivors := by decide
  obtain ⟨fails, unchanged, -⟩ := result_eq_error_iff_explains idle
  have barrenFails : barren.run.result = .error (.noCandidates 1) := by decide +kernel
  have brokenFails : broken.run.result = .error (.allInvalid 1 1) := by decide +kernel
  have barrenWhy := ((result_eq_error_iff_explains barren).1 _).mp barrenFails
  have brokenWhy := ((result_eq_error_iff_explains broken).1 _).mp brokenFails
  exact ⟨⟨(fails _).mpr defect, (unchanged _ defect).2.2⟩, ⟨barrenFails, barrenWhy⟩,
    ⟨brokenFails, brokenWhy⟩⟩

end Search

end PatternSearch
