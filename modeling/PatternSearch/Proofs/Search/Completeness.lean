import PatternSearch.Proofs.Search.Refinement
import PatternSearch.Proofs.Search.Space

/-!
# Completeness

A derivation leads from a selection of the seeds to a sequence of fragments, one child after the
other. As long as no scored candidate is dropped, a run keeps up with every derivation whose
sequences all compile: generation after generation it has the next sequence among its candidates, or
it is solved earlier. Nothing is claimed of derivations that lose a sequence to the ranking.
-/

namespace PatternSearch

/-- The patterns of the fragments are accepted. -/
def Compiles (fragments : List Fragment) : Prop := ∃ m, Matcher.compile fragments = .ok m

/-- A sequence of fragments that is so many children away from a selection of the seeds, by way of
sequences that all compile. -/
inductive Derived (settings : Settings) : Nat → List Fragment → Prop
  | seed {fragments : List Fragment} (mem : fragments ∈ selections settings.seeds)
      (compiles : Compiles fragments) : Derived settings 0 fragments
  | child {steps : Nat} {parent fragments : List Fragment} (before : Derived settings steps parent)
      (mem : fragments ∈ settings.breeding.children parent) (compiles : Compiles fragments) :
      Derived settings (steps + 1) fragments

namespace Derived

variable {settings : Settings} {steps : Nat} {fragments : List Fragment}

theorem compiles (h : Derived settings steps fragments) : Compiles fragments := by
  cases h with
  | seed _ compiles => exact compiles
  | child _ _ compiles => exact compiles

/-- A derivation passes through every smaller number of steps. -/
theorem exists_of_le (h : Derived settings steps fragments) {n : Nat} (le : n ≤ steps) :
    ∃ earlier, Derived settings n earlier := by
  induction h with
  | seed mem compiles =>
    obtain rfl : n = 0 := by omega
    exact ⟨_, seed mem compiles⟩
  | @child steps parent fragments before mem compiles ih =>
    by_cases last : n = steps + 1
    · subst last
      exact ⟨fragments, child before mem compiles⟩
    · exact ih (by omega)

end Derived

/-- Nothing is dropped where all candidates may be kept. -/
theorem mem_selected_of_length_le {scored : List Candidate} {count : Nat} {c : Candidate}
    (room : scored.length ≤ count) (mem : c ∈ scored) : c ∈ selected scored count := by
  have all : (ranked scored).length ≤ count := by
    simpa only [ranked, List.length_mergeSort] using room
  rw [selected, List.take_of_length_le all]
  exact List.mem_mergeSort.mpr mem

namespace Search

variable {search : Search} {g : Nat} {fragments : List Fragment}

theorem mem_scoredAt_of_compile {c : Candidate} {m : Matcher} (mem : c ∈ search.candidatesAt g)
    (compiled : Matcher.compile c.fragments = .ok m) :
    c.scoredBy m search.examples ∈ search.scoredAt g :=
  mem_survivors.mpr ⟨c, mem, m, compiled, rfl⟩

/-- A child of a kept candidate is a candidate of the next generation. -/
theorem exists_mem_candidatesAt_succ {parent : Candidate}
    (kept : parent ∈ selected (search.scoredAt g) search.settings.keep)
    (child : fragments ∈ search.settings.breeding.children parent.fragments) :
    ∃ c ∈ search.candidatesAt (g + 1), c.fragments = fragments := by
  apply List.mem_map.mp
  rw [candidatesAt_succ_fragments]
  exact List.mem_flatMap.mpr ⟨parent, kept, child⟩

/-- The run keeps up with a derivation while no scored candidate is dropped. -/
theorem exists_mem_candidatesAt (derived : Derived search.settings g fragments)
    (room : ∀ i < g, (search.scoredAt i).length ≤ search.settings.keep) :
    ∃ c ∈ search.candidatesAt g, c.fragments = fragments := by
  induction derived with
  | seed mem _ =>
    apply List.mem_map.mp
    rw [← seed_fragments] at mem
    exact mem
  | @child g parent fragments before mem _ ih =>
    obtain ⟨c, inner, rfl⟩ := ih fun i less => room i (by omega)
    obtain ⟨m, compiled⟩ := before.compiles
    have scored := mem_scoredAt_of_compile inner compiled
    have kept := mem_selected_of_length_le (room g (by omega)) scored
    exact exists_mem_candidatesAt_succ kept mem

/-- Where the run arrives after open generations, a scored sequence of the derivation is there. -/
theorem scoredAt_ne_nil (derived : Derived search.settings g fragments)
    (room : ∀ i < g, (search.scoredAt i).length ≤ search.settings.keep) :
    search.scoredAt g ≠ [] := by
  obtain ⟨c, mem, rfl⟩ := exists_mem_candidatesAt derived room
  obtain ⟨m, compiled⟩ := derived.compiles
  exact List.ne_nil_of_mem (mem_scoredAt_of_compile mem compiled)

/-- A first generation, up to the given one, that is not open, or else the given one. -/
theorem exists_first_not_open (search : Search) (g : Nat) :
    ∃ n ≤ g, (∀ i < n, search.OpenAt i) ∧ (n < g → ¬search.OpenAt n) := by
  induction g with
  | zero => exact ⟨0, by omega, by omega, by omega⟩
  | succ g ih =>
    obtain ⟨n, le, before, last⟩ := ih
    by_cases more : n = g ∧ search.OpenAt g
    · obtain ⟨rfl, isOpen⟩ := more
      refine ⟨n + 1, by omega, ?_, by omega⟩
      intro i less
      by_cases same : i = n
      · subst same
        exact isOpen
      · exact before i (by omega)
    · refine ⟨n, by omega, before, ?_⟩
      intro _ isOpen
      by_cases same : n = g
      · subst same
        exact more ⟨rfl, isOpen⟩
      · exact last (by omega) isOpen

/-- The generation in which the run stops has a perfect candidate: the derivation leaves it neither
without candidates nor without scored ones. -/
theorem exists_winner (derived : Derived search.settings g fragments) {m : Matcher}
    (compiled : Matcher.compile fragments = .ok m)
    (perfect : (m.score search.examples).roundHalfUp = search.examples.goal) {n : Nat} (le : n ≤ g)
    (room : ∀ i < n, (search.scoredAt i).length ≤ search.settings.keep)
    (stops : n < g → ¬search.OpenAt n) :
    ∃ best, (search.scoredAt n).find? search.isPerfect = some best := by
  suffices found : ∃ c ∈ search.scoredAt n, c.score = search.examples.goal by
    obtain ⟨c, mem, score⟩ := found
    apply Option.isSome_iff_exists.mp
    exact List.find?_isSome.mpr ⟨c, mem, decide_eq_true score⟩
  by_cases last : n = g
  · subst last
    obtain ⟨c, mem, rfl⟩ := exists_mem_candidatesAt derived room
    exact ⟨_, mem_scoredAt_of_compile mem compiled, perfect⟩
  · obtain ⟨earlier, derived'⟩ := derived.exists_of_le le
    have some := scoredAt_ne_nil derived' room
    simpa [OpenAt, some] using stops (by omega)

/-- A derivation of a perfect sequence within the budget makes the run solved, in the generation of
that sequence at the latest, if no generation that the run comes to before it has more scored
candidates than may be kept. -/
theorem solved_of_derived (valid : search.settings.defect? = none)
    (budget : g < search.settings.maxGenerations) (derived : Derived search.settings g fragments)
    {m : Matcher} (compiled : Matcher.compile fragments = .ok m)
    (perfect : (m.score search.examples).roundHalfUp = search.examples.goal)
    (room : ∀ i < g, (∀ j < i, search.OpenAt j) →
      (search.scoredAt i).length ≤ search.settings.keep) :
    ∃ outcome, search.run.result = .ok outcome ∧ outcome.ending = .solved ∧
      outcome.tally.generations ≤ g + 1 := by
  obtain ⟨n, le, before, stops⟩ := search.exists_first_not_open g
  have room' : ∀ i < n, (search.scoredAt i).length ≤ search.settings.keep := by
    intro i less
    exact room i (by omega) fun j earlier => before j (by omega)
  obtain ⟨best, winner⟩ := exists_winner derived compiled perfect le room' stops
  have rest : search.settings.maxGenerations =
      n + (search.settings.maxGenerations - 1 - n) + 1 := by omega
  obtain ⟨tally, result, generations⟩ := result_of_winner valid rest before winner
  refine ⟨_, result, rfl, ?_⟩
  change tally.generations ≤ g + 1
  omega

/-- A letter is appended and then a repetition pinned: the third generation has the only pattern that
tells these examples apart, and the two before it fit into the five kept candidates. -/
theorem solved_of_pinned_letter :
    let search : Search :=
      { settings := { seeds := [⟨"a+"⟩], extensions := [⟨"b"⟩], maxCount := 2, maxGenerations := 3 }
        examples := ⟨["aab", "aab"], ["ab", "aaab"]⟩ }
    Derived search.settings 2 [⟨"a\x7b2\x7d"⟩, ⟨"b"⟩] ∧
      (∀ i < 2, (search.scoredAt i).length ≤ search.settings.keep) ∧
      ∃ outcome, search.run.result = .ok outcome ∧ outcome.ending = .solved ∧
        outcome.tally.generations ≤ 3 := by
  intro search
  have accepted (fragments : List Fragment)
      (h : (Matcher.compile fragments).toOption.isSome = true) : Compiles fragments := by
    cases compiled : Matcher.compile fragments with
    | ok m => exact ⟨m, compiled⟩
    | error rejection => simp [compiled, Except.toOption] at h
  have first : Derived search.settings 0 [⟨"a+"⟩] :=
    .seed (by decide) (accepted _ (by decide +kernel))
  have second : Derived search.settings 1 [⟨"a+"⟩, ⟨"b"⟩] :=
    .child first (by decide) (accepted _ (by decide +kernel))
  have third : Derived search.settings 2 [⟨"a\x7b2\x7d"⟩, ⟨"b"⟩] :=
    .child second (by decide) (accepted _ (by decide +kernel))
  have seeds : (search.scoredAt 0).length ≤ search.settings.keep := by decide +kernel
  have children : (search.scoredAt 1).length ≤ search.settings.keep := by
    simp only [scoredAt, candidatesAt, frontier, breed, selected, ranked_eq_foldr]
    decide +kernel
  have room : ∀ i < 2, (search.scoredAt i).length ≤ search.settings.keep := by
    intro i less
    obtain rfl | rfl : i = 0 ∨ i = 1 := by omega
    · exact seeds
    · exact children
  obtain ⟨m, compiled⟩ := third.compiles
  have scored : (Matcher.compile [⟨"a\x7b2\x7d"⟩, ⟨"b"⟩]).toOption.map
      (fun m => (m.score search.examples).roundHalfUp) = some 2 := by decide +kernel
  rw [compiled] at scored
  exact ⟨third, room, solved_of_derived (by decide) (by decide) third compiled
    (Option.some.inj scored) fun i less _ => room i less⟩

end Search

end PatternSearch
