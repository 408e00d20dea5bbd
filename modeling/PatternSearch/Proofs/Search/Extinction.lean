import PatternSearch.Proofs.Fragment.Repetition
import PatternSearch.Proofs.Search.Ends
import PatternSearch.Proofs.Search.Space

/-!
# Searches that die out

Without extensions all that is left to breeding is to pin repetitions, and each pin uses up a plus sign
of the seeds. So there are no more generations with candidates than there are plus signs, and one, and
a budget that is larger than that is never spent. Nothing is said of searches with extensions, whose
generations need not end.
-/

namespace PatternSearch

open Fragment

/-! ## Plus signs along a derivation -/

theorem Pins.pluses_add {maxCount steps : Nat} {origin fragment : Fragment}
    (h : Pins maxCount origin steps fragment) : fragment.pluses + steps = origin.pluses := by
  induction h with
  | refl => rfl
  | pin _ _ pinned ih =>
    have less := pluses_of_pin? pinned
    omega

theorem PinsEach.plusesIn_add {maxCount steps : Nat} {origins fragments : List Fragment}
    (h : PinsEach maxCount origins steps fragments) :
    plusesIn fragments + steps = plusesIn origins := by
  induction h with
  | nil => rfl
  | cons first _ ih =>
    have here := first.pluses_add
    rw [plusesIn_cons, plusesIn_cons]
    omega

/-- Without extensions every step is a pin. -/
theorem InReach.plusesIn_add_le {settings : Settings} {steps : Nat} {fragments : List Fragment}
    (h : InReach settings steps fragments) (barren : settings.extensions = []) :
    plusesIn fragments + steps ≤ plusesIn settings.seeds := by
  obtain ⟨seeds, added, front, back, pins, pins', chosen, known, first, second, rfl, count⟩ := h
  have unextended : added = [] := by
    rw [List.eq_nil_iff_forall_not_mem]
    intro fragment mem
    have extension := known fragment mem
    rw [barren] at extension
    cases extension
  subst unextended
  cases second
  have all := first.plusesIn_add
  have le := plusesIn_le_of_sublist chosen
  rw [List.append_nil]
  rw [List.length_nil] at count
  omega

namespace Search

variable {search : Search} {g n : Nat}

/-! ## The last generations -/

theorem le_plusesIn_of_populated (barren : search.settings.extensions = [])
    (populated : search.candidatesAt g ≠ []) : g ≤ plusesIn search.settings.seeds := by
  obtain ⟨c, mem⟩ := List.exists_mem_of_ne_nil _ populated
  have bound := (inReach_of_mem_candidatesAt mem).plusesIn_add_le barren
  omega

theorem OpenAt.populated (isOpen : search.OpenAt g) : search.candidatesAt g ≠ [] := by
  intro empty
  exact isOpen.1 (scoredAt_eq_nil empty)

/-- The generation after a last open one may be empty. -/
theorem EndsAt.le_plusesIn (endsAt : search.EndsAt n) (barren : search.settings.extensions = []) :
    n ≤ plusesIn search.settings.seeds + 1 := by
  cases n with
  | zero => exact Nat.zero_le _
  | succ g =>
    have isOpen := endsAt.before g (Nat.lt_succ_self g)
    exact Nat.succ_le_succ (le_plusesIn_of_populated barren isOpen.populated)

/-- A search without extensions dies out: each generation has a plus sign less, and with two
generations more than plus signs a run ends before its budget does. -/
theorem dies_out_of_no_extensions (valid : search.settings.defect? = none)
    (barren : search.settings.extensions = []) :
    (∀ g, ∀ c ∈ search.candidatesAt g,
      plusesIn c.fragments + g ≤ plusesIn search.settings.seeds) ∧
    (∀ g, plusesIn search.settings.seeds < g → search.candidatesAt g = []) ∧
    (plusesIn search.settings.seeds + 2 ≤ search.settings.maxGenerations →
      (∃ best tally, search.run.result = .ok ⟨.solved, best, tally⟩) ∨
      (∃ g ≤ plusesIn search.settings.seeds, ∃ failures,
        search.run.result = .error (.allInvalid g failures)) ∨
      ∃ g ≤ plusesIn search.settings.seeds + 1, search.run.result = .error (.noCandidates g)) := by
  refine ⟨?_, ?_, ?_⟩
  · intro g c mem
    exact (inReach_of_mem_candidatesAt mem).plusesIn_add_le barren
  · intro g beyond
    by_contra populated
    exact absurd (le_plusesIn_of_populated barren populated) (by omega)
  · intro enough
    obtain ⟨n, endsAt⟩ := exists_endsAt valid
    cases ends_of_endsAt valid endsAt with
    | unpopulated empty reports result left =>
      exact Or.inr (Or.inr ⟨n, endsAt.le_plusesIn barren, result⟩)
    | unscored populated empty reports result left =>
      exact Or.inr (Or.inl ⟨n, le_plusesIn_of_populated barren populated, _, result⟩)
    | won best winner reports result left => exact Or.inl ⟨_, _, result⟩
    | spent best isOpen top reports result left =>
      -- The last generation of the budget has candidates, and is too late for that.
      have early := le_plusesIn_of_populated barren isOpen.populated
      have last := endsAt.last.resolve_right fun closed => closed isOpen
      omega

/-- One plus sign is pinned in the second generation, and the third one is empty. -/
theorem dies_out_of_one_plus :
    let search : Search :=
      { settings := { seeds := [⟨"a+"⟩], extensions := [], maxCount := 1, maxGenerations := 3 }
        examples := ⟨["x"], ["x"]⟩ }
    plusesIn search.settings.seeds = 1 ∧ search.candidatesAt 1 ≠ [] ∧ search.candidatesAt 2 = [] ∧
      (∃ g ≤ 2, search.run.result = .error (.noCandidates g)) := by
  intro search
  have valid : search.settings.defect? = none := by decide
  have one : plusesIn search.settings.seeds = 1 := by decide
  have open' : ∀ i < 2, search.OpenAt i := by
    have first : search.OpenAt 0 := by decide +kernel
    have second : search.OpenAt 1 := by
      unfold OpenAt
      simp only [scoredAt, candidatesAt, frontier, breed, selected, ranked_eq_foldr]
      decide +kernel
    intro i less
    rcases Nat.lt_succ_iff_lt_or_eq.mp less with less | rfl
    · obtain rfl : i = 0 := by omega
      exact first
    · exact second
  obtain ⟨-, empty, ends⟩ := dies_out_of_no_extensions valid rfl
  have third := empty 2 (by omega)
  have fails := @result_of_candidatesAt_eq_nil search 2 0 valid rfl open' third
  refine ⟨one, (open' 1 (by decide)).populated, third, ?_⟩
  rcases ends (by decide) with ⟨best, tally, solved⟩ | ⟨g, -, failures, invalid⟩ | extinct
  · cases fails.symm.trans solved
  · cases fails.symm.trans invalid
  · rw [one] at extinct
    exact extinct

end Search

end PatternSearch
