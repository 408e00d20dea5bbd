import Mathlib.Data.List.Range
import PatternSearch.Proofs.Search.Derivation
import PatternSearch.Search

/-!
# The first generation

The selections from a list count down in binary, from the number that is all ones: the digit of a
position says whether the member there is selected, the last digit being for the first member. Positions
are told apart even where members are equal, so every set of positions is selected once. The candidates
of the first generation are the selections in this order, and their identifiers count them.
-/

namespace PatternSearch

/-! ## Positions -/

/-- The positions that the selection with the number `j` takes from a list of `count` members. -/
def takenAt (count j : Nat) : List Nat := (List.range count).filter (2 ^ count - 1 - j).testBit

section Positions

variable {count i j : Nat}

theorem mem_takenAt : i ∈ takenAt count j ↔ i < count ∧ (2 ^ count - 1 - j).testBit i = true := by
  rw [takenAt, List.mem_filter, List.mem_range]

/-- In the first half of the selections the last member is taken. -/
theorem takenAt_succ (less : j < 2 ^ count) :
    takenAt (count + 1) j = takenAt count j ++ [count] := by
  have digits : 2 ^ (count + 1) - 1 - j = 2 ^ count + (2 ^ count - 1 - j) := by
    rw [Nat.pow_succ]
    omega
  have small : 2 ^ count - 1 - j < 2 ^ count := by omega
  rw [takenAt, takenAt, digits, List.range_succ, List.filter_append]
  congr 1
  · apply List.filter_congr
    intro i mem
    exact Nat.testBit_two_pow_add_gt (List.mem_range.mp mem) _
  · simp [Nat.testBit_two_pow_add_eq, Nat.testBit_lt_two_pow small]

/-- In the second half it is not, and the other members are taken as in the first half. -/
theorem takenAt_succ_add (less : j < 2 ^ count) :
    takenAt (count + 1) (2 ^ count + j) = takenAt count j := by
  have digits : 2 ^ (count + 1) - 1 - (2 ^ count + j) = 2 ^ count - 1 - j := by
    rw [Nat.pow_succ]
    omega
  have small : 2 ^ count - 1 - j < 2 ^ count := by omega
  rw [takenAt, takenAt, digits, List.range_succ, List.filter_append]
  simp [Nat.testBit_lt_two_pow small]

/-- Different numbers take different positions. -/
theorem takenAt_inj {j' : Nat} (less : j < 2 ^ count) (less' : j' < 2 ^ count)
    (same : takenAt count j = takenAt count j') : j = j' := by
  have digits : 2 ^ count - 1 - j = 2 ^ count - 1 - j' := by
    apply Nat.eq_of_testBit_eq
    intro i
    by_cases inside : i < count
    · have here : i ∈ takenAt count j ↔ i ∈ takenAt count j' := by rw [same]
      rw [mem_takenAt, mem_takenAt, and_iff_right inside, and_iff_right inside] at here
      exact Bool.eq_iff_iff.mpr here
    · have wide : 2 ^ count ≤ 2 ^ i := Nat.pow_le_pow_right (by decide) (by omega)
      rw [Nat.testBit_lt_two_pow (show 2 ^ count - 1 - j < 2 ^ i by omega),
        Nat.testBit_lt_two_pow (show 2 ^ count - 1 - j' < 2 ^ i by omega)]
  omega

end Positions

/-! ## Selections -/

section Selections

variable {α : Type}

/-- The members of a list at some positions. -/
def membersAt (items : List α) (positions : List Nat) : List α := positions.filterMap (items[·]?)

theorem membersAt_append {items : List α} {positions : List Nat}
    (inside : ∀ i ∈ positions, i < items.length) (more : List α) :
    membersAt (items ++ more) positions = membersAt items positions := by
  apply List.filterMap_congr
  intro i mem
  exact List.getElem?_append_left (inside i mem)

theorem membersAt_range {count : Nat} {positions : List Nat}
    (inside : ∀ i ∈ positions, i < count) : membersAt (List.range count) positions = positions := by
  have same : ∀ i ∈ positions, (List.range count)[i]? = some i :=
    fun i mem => List.getElem?_range (inside i mem)
  rw [membersAt, List.filterMap_congr same, List.filterMap_some]

theorem lt_of_mem_takenAt {count j : Nat} : ∀ i ∈ takenAt count j, i < count :=
  fun _ mem => (mem_takenAt.mp mem).1

/-- The selections in their order. Each further member doubles them, with the member first and without
it then. -/
theorem selections_eq_map (items : List α) : selections items =
    (List.range (2 ^ items.length)).map fun j => membersAt items (takenAt items.length j) := by
  induction items using List.reverseRecOn with
  | nil => rfl
  | append_singleton items item ih =>
    have double : 2 ^ (items ++ [item]).length = 2 ^ items.length + 2 ^ items.length := by
      rw [List.length_append, List.length_singleton, Nat.pow_succ]
      omega
    rw [selections_append_singleton, double, List.range_add, List.map_append, List.map_map, ih,
      List.map_map]
    congr 1
    · apply List.map_congr_left
      intro j mem
      rw [List.length_append, List.length_singleton, takenAt_succ (List.mem_range.mp mem)]
      rw [membersAt, List.filterMap_append, ← membersAt, membersAt_append lt_of_mem_takenAt]
      simp
    · apply List.map_congr_left
      intro j mem
      rw [Function.comp, List.length_append, List.length_singleton,
        takenAt_succ_add (List.mem_range.mp mem), membersAt_append lt_of_mem_takenAt]

theorem getElem?_selections {items : List α} {j : Nat} (less : j < 2 ^ items.length) :
    (selections items)[j]? = some (membersAt items (takenAt items.length j)) := by
  rw [selections_eq_map, List.getElem?_map, List.getElem?_range less]
  rfl

/-- Every set of positions is taken once: it is one of the selections from the positions themselves. -/
theorem existsUnique_takenAt {count : Nat} {positions : List Nat}
    (subset : positions.Sublist (List.range count)) :
    ∃! j, j < 2 ^ count ∧ takenAt count j = positions := by
  have mem := mem_selections.mpr subset
  rw [selections_eq_map, List.length_range, List.mem_map] at mem
  obtain ⟨j, inside, taken⟩ := mem
  rw [membersAt_range lt_of_mem_takenAt] at taken
  have less := List.mem_range.mp inside
  refine ⟨j, ⟨less, taken⟩, ?_⟩
  rintro j' ⟨less', taken'⟩
  exact takenAt_inj less' less (taken'.trans taken.symm)

theorem head?_selections (items : List α) : (selections items).head? = some items := by
  induction items using List.reverseRecOn with
  | nil => rfl
  | append_singleton items item ih =>
    rw [selections_append_singleton, List.head?_append, List.head?_map, ih]
    rfl

/-- The selections by their last member, from the last one of the list to the first, and nothing at the
end: before the last member stands a selection from the members before it. -/
theorem selections_eq_flatMap (items : List α) : selections items =
    (items.zipIdx.reverse.flatMap fun (item, i) =>
      (selections (items.take i)).map (· ++ [item])) ++ [[]] := by
  induction items using List.reverseRecOn with
  | nil => rfl
  | append_singleton items item ih =>
    have earlier : ∀ entry ∈ items.zipIdx.reverse,
        (selections ((items ++ [item]).take entry.2)).map (· ++ [entry.1]) =
          (selections (items.take entry.2)).map (· ++ [entry.1]) := by
      intro entry mem
      have inside := List.snd_lt_of_mem_zipIdx (List.mem_reverse.mp mem)
      rw [List.take_append_of_le_length (by omega)]
    rw [selections_append_singleton, List.zipIdx_append, List.reverse_append]
    simp only [List.zipIdx_singleton, List.reverse_singleton, List.singleton_append,
      List.flatMap_cons, Nat.zero_add, List.take_left']
    rw [List.flatMap_congr earlier, List.append_assoc, ← ih]

theorem getLast?_selections (items : List α) : (selections items).getLast? = some [] := by
  rw [selections_eq_flatMap, List.getLast?_concat]

end Selections

/-! ## Candidates -/

namespace Search

theorem getElem?_seed (search : Search) (j : Nat) : search.seed.population[j]? =
    (selections search.settings.seeds)[j]?.map fun fragments =>
      ({ id := j, fragments, generation := 0 } : Candidate) := by
  rw [seed, List.getElem?_map, List.getElem?_zipIdx, Option.map_map, Nat.zero_add]
  rfl

/-- The candidates of the first generation, by their identifiers. -/
theorem seed_by_position (search : Search) :
    let seeds := search.settings.seeds
    (selections seeds).length = 2 ^ seeds.length ∧
    (∀ j < 2 ^ seeds.length,
      (selections seeds)[j]? = some (membersAt seeds (takenAt seeds.length j)) ∧
      search.seed.population[j]? = some
        { id := j, fragments := membersAt seeds (takenAt seeds.length j), generation := 0 }) ∧
    (∀ positions : List Nat, positions.Sublist (List.range seeds.length) →
      ∃! j, j < 2 ^ seeds.length ∧ takenAt seeds.length j = positions) ∧
    (∀ fragments ∈ selections seeds, fragments.Sublist seeds) ∧
    (selections seeds).head? = some seeds ∧ (selections seeds).getLast? = some [] ∧
    search.seed.population.length = 2 ^ seeds.length ∧ search.seed.nextId = 2 ^ seeds.length := by
  intro seeds
  have length := length_selections seeds
  have population : search.seed.population.length = 2 ^ seeds.length := by
    rw [seed, List.length_map, List.length_zipIdx, length]
  refine ⟨length, ?_, fun positions => existsUnique_takenAt, fun fragments => mem_selections.mp,
    head?_selections seeds, getLast?_selections seeds, population, population⟩
  intro j less
  have entry := getElem?_selections less
  rw [getElem?_seed, entry]
  exact ⟨rfl, rfl⟩

/-- Three seeds of which two are equal: the second of the eight candidates leaves out the first. -/
theorem seed_by_position_repeated :
    let search : Search := { settings := { seeds := [⟨"a"⟩, ⟨"b"⟩, ⟨"a"⟩] }, examples := {} }
    takenAt 3 1 = [1, 2] ∧
    (∃! j, j < 2 ^ 3 ∧ takenAt 3 j = [1, 2]) ∧
    search.seed.population[1]? = some { id := 1, fragments := [⟨"b"⟩, ⟨"a"⟩], generation := 0 } := by
  intro search
  obtain ⟨-, entries, once, -⟩ := search.seed_by_position
  exact ⟨by decide, once [1, 2] (by decide), (entries 1 (by decide)).2.trans (by decide)⟩

end Search

end PatternSearch
