import PatternSearch.Proofs.Search.Offspring
import PatternSearch.Proofs.Search.Refinement

/-!
# The space of a search

The candidates that a run evaluates in a generation (`frontier_turns`) are as many steps away from
the seeds as the generation counts. This bounds the length of their sequences of fragments, and with
the number of kept candidates the size of the next generation.
-/

namespace PatternSearch

namespace Settings

theorem isEmpty_of_emptyIn? {vocabulary : Vocabulary} {fragments : List Fragment}
    (h : emptyIn? vocabulary fragments = none) : ∀ fragment ∈ fragments, fragment.isEmpty = false := by
  rw [emptyIn?, Option.map_eq_none_iff, List.findIdx?_eq_none_iff] at h
  exact h

/-- Valid settings have no empty fragment. -/
theorem isEmpty_eq_false {settings : Settings} (valid : settings.defect? = none) :
    (∀ fragment ∈ settings.seeds, fragment.isEmpty = false) ∧
      ∀ fragment ∈ settings.extensions, fragment.isEmpty = false := by
  have both : (emptyIn? .seed settings.seeds).or (emptyIn? .extension settings.extensions) = none := by
    rw [defect?] at valid
    split_ifs at valid
    exact valid
  rw [Option.or_eq_none_iff] at both
  exact ⟨isEmpty_of_emptyIn? both.1, isEmpty_of_emptyIn? both.2⟩

end Settings

theorem selected_subset {scored : List Candidate} {count : Nat} {c : Candidate}
    (mem : c ∈ selected scored count) : c ∈ scored :=
  List.mem_mergeSort.mp (List.mem_of_mem_take mem)

theorem length_selected_le (scored : List Candidate) (count : Nat) :
    (selected scored count).length ≤ count := List.length_take_le count _

theorem length_flatMap_le {α β : Type} {f : α → List β} {bound : Nat} {items : List α}
    (h : ∀ a ∈ items, (f a).length ≤ bound) : (items.flatMap f).length ≤ items.length * bound := by
  induction items with
  | nil => simp
  | cons a rest ih =>
    have first := h a List.mem_cons_self
    have others := ih fun b mem => h b (List.mem_cons_of_mem a mem)
    rw [List.flatMap_cons, List.length_append, List.length_cons, Nat.succ_mul]
    omega

namespace Search

variable (search : Search)

/-- The fragments of the children, in order. -/
theorem breed_fragments (scored : List Candidate) :
    (search.breed scored).2.1.map (·.fragments) =
      (selected scored search.settings.keep).flatMap fun parent =>
        search.settings.breeding.children parent.fragments := by
  have numbered : (search.breed scored).2.1.map (·.fragments) =
      ((((selected scored search.settings.keep).flatMap fun parent =>
        (search.settings.breeding.children parent.fragments).map (parent, ·)).zipIdx
          search.nextId).map (·.1)).map (·.2) := by
    rw [breed, List.map_map, List.map_map]
    rfl
  rw [numbered, List.zipIdx_map_fst, List.map_flatMap]
  simp only [List.map_map, Function.comp_def, List.map_id']

theorem seed_fragments :
    search.seed.population.map (·.fragments) = selections search.settings.seeds := by
  have numbered : search.seed.population.map (·.fragments) =
      (selections search.settings.seeds).zipIdx.map (·.1) := by
    rw [seed, List.map_map]
    rfl
  rw [numbered, List.zipIdx_map_fst]

/-- The sequences of a generation are the children of the candidates that are kept. -/
theorem candidatesAt_succ_fragments (g : Nat) :
    (search.candidatesAt (g + 1)).map (·.fragments) =
      (selected (search.scoredAt g) search.settings.keep).flatMap fun parent =>
        search.settings.breeding.children parent.fragments := by
  have bred := (search.frontier g).1.breed_fragments (search.scoredAt g)
  rw [(search.frontier_turns g).2.2] at bred
  exact bred

variable {search}

/-- A scored candidate has the fragments of a candidate of its generation. -/
theorem exists_of_mem_scoredAt {g : Nat} {c : Candidate} (mem : c ∈ search.scoredAt g) :
    ∃ d ∈ search.candidatesAt g, c.fragments = d.fragments := by
  obtain ⟨d, inner, m, -, rfl⟩ := mem_survivors.mp mem
  exact ⟨d, inner, rfl⟩

/-- The invariant of the generations. -/
theorem inReach_of_mem_candidatesAt {g : Nat} {c : Candidate} (mem : c ∈ search.candidatesAt g) :
    InReach search.settings g c.fragments := by
  induction g generalizing c with
  | zero =>
    have found : c.fragments ∈ search.seed.population.map (·.fragments) := List.mem_map_of_mem mem
    rw [seed_fragments] at found
    exact InReach.of_mem_selections found
  | succ g ih =>
    have found : c.fragments ∈ (search.candidatesAt (g + 1)).map (·.fragments) :=
      List.mem_map_of_mem mem
    rw [candidatesAt_succ_fragments] at found
    obtain ⟨parent, kept, child⟩ := List.mem_flatMap.mp found
    obtain ⟨d, inner, same⟩ := exists_of_mem_scoredAt (selected_subset kept)
    rw [same] at child
    exact (ih inner).of_mem_children child

theorem length_candidatesAt_zero (search : Search) :
    (search.candidatesAt 0).length = 2 ^ search.settings.seeds.length := by
  rw [← length_selections, ← seed_fragments, List.length_map]
  rfl

theorem length_candidatesAt_succ_le (search : Search) (g : Nat) :
    (search.candidatesAt (g + 1)).length ≤ search.settings.keep *
      (search.settings.extensions.length +
        (search.settings.seeds.length + g) * (search.settings.maxCount + 1)) := by
  rw [← List.length_map (·.fragments), candidatesAt_succ_fragments]
  refine (length_flatMap_le ?_).trans (Nat.mul_le_mul_right _ (length_selected_le _ _))
  intro parent kept
  obtain ⟨d, inner, same⟩ := exists_of_mem_scoredAt (selected_subset kept)
  have short := (inReach_of_mem_candidatesAt inner).length_le
  rw [same]
  exact (Breeding.length_children_le d.fragments).trans
    (Nat.add_le_add_left (Nat.mul_le_mul_right _ short) _)

/-- The candidates of a search: what they are made of, and how many there are. -/
theorem candidatesAt_in_reach (valid : search.settings.defect? = none) :
    (∀ g, ∀ c ∈ search.candidatesAt g, InReach search.settings g c.fragments ∧
      (∀ fragment ∈ c.fragments, fragment.isEmpty = false) ∧
      c.fragments.length ≤ search.settings.seeds.length + g) ∧
    (search.candidatesAt 0).length = 2 ^ search.settings.seeds.length ∧
    ∀ g, (search.candidatesAt (g + 1)).length ≤ search.settings.keep *
      (search.settings.extensions.length +
        (search.settings.seeds.length + g) * (search.settings.maxCount + 1)) := by
  obtain ⟨seeds, extensions⟩ := Settings.isEmpty_eq_false valid
  refine ⟨?_, search.length_candidatesAt_zero, search.length_candidatesAt_succ_le⟩
  intro g c mem
  have reached := inReach_of_mem_candidatesAt mem
  exact ⟨reached, reached.isEmpty_eq_false seeds extensions, reached.length_le⟩

/-- A pinned seed before an extension: two steps, in the third generation. -/
theorem pinned_letter_in_reach :
    let search : Search :=
      { settings := { seeds := [⟨"a+"⟩], extensions := [⟨"b"⟩], maxCount := 2, keep := 9 }
        examples := ⟨["aab"], ["b"]⟩ }
    search.settings.defect? = none ∧
      (∃ c ∈ search.candidatesAt 2, c.fragments = [⟨"a\x7b2\x7d"⟩, ⟨"b"⟩] ∧
        InReach search.settings 2 c.fragments) ∧
      (search.candidatesAt 1).length ≤ 9 * (1 + (1 + 0) * (2 + 1)) := by
  intro search
  have valid : search.settings.defect? = none := by decide
  have bred : ∃ c ∈ search.candidatesAt 2, c.fragments = [⟨"a\x7b2\x7d"⟩, ⟨"b"⟩] := by
    simp only [candidatesAt, frontier, breed, selected, ranked_eq_foldr]
    decide +kernel
  obtain ⟨c, mem, fragments⟩ := bred
  obtain ⟨inside, -, next⟩ := candidatesAt_in_reach valid
  exact ⟨valid, ⟨c, mem, fragments, (inside 2 c mem).1⟩, next 0⟩

end Search

end PatternSearch
