import PatternSearch.Proofs.Search.Conservation

/-!
# Lineage

Each candidate of a run carries its place in it: an identifier of its own, the generation that it is
evaluated in, and the identifier of the kept candidate that it is a child of. Generations are counted
in 64 bits, so they are right as long as there are fewer candidates than that.
-/

namespace PatternSearch

/-- One of the children that breeding makes of a parent, made after it. -/
structure Candidate.IsChildOf (c parent : Candidate) (breeding : Breeding) : Prop where
  parent_eq : c.parent = some parent.id
  fragments : c.fragments ∈ breeding.children parent.fragments
  younger : parent.id < c.id

namespace Search

variable {search : Search} {g n : Nat}

/-! ## Parents -/

/-- All that breeding makes are children of the kept candidates, with new identifiers. -/
theorem exists_parent_of_mem_breed {scored : List Candidate} {c : Candidate}
    (mem : c ∈ (search.breed scored).2.1) :
    ∃ parent ∈ selected scored search.settings.keep,
      c.fragments ∈ search.settings.breeding.children parent.fragments ∧ search.nextId ≤ c.id ∧
      c = parent.child c.id c.fragments := by
  obtain ⟨⟨⟨parent, fragments⟩, id⟩, numbered, rfl⟩ := List.mem_map.mp mem
  obtain ⟨parent', kept, inner⟩ := List.mem_flatMap.mp (List.fst_mem_of_mem_zipIdx numbered)
  obtain ⟨fragments', child, same⟩ := List.mem_map.mp inner
  cases same
  exact ⟨parent, kept, child, List.le_snd_of_mem_zipIdx numbered, rfl⟩

theorem candidatesAt_succ (search : Search) (g : Nat) :
    search.candidatesAt (g + 1) = ((search.frontier g).1.breed (search.scoredAt g)).2.1 := rfl

theorem exists_parent_of_mem_candidatesAt {c : Candidate} (mem : c ∈ search.candidatesAt (g + 1)) :
    ∃ parent ∈ selected (search.scoredAt g) search.settings.keep,
      c.IsChildOf parent search.settings.breeding ∧
      c.generation = Candidate.nextGeneration parent.generation := by
  have settings := (search.frontier_turns g).2.2
  rw [candidatesAt_succ] at mem
  obtain ⟨parent, kept, child, new, same⟩ := exists_parent_of_mem_breed mem
  rw [settings] at kept child
  obtain ⟨d, inner, m, -, rfl⟩ := mem_survivors.mp (selected_subset kept)
  have old : d.id < (search.frontier g).1.nextId :=
    (search.isNumbered_frontier g).id_lt_nextId
      (search.mem_candidatesBefore (Nat.lt_succ_self g) inner)
  refine ⟨_, kept, ⟨?_, child, Nat.lt_of_lt_of_le old new⟩, ?_⟩
  · rw [same]
    rfl
  · rw [same]
    rfl

theorem parent_eq_none {c : Candidate} (mem : c ∈ search.candidatesAt 0) : c.parent = none := by
  obtain ⟨numbered, -, rfl⟩ := List.mem_map.mp mem
  rfl

/-! ## Generations -/

/-- The generation of a candidate, as far as it can be counted. -/
theorem generation_of_mem_candidatesAt {c : Candidate} (mem : c ∈ search.candidatesAt g) :
    c.generation = g % UInt64.size := by
  induction g generalizing c with
  | zero =>
    obtain ⟨numbered, -, rfl⟩ := List.mem_map.mp mem
    rfl
  | succ g ih =>
    obtain ⟨parent, kept, -, generation⟩ := exists_parent_of_mem_candidatesAt mem
    obtain ⟨d, inner, m, -, rfl⟩ := mem_survivors.mp (selected_subset kept)
    -- The parent is a scored candidate of the generation before, and scoring leaves that as it is.
    rw [generation]
    change Candidate.nextGeneration d.generation = _
    rw [ih inner, Candidate.nextGeneration, Nat.mod_add_mod]

/-- A run makes at least one candidate in each generation that it goes through. -/
theorem le_length_candidatesBefore (populated : ∀ i < g, search.candidatesAt i ≠ []) :
    g ≤ (search.candidatesBefore g).length := by
  induction g with
  | zero => exact Nat.zero_le _
  | succ g ih =>
    have earlier := ih fun i less => populated i (Nat.lt_succ_of_lt less)
    have here := List.length_pos_iff.mpr (populated g (Nat.lt_succ_self g))
    rw [candidatesBefore_succ, List.length_append]
    omega

/-- A generation with a candidate is not beyond the number of candidates. -/
theorem lt_length_candidatesBefore {c : Candidate} (endsAt : search.EndsAt n) (le : g ≤ n)
    (mem : c ∈ search.candidatesAt g) : g < (search.candidatesBefore (n + 1)).length := by
  have populated : ∀ i < g + 1, search.candidatesAt i ≠ [] := by
    intro i less
    rcases Nat.lt_succ_iff_lt_or_eq.mp less with earlier | rfl
    · intro empty
      exact (endsAt.before i (by omega)).1 (scoredAt_eq_nil empty)
    · exact List.ne_nil_of_mem mem
  exact (le_length_candidatesBefore populated).trans
    (search.candidatesBefore_isPrefix (Nat.succ_le_succ le)).length_le

/-! ## Reports -/

theorem ids_survivors_sublist (examples : Examples) (population : List Candidate) :
    ((evaluateAll examples population).survivors.map (·.id)).Sublist (population.map (·.id)) := by
  rw [survivors_eq]
  induction population with
  | nil => exact List.Sublist.refl []
  | cons c rest ih =>
    cases judged : (c.judge examples).1 with
    | none =>
      simp only [List.filterMap_cons, judged, List.map_cons]
      exact ih.cons c.id
    | some d =>
      obtain ⟨m, -, rfl⟩ := Candidate.judge_eq_some.mp judged
      simp only [List.filterMap_cons, judged, List.map_cons]
      exact ih.cons_cons c.id

/-- Reports come in the order in which their candidates are made. -/
theorem pairwise_reports (valid : search.settings.defect? = none) (endsAt : search.EndsAt n) :
    (search.run.reports.map (·.candidate)).Pairwise (· < ·) := by
  have told : ((List.range (n + 1)).flatMap search.reportsAt).map (·.candidate) =
      (evaluateAll search.examples (search.candidatesBefore (n + 1))).survivors.map (·.id) := by
    rw [survivors_candidatesBefore, List.map_flatMap, List.map_flatMap]
    simp only [reportsAt, List.map_map]
    rfl
  have order := (search.isNumbered_frontier n).pairwise_ids.sublist
    (ids_survivors_sublist search.examples (search.candidatesBefore (n + 1)))
  rw [← told] at order
  exact order.sublist ((reports_isPrefix valid endsAt).sublist.map _)

/-! ## A whole run -/

/-- The identity and lineage of the candidates of a run, and the identifiers that any requests give. -/
theorem lineage_of_run (valid : search.settings.defect? = none)
    (few : search.run.search.nextId < UInt64.size) :
    ∃ n, search.EndsAt n ∧
      (search.candidatesBefore (n + 1)).map (·.id) = List.range search.run.search.nextId ∧
      (search.run.reports.map (·.candidate)).Pairwise (· < ·) ∧
      (∀ g ≤ n, ∀ c ∈ search.candidatesAt g, c.generation = g) ∧
      (∀ c ∈ search.candidatesAt 0, c.parent = none) ∧
      (∀ g, (selected (search.scoredAt g) search.settings.keep).length ≤ search.settings.keep ∧
        ∀ c ∈ search.candidatesAt (g + 1),
          ∃ parent ∈ selected (search.scoredAt g) search.settings.keep,
            c.IsChildOf parent search.settings.breeding) ∧
      ∀ (state : Search) (requests : List Request),
        IsNumbered (if requests.any Request.isSeed then 0 else state.nextId)
          (state.answers requests).1 (state.answers requests).2 ∧
        ((state.answers requests).2.map (·.id)).Pairwise (· < ·) := by
  obtain ⟨n, endsAt⟩ := exists_endsAt valid
  have nextId := (left_of_endsAt valid endsAt).2.1
  refine ⟨n, endsAt, ?_, pairwise_reports valid endsAt, ?_, fun c => parent_eq_none, ?_, ?_⟩
  · rw [(search.isNumbered_frontier n).ids, nextId, List.range_eq_range']
  · intro g le c mem
    have bound := lt_length_candidatesBefore endsAt le mem
    rw [generation_of_mem_candidatesAt mem]
    exact Nat.mod_eq_of_lt (by omega)
  · intro g
    refine ⟨length_selected_le _ _, ?_⟩
    intro c mem
    obtain ⟨parent, kept, child, -⟩ := exists_parent_of_mem_candidatesAt mem
    exact ⟨parent, kept, child⟩
  · intro state requests
    have numbered := state.isNumbered_answers requests
    exact ⟨numbered, numbered.pairwise_ids⟩

/-- Two seeds and their four children, in two generations. -/
theorem lineage_of_pinned_letter :
    let search : Search :=
      { settings := { seeds := [⟨"a+"⟩], extensions := [⟨"b"⟩], maxCount := 1, maxGenerations := 2 }
        examples := ⟨["x"], ["x"]⟩ }
    search.run.search.nextId = 6 ∧ (search.run.reports.map (·.candidate)).Pairwise (· < ·) ∧
      (∀ c ∈ search.candidatesAt 1, c.generation = 1) ∧
      ∃ c ∈ search.candidatesAt 1, c.id = 4 ∧ c.fragments = [⟨"a\x7b1\x7d"⟩] ∧
        ∃ parent ∈ selected (search.scoredAt 0) 5, c.IsChildOf parent search.settings.breeding := by
  intro search
  have valid : search.settings.defect? = none := by decide
  have first : search.OpenAt 0 := by decide +kernel
  have two : search.EndsAt 1 := by
    refine ⟨by decide, ?_, Or.inl rfl⟩
    intro i less
    obtain rfl : i = 0 := by omega
    exact first
  have six : (search.candidatesBefore 2).length = 6 := by
    rw [search.candidatesBefore_succ 1]
    simp only [candidatesAt, frontier, breed, selected, ranked_eq_foldr]
    decide +kernel
  have nextId : search.run.search.nextId = 6 := (left_of_endsAt valid two).2.1.trans six
  have child : ∃ c ∈ search.candidatesAt 1, c.id = 4 ∧ c.fragments = [⟨"a\x7b1\x7d"⟩] := by
    simp only [candidatesAt, frontier, breed, selected, ranked_eq_foldr]
    decide +kernel
  obtain ⟨n, endsAt, -, reports, generations, -, parents, -⟩ := lineage_of_run valid
    (by rw [nextId]; decide)
  obtain rfl := endsAt.unique two
  obtain ⟨c, mem, id, fragments⟩ := child
  exact ⟨nextId, reports, generations 1 (Nat.le_refl 1), c, mem, id, fragments,
    (parents 0).2 c mem⟩

end Search

end PatternSearch
