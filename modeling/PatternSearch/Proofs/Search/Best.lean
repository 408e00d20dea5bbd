import PatternSearch.Ranking

/-!
# The best candidate

The candidate at the head of the ranking is the earliest one with the highest score.
-/

namespace PatternSearch

/-- All candidates before it score less, and none after it scores more. -/
def IsEarliestBest (best : Candidate) (candidates : List Candidate) : Prop :=
  ∃ before after, candidates = before ++ best :: after ∧
    (∀ c ∈ before, c.score < best.score) ∧ ∀ c ∈ after, c.score ≤ best.score

theorem IsEarliestBest.mem {best : Candidate} {candidates : List Candidate}
    (h : IsEarliestBest best candidates) : best ∈ candidates := by
  obtain ⟨before, after, rfl, -⟩ := h
  exact List.mem_append_right before List.mem_cons_self

theorem ranked_ne_nil {candidates : List Candidate} (h : candidates ≠ []) :
    ranked candidates ≠ [] := by
  intro empty
  have length := congrArg List.length empty
  rw [ranked, List.length_mergeSort] at length
  exact h (List.length_eq_zero_iff.mp length)

theorem ranks_trans (a b c : Candidate) (hab : decide (b.score ≤ a.score) = true)
    (hbc : decide (c.score ≤ b.score) = true) : decide (c.score ≤ a.score) = true := by
  simp only [decide_eq_true_eq] at *
  omega

theorem ranks_total (a b : Candidate) :
    (decide (b.score ≤ a.score) || decide (a.score ≤ b.score)) = true := by
  simp only [Bool.or_eq_true, decide_eq_true_eq]
  omega

/-- Sorting is stable: each candidate is inserted before those that follow it, unless they score
more. -/
theorem ranked_cons (c : Candidate) (rest : List Candidate) :
    ∃ front back, ranked (c :: rest) = front ++ c :: back ∧ ranked rest = front ++ back ∧
      ∀ d ∈ front, c.score < d.score := by
  obtain ⟨front, back, whole, part, above⟩ :=
    @List.mergeSort_cons _ (fun a b : Candidate => b.score ≤ a.score) ranks_trans ranks_total c rest
  refine ⟨front, back, whole, part, ?_⟩
  intro d mem
  simpa using above d mem

theorem pairwise_ranked (candidates : List Candidate) :
    (ranked candidates).Pairwise fun a b => b.score ≤ a.score := by
  have sorted := @List.pairwise_mergeSort _ (fun a b : Candidate => b.score ≤ a.score)
    ranks_trans ranks_total candidates
  exact sorted.imp fun h => of_decide_eq_true h

/-- Puts a candidate before those that it is not below. -/
def insertRanked (c : Candidate) : List Candidate → List Candidate
  | [] => [c]
  | d :: rest => if c.score < d.score then d :: insertRanked c rest else c :: d :: rest

theorem insertRanked_append {c : Candidate} {front back : List Candidate}
    (above : ∀ d ∈ front, c.score < d.score) (below : ∀ d ∈ back, d.score ≤ c.score) :
    insertRanked c (front ++ back) = front ++ c :: back := by
  induction front with
  | nil =>
    cases back with
    | nil => rfl
    | cons d back =>
      have notAbove : ¬c.score < d.score := Int.not_lt.mpr (below d List.mem_cons_self)
      simp [insertRanked, notAbove]
  | cons d front ih =>
    have rest := ih fun e mem => above e (List.mem_cons_of_mem d mem)
    simp [insertRanked, above d List.mem_cons_self, rest]

/-- The ranking by insertion, which can be evaluated. -/
theorem ranked_eq_foldr (candidates : List Candidate) :
    ranked candidates = candidates.foldr insertRanked [] := by
  induction candidates with
  | nil => simp [ranked]
  | cons c rest ih =>
    obtain ⟨front, back, whole, part, above⟩ := ranked_cons c rest
    have sorted := pairwise_ranked (c :: rest)
    rw [whole, List.pairwise_append, List.pairwise_cons] at sorted
    rw [List.foldr_cons, ← ih, part, whole, insertRanked_append above sorted.2.1.1]

theorem isEarliestBest_of_head? {best : Candidate} {candidates : List Candidate}
    (h : (ranked candidates).head? = some best) : IsEarliestBest best candidates := by
  induction candidates with
  | nil => simp [ranked] at h
  | cons c rest ih =>
    obtain ⟨front, back, whole, part, above⟩ := ranked_cons c rest
    cases front with
    | nil =>
      have first : c = best := by simpa [whole] using h
      subst first
      refine ⟨[], rest, rfl, ?_, ?_⟩
      · intro d mem
        cases mem
      · intro d mem
        have sorted := pairwise_ranked (c :: rest)
        rw [whole, List.nil_append, List.pairwise_cons] at sorted
        apply sorted.1
        rw [List.nil_append] at part
        rw [← part]
        exact List.mem_mergeSort.mpr mem
    | cons top front =>
      have first : top = best := by simpa [whole] using h
      subst first
      obtain ⟨before, after, split, less, atMost⟩ := ih (by rw [part]; rfl)
      refine ⟨c :: before, after, by rw [split, List.cons_append], ?_, atMost⟩
      intro d mem
      rcases List.mem_cons.mp mem with rfl | mem
      · exact above top List.mem_cons_self
      · exact less d mem

/-! ## Picking the best one -/

theorem better_assoc (a b c : Candidate) : better (better a b) c = better a (better b c) := by
  unfold better
  by_cases first : a.score < b.score
  · by_cases second : b.score < c.score
    · rw [if_pos first, if_pos second, if_pos (Int.lt_trans first second)]
    · rw [if_pos first, if_neg second, if_pos first]
  · by_cases second : b.score < c.score
    · rw [if_neg first, if_pos second]
    · rw [if_neg first, if_neg second, if_neg first, if_neg (by omega)]

instance : Std.Associative better := ⟨better_assoc⟩

theorem best?_cons_cons (c d : Candidate) (rest : List Candidate) :
    best? (c :: d :: rest) = (best? (d :: rest)).map (better c) := by
  rw [best?, List.foldl_cons, List.foldl_assoc]
  rfl

theorem head?_insertRanked (c : Candidate) (rest : List Candidate) :
    (insertRanked c rest).head? = some (rest.head?.elim c (better c)) := by
  cases rest with
  | nil => rfl
  | cons d rest =>
    rw [insertRanked, List.head?_cons, Option.elim, better]
    split
    · rfl
    · rfl

/-- Picking the best one from left to right and sorting agree. -/
theorem best?_eq_head? (candidates : List Candidate) :
    best? candidates = (ranked candidates).head? := by
  rw [ranked_eq_foldr]
  induction candidates with
  | nil => rfl
  | cons c rest ih =>
    rw [List.foldr_cons, head?_insertRanked, ← ih]
    cases rest with
    | nil => rfl
    | cons d rest =>
      rw [best?_cons_cons]
      rfl

end PatternSearch
