import PatternSearch.Proofs.Search.Reports

/-!
# Selection

Candidates are ranked by their scores and, where these are equal, by their positions. This order of the
positions is strict, so a list can be ranked in one way only, and the selected candidates are the first
ones of it. The best candidate is the first of all: a generation is summed up by the candidate that a
search without a solution ends with.
-/

namespace PatternSearch

/-! ## Rankings -/

/-- A higher score comes first, and of equal scores the one with the earlier position. -/
def Precedes (a b : Candidate × Nat) : Prop :=
  b.1.score < a.1.score ∨ b.1.score = a.1.score ∧ a.2 < b.2

instance (a b : Candidate × Nat) : Decidable (Precedes a b) := inferInstanceAs (Decidable (_ ∨ _))

theorem Precedes.asymm {a b : Candidate × Nat} (h : Precedes a b) (h' : Precedes b a) : False := by
  unfold Precedes at h h'
  omega

/-- All candidates of a list, each with its position there, one preceding the next. -/
structure IsStanding (standing : List (Candidate × Nat)) (candidates : List Candidate) : Prop where
  perm : standing.Perm candidates.zipIdx
  ordered : standing.Pairwise Precedes

/-- The ranking with the positions kept. -/
def standing (candidates : List Candidate) : List (Candidate × Nat) :=
  candidates.zipIdx.mergeSort (List.zipIdxLE fun a b => b.score ≤ a.score)

section Rankings

variable {candidates : List Candidate}

theorem map_fst_standing (candidates : List Candidate) :
    (standing candidates).map Prod.fst = ranked candidates :=
  List.mergeSort_zipIdx

theorem standing_perm (candidates : List Candidate) :
    (standing candidates).Perm candidates.zipIdx :=
  List.mergeSort_perm _ _

/-- No two candidates have one position, so positions that are not in order are in the other order. -/
theorem isStanding_standing (candidates : List Candidate) :
    IsStanding (standing candidates) candidates where
  perm := standing_perm candidates
  ordered := by
    have sorted : (standing candidates).Pairwise _ := List.pairwise_mergeSort
      (List.zipIdxLE_trans ranks_trans) (List.zipIdxLE_total ranks_total) candidates.zipIdx
    have positions : ((standing candidates).map Prod.snd).Nodup := by
      rw [((standing_perm candidates).map Prod.snd).nodup_iff, List.zipIdx_map_snd]
      exact List.nodup_range'
    refine (sorted.and (List.pairwise_map.mp positions)).imp ?_
    rintro ⟨c, i⟩ ⟨d, j⟩ ⟨le, distinct⟩
    simp only [List.zipIdxLE, decide_eq_true_eq] at le
    change i ≠ j at distinct
    change d.score < c.score ∨ d.score = c.score ∧ i < j
    split at le
    · split at le
      · have earlier := of_decide_eq_true le
        omega
      · omega
    · cases le

theorem IsStanding.unique {a b : List (Candidate × Nat)} (h : IsStanding a candidates)
    (h' : IsStanding b candidates) : a = b :=
  List.Perm.eq_of_pairwise (fun _ _ _ _ before after => (before.asymm after).elim) h.ordered h'.ordered
    (h.perm.trans h'.perm.symm)

theorem IsStanding.length_eq {a : List (Candidate × Nat)} (h : IsStanding a candidates) :
    a.length = candidates.length :=
  h.perm.length_eq.trans List.length_zipIdx

/-- What is kept precedes what is dropped, wherever the cut is. -/
theorem IsStanding.precedes {a : List (Candidate × Nat)} (h : IsStanding a candidates) (count : Nat) :
    ∀ kept ∈ a.take count, ∀ dropped ∈ a.drop count, Precedes kept dropped := by
  have ordered := h.ordered
  rw [← List.take_append_drop count a, List.pairwise_append] at ordered
  exact ordered.2.2

end Rankings

/-! ## Summaries -/

namespace Search

variable {search : Search}

/-- The last two events of a search without a solution name its outcome. -/
theorem events_of_timedOut {outcome : Outcome} (result : search.run.result = .ok outcome)
    (timedOut : outcome.ending = .timedOut) :
    ∃ n best earlier, best? (search.scoredAt n) = some best ∧
      (ranked (search.scoredAt n)).head? = some best ∧ outcome.best = best.snapshot ∧
      search.run.events = earlier ++
        [.summary n (search.scoredAt n).length best.score search.examples.goal best.wholeSource,
          .stopped .timedOut (n + 1) best.wholeSource] := by
  cases valid : search.settings.defect? with
  | some defect =>
    rw [run_of_defect valid] at result
    cases result
  | none =>
    obtain ⟨n, endsAt⟩ := exists_endsAt valid
    cases ends_of_endsAt valid endsAt with
    | unpopulated empty reports result' left => cases result'.symm.trans result
    | unscored populated empty reports result' left => cases result'.symm.trans result
    | won best winner reports result' left =>
      cases result'.symm.trans result
      cases timedOut
    | spent best isOpen top reports result' left =>
      cases result'.symm.trans result
      have first := (best?_eq_head? (search.scoredAt n)).trans top
      have summary : (search.seed.turns n).summary (search.scoredAt n) =
          [.summary n (search.scoredAt n).length best.score search.examples.goal
            best.wholeSource] := by
        rw [Search.summary, first, turns_generation, turns_examples, seed_generation, seed_examples,
          Nat.zero_add]
        rfl
      have last := proceed_zero ((search.isOpen_turns n).mpr isOpen) ((scored_turns search n).symm ▸ top)
      refine ⟨n, best, search.logBefore n ++ (search.seed.turns n).tellings (search.scoredAt n), first,
        top, rfl, ?_⟩
      rw [run_eq_after_lastTurn valid endsAt, last, Run.after_after, Run.after_events, log, scored_turns,
        summary, ← search.generations_countedAt n]
      simp only [List.append_assoc]
      rfl

end Search

/-! ## Selection -/

/-- The selected candidates are the first ones of the only ranking, and the best candidate is the first
of them all, in the summary of the last generation as in the outcome of a search without a solution. -/
theorem selected_first_of_standing (candidates : List Candidate) (search : Search) :
    (∃ standing, IsStanding standing candidates ∧
      (∀ other, IsStanding other candidates → other = standing) ∧
      ranked candidates = standing.map Prod.fst ∧
      (∀ count, selected candidates count =
          (standing.take (min count candidates.length)).map Prod.fst ∧
        ∀ kept ∈ standing.take count, ∀ dropped ∈ standing.drop count,
          dropped.1.score ≤ kept.1.score ∧ (dropped.1.score = kept.1.score → kept.2 < dropped.2)) ∧
      best? candidates = standing.head?.map Prod.fst) ∧
    ∀ outcome, search.run.result = .ok outcome → outcome.ending = .timedOut →
      ∃ n best earlier, best? (search.scoredAt n) = some best ∧
        (ranked (search.scoredAt n)).head? = some best ∧ outcome.best = best.snapshot ∧
        search.run.events = earlier ++
          [.summary n (search.scoredAt n).length best.score search.examples.goal best.wholeSource,
            .stopped .timedOut (n + 1) best.wholeSource] := by
  have stands := isStanding_standing candidates
  have positions := map_fst_standing candidates
  refine ⟨⟨standing candidates, stands, fun other h => h.unique stands, positions.symm, ?_, ?_⟩,
    fun outcome => Search.events_of_timedOut⟩
  · intro count
    constructor
    · rw [selected, ← positions, ← List.map_take, ← stands.length_eq, ← List.take_eq_take_min]
    · intro kept inFront dropped behind
      have precedes := stands.precedes count kept inFront dropped behind
      unfold Precedes at precedes
      constructor
      · omega
      · omega
  · rw [best?_eq_head?, ← positions, List.head?_map]

/-- Two pairs of equal scores, cut within the second pair; and a search whose two candidates differ. -/
theorem selected_first_of_ties :
    let scored (id : Nat) (score : Int) : Candidate := { id, fragments := [], generation := 0, score }
    let candidates := [scored 0 1, scored 1 2, scored 2 1, scored 3 2]
    let search : Search :=
      { settings := { seeds := [⟨"ab"⟩], maxGenerations := 1 }, examples := ⟨["xyz", "abc"], []⟩ }
    selected candidates 3 = [scored 1 2, scored 3 2, scored 0 1] ∧
    best? candidates = some (scored 1 2) ∧
    (∀ other, IsStanding other candidates →
      other = [(scored 1 2, 1), (scored 3 2, 3), (scored 0 1, 0), (scored 2 1, 2)]) ∧
    ((scored 2 1).score ≤ (scored 0 1).score ∧ 0 < 2) ∧
    ∃ n count earlier, search.run.events = earlier ++
      [.summary n count 1 2 "^ab$", .stopped .timedOut (n + 1) "^ab$"] := by
  intro scored candidates search
  have late : search.run.result = .ok ⟨.timedOut,
      ⟨0, 0, none, [⟨"ab"⟩], 1, .ofNat 2 / .ofNat 3, "^ab$"⟩, ⟨1, 2, 0, .zero⟩⟩ := by
    change (search.seed.proceed 0).result = _
    rw [Search.proceed.eq_def]
    simp only [ranked_eq_foldr]
    decide +kernel
  obtain ⟨⟨standing, stands, unique, -, cut, first⟩, ends⟩ :=
    selected_first_of_standing candidates search
  have known : IsStanding [(scored 1 2, 1), (scored 3 2, 3), (scored 0 1, 0), (scored 2 1, 2)]
      candidates := ⟨by decide, by decide⟩
  obtain rfl := unique _ known
  obtain ⟨kept, order⟩ := cut 3
  obtain ⟨least, earlier'⟩ := order (scored 0 1, 0) (by decide) (scored 2 1, 2) (by decide)
  obtain ⟨n, best, earlier, -, -, same, events⟩ := ends _ late rfl
  obtain ⟨-, -, -, -, score, -, pattern⟩ := Snapshot.mk.inj same
  change 1 = best.score at score
  change "^ab$" = best.wholeSource at pattern
  rw [← score, ← pattern] at events
  exact ⟨kept, first, unique, ⟨least, earlier' rfl⟩, n, _, earlier, events⟩

end PatternSearch
