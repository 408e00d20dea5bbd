import Mathlib.Data.List.Induction
import PatternSearch.Proofs.Search.Space

/-!
# Identifiers

Candidates are numbered as they are made. Seeding starts from zero, and breeding goes on from the
next identifier, whoever asks for it and with whatever candidates to breed from. So the candidates
of a run have the numbers from zero, generation after generation.
-/

namespace PatternSearch

/-- What a search can be asked to do by itself. -/
inductive Request where
  | seed
  | breed (scored : List Candidate)

def Request.isSeed : Request → Bool
  | seed => true
  | breed _ => false

namespace Search

/-- The candidates made have the identifiers from `first` to the next one of the search. -/
structure IsNumbered (first : Nat) (search : Search) (made : List Candidate) : Prop where
  ids : made.map (·.id) = List.range' first made.length
  nextId : search.nextId = first + made.length

/-- A search and the candidates that it has made, after one request more. Seeding starts over. -/
def answer (state : Search × List Candidate) : Request → Search × List Candidate
  | .seed => (state.1.seed, state.1.seed.population)
  | .breed scored => ((state.1.breed scored).1, state.2 ++ (state.1.breed scored).2.1)

/-- A search after some requests, and the candidates that it has made since it was last seeded. -/
def answers (search : Search) (requests : List Request) : Search × List Candidate :=
  requests.foldl answer (search, [])

variable (search : Search)

theorem seed_ids : search.seed.population.map (·.id) =
    List.range' 0 search.seed.population.length := by
  rw [seed, List.map_map, List.length_map, List.length_zipIdx]
  exact List.zipIdx_map_snd 0 _

theorem breed_ids (scored : List Candidate) : (search.breed scored).2.1.map (·.id) =
    List.range' search.nextId (search.breed scored).2.1.length := by
  rw [breed, List.map_map, List.length_map, List.length_zipIdx]
  exact List.zipIdx_map_snd search.nextId _

namespace IsNumbered

variable {search} {first : Nat} {made : List Candidate}

theorem seeded (search : Search) : IsNumbered 0 search.seed search.seed.population where
  ids := search.seed_ids
  nextId := (Nat.zero_add _).symm

theorem bred (h : IsNumbered first search made) (scored : List Candidate) :
    IsNumbered first (search.breed scored).1 (made ++ (search.breed scored).2.1) where
  ids := by
    rw [List.map_append, h.ids, breed_ids, h.nextId, List.length_append, List.range'_append_1]
  nextId := by
    change search.nextId + (search.breed scored).2.1.length = _
    rw [h.nextId, List.length_append, Nat.add_assoc]

theorem pairwise_ids (h : IsNumbered first search made) :
    (made.map (·.id)).Pairwise (· < ·) := by
  rw [h.ids]
  exact List.pairwise_lt_range'

theorem id_lt_nextId (h : IsNumbered first search made) {c : Candidate} (mem : c ∈ made) :
    c.id < search.nextId := by
  have found : c.id ∈ made.map (·.id) := List.mem_map_of_mem mem
  rw [h.ids, List.mem_range'_1] at found
  have nextId := h.nextId
  omega

end IsNumbered

/-- Through any requests, the candidates made since the last seeding are numbered without a gap. -/
theorem isNumbered_answers (requests : List Request) :
    IsNumbered (if requests.any Request.isSeed then 0 else search.nextId)
      (search.answers requests).1 (search.answers requests).2 := by
  -- By the last request: a seeding forgets all that was made before it.
  induction requests using List.reverseRecOn with
  | nil => exact ⟨rfl, rfl⟩
  | append_singleton requests request ih =>
    rw [answers, List.foldl_append, List.any_append]
    cases request with
    | seed =>
      simp only [List.any_cons, Request.isSeed, Bool.true_or, Bool.or_true, if_true]
      exact IsNumbered.seeded (search.answers requests).1
    | breed scored =>
      simp only [List.any_cons, List.any_nil, Request.isSeed, Bool.or_false]
      exact ih.bred scored

/-! ## The candidates of a run -/

/-- The candidates of the generations before the given one, in the order in which they are made. -/
def candidatesBefore (n : Nat) : List Candidate := (List.range n).flatMap search.candidatesAt

theorem candidatesBefore_succ (n : Nat) :
    search.candidatesBefore (n + 1) = search.candidatesBefore n ++ search.candidatesAt n :=
  flatMap_range_succ search.candidatesAt n

theorem candidatesBefore_isPrefix {n m : Nat} (le : n ≤ m) :
    search.candidatesBefore n <+: search.candidatesBefore m := by
  obtain ⟨k, rfl⟩ := Nat.exists_eq_add_of_le le
  rw [candidatesBefore, candidatesBefore, List.range_add, List.flatMap_append]
  exact List.prefix_append _ _

theorem mem_candidatesBefore {c : Candidate} {g n : Nat} (less : g < n)
    (mem : c ∈ search.candidatesAt g) : c ∈ search.candidatesBefore n :=
  List.mem_flatMap.mpr ⟨g, List.mem_range.mpr less, mem⟩

/-- The scored candidates of some generations are those of all their candidates together. -/
theorem survivors_candidatesBefore (n : Nat) :
    (evaluateAll search.examples (search.candidatesBefore n)).survivors =
      (List.range n).flatMap search.scoredAt := by
  have scored : search.scoredAt = fun g =>
      (search.candidatesAt g).filterMap fun c => (c.judge search.examples).1 :=
    funext fun g => survivors_eq search.examples (search.candidatesAt g)
  rw [survivors_eq, candidatesBefore, List.filterMap_flatMap, scored]

theorem isNumbered_frontier (g : Nat) :
    IsNumbered 0 (search.frontier g).1 (search.candidatesBefore (g + 1)) := by
  induction g with
  | zero =>
    rw [candidatesBefore_succ]
    exact IsNumbered.seeded search
  | succ g ih =>
    rw [candidatesBefore_succ]
    exact ih.bred (search.scoredAt g)

end Search

end PatternSearch
