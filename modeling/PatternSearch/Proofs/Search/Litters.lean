import PatternSearch.Proofs.Search.Offspring
import PatternSearch.Proofs.Search.Selection

/-!
# Litters

Breeding takes the kept candidates as they are ranked and makes all the children of the first one, then
all of the second one, and so on. Every child is new: it has no score and no pattern yet, it knows its
parent, and it gets the next identifier. Of the search itself nothing changes but that identifier.
-/

namespace PatternSearch

open Breeding

/-- A candidate as it is when its parent is bred. -/
structure Candidate.IsNewborn (c parent : Candidate) : Prop where
  parent_eq : c.parent = some parent.id
  generation_eq : c.generation = parent.generation + 1
  score_eq : c.score = 0
  raw_eq : c.raw = .zero
  whole_eq : c.whole = none

/-- One newborn candidate for each of the children of a parent, in their order. -/
structure IsLitter (breeding : Breeding) (parent : Candidate) (litter : List Candidate) : Prop where
  fragments : litter.map (·.fragments) = breeding.children parent.fragments
  newborn : ∀ c ∈ litter, c.IsNewborn parent

section Litters

variable {breeding : Breeding} {parent : Candidate} {parents litter : List Candidate}
variable {litters : List (List Candidate)}

theorem isNewborn_child (countable : parent.generation + 1 < UInt64.size) (id : Nat)
    (fragments : List Fragment) : (parent.child id fragments).IsNewborn parent where
  parent_eq := rfl
  generation_eq := Nat.mod_eq_of_lt countable
  score_eq := rfl
  raw_eq := rfl
  whole_eq := rfl

theorem isLitter_children (breeding : Breeding) (first : Nat)
    (countable : parent.generation + 1 < UInt64.size) :
    IsLitter breeding parent (((breeding.children parent.fragments).zipIdx first).map
      fun (fragments, id) => parent.child id fragments) where
  fragments := by
    rw [List.map_map]
    exact List.zipIdx_map_fst first _
  newborn := by
    intro c mem
    obtain ⟨⟨fragments, id⟩, -, rfl⟩ := List.mem_map.mp mem
    exact isNewborn_child countable id fragments

/-- Numbering all the children in one go numbers litter after litter. -/
theorem exists_litters (breeding : Breeding) (first : Nat)
    (countable : ∀ parent ∈ parents, parent.generation + 1 < UInt64.size) :
    ∃ litters, List.Forall₂ (IsLitter breeding) parents litters ∧
      ((parents.flatMap fun parent =>
        (breeding.children parent.fragments).map fun fragments => (parent, fragments)).zipIdx
          first).map (fun ((parent, fragments), id) => parent.child id fragments) =
        litters.flatten := by
  induction parents generalizing first with
  | nil => exact ⟨[], .nil, rfl⟩
  | cons parent rest ih =>
    rw [List.forall_mem_cons] at countable
    -- The other litters are numbered from where this one ends.
    obtain ⟨litters, later, numbered⟩ :=
      ih (first + (breeding.children parent.fragments).length) countable.2
    refine ⟨_ :: litters, .cons (isLitter_children breeding first countable.1) later, ?_⟩
    simp only [List.flatMap_cons, List.zipIdx_append, List.length_map, List.map_append, numbered,
      List.zipIdx_map, List.map_map, List.flatten_cons]
    rfl

theorem IsLitter.length_eq (h : IsLitter breeding parent litter) : litter.length =
    breeding.extensions.length + (sites parent.fragments).length * (breeding.maxCount + 1) := by
  have length := congrArg List.length h.fragments
  simpa [length_children, sites] using length

theorem length_flatten_of_isLitter (h : List.Forall₂ (IsLitter breeding) parents litters) :
    litters.flatten.length = (parents.map fun parent => breeding.extensions.length +
      (sites parent.fragments).length * (breeding.maxCount + 1)).sum := by
  induction h with
  | nil => rfl
  | cons first _ ih => simp only [List.flatten_cons, List.length_append, first.length_eq, ih,
      List.map_cons, List.sum_cons]

end Litters

namespace Search

/-- Breeding, from the ranking of the candidates to the children and the search that is left. -/
theorem breed_litters (search : Search) (scored : List Candidate)
    (countable : ∀ c ∈ scored, c.generation + 1 < UInt64.size) :
    ∃ standing litters, IsStanding standing scored ∧
      let parents := (standing.take search.settings.keep).map Prod.fst
      let children := (search.breed scored).2.1
      List.Forall₂ (IsLitter search.settings.breeding) parents litters ∧
      children = litters.flatten ∧
      children.length = (parents.map fun parent => search.settings.extensions.length +
        (sites parent.fragments).length * (search.settings.maxCount + 1)).sum ∧
      children.map (·.id) = List.range' search.nextId children.length ∧
      (search.breed scored).1 = { search with nextId := search.nextId + children.length } := by
  obtain ⟨litters, bred, numbered⟩ := exists_litters search.settings.breeding search.nextId
    fun parent kept => countable parent (selected_subset kept)
  refine ⟨standing scored, litters, isStanding_standing scored, ?_⟩
  rw [List.map_take, map_fst_standing]
  refine ⟨bred, numbered, ?_, search.breed_ids scored, rfl⟩
  have length := length_flatten_of_isLitter bred
  rw [← numbered] at length
  exact length

/-- The second of three candidates is the best, and the last one is not kept. Identifiers go on from 7. -/
theorem breed_litters_two :
    let scored (id : Nat) (score : Int) (fragments : List Fragment) : Candidate :=
      { id, fragments, generation := 4, score }
    let candidates := [scored 2 1 [⟨"b"⟩], scored 5 3 [⟨"a+"⟩], scored 6 1 []]
    let search : Search :=
      { settings := { extensions := [⟨"x"⟩], maxCount := 1, keep := 2 }, examples := {}, nextId := 7 }
    (∀ c ∈ candidates, c.generation + 1 < UInt64.size) ∧
      (search.breed candidates).1 = { search with nextId := 11 } ∧
      ∃ first second, IsLitter search.settings.breeding (scored 5 3 [⟨"a+"⟩]) first ∧
        IsLitter search.settings.breeding (scored 2 1 [⟨"b"⟩]) second ∧
        (search.breed candidates).2.1 = first ++ second ∧
        (search.breed candidates).2.1.map (·.id) = [7, 8, 9, 10] := by
  intro scored candidates search
  have countable : ∀ c ∈ candidates, c.generation + 1 < UInt64.size := by decide
  have ranking : IsStanding
      [(scored 5 3 [⟨"a+"⟩], 1), (scored 2 1 [⟨"b"⟩], 0), (scored 6 1 [], 2)] candidates :=
    ⟨by decide, by decide⟩
  obtain ⟨standing, litters, stands, bred, children, length, ids, left⟩ :=
    search.breed_litters candidates countable
  obtain rfl := stands.unique ranking
  have four : (search.breed candidates).2.1.length = 4 := length
  rw [four] at ids left
  cases bred with
  | cons first rest =>
    cases rest with
    | cons second none =>
      cases none
      refine ⟨countable, left, _, _, first, second, ?_, ids⟩
      simpa using children

end Search

end PatternSearch
