import Mathlib.Data.List.Nodup
import PatternSearch.Proofs.Fragment.Repetition
import PatternSearch.Proofs.Search.Derivation

/-!
# The children of one sequence

First come the sequences that are longer by one extension. The others are as long as their parent and
differ from it in one position, where the repetition of a fragment is pinned: position after position,
and at each the counts from zero on. So they can be counted, and none of them is made twice, unless an
extension is listed twice.
-/

namespace PatternSearch.Breeding

open Fragment

/-- The sequence with the repetition at a position pinned to a count. -/
def pinAt (parent : List Fragment) (position count : Nat) : List Fragment :=
  parent.modify position fun fragment => (fragment.pin? count).getD fragment

/-- The positions of the fragments with a repetition. -/
def sites (parent : List Fragment) : List Nat := parent.findIdxs (·.marker?.isSome)

variable {breeding : Breeding} {parent child : List Fragment} {fragment pinned : Fragment}
variable {position count : Nat}

theorem pinAt_cons_zero : pinAt (fragment :: parent) 0 count =
    (fragment.pin? count).getD fragment :: parent := rfl

theorem pinAt_cons_succ : pinAt (fragment :: parent) (position + 1) =
    (fragment :: ·) ∘ pinAt parent position := rfl

theorem sites_cons : sites (fragment :: parent) =
    (if fragment.marker?.isSome then [0] else []) ++ (sites parent).map (· + 1) := by
  simp only [sites, List.findIdxs_cons, Nat.zero_add, List.findIdxs_start (s := 1)]
  split <;> rfl

/-! ## One position at a time -/

theorem mem_sites : position ∈ sites parent ↔
    ∃ fragment, parent[position]? = some fragment ∧ fragment.marker?.isSome = true := by
  simp only [sites, List.mem_findIdxs_iff_exists_getElem_pos, List.getElem?_eq_some_iff]
  constructor
  · rintro ⟨inside, marked⟩
    exact ⟨_, ⟨inside, rfl⟩, marked⟩
  · rintro ⟨_, ⟨inside, rfl⟩, marked⟩
    exact ⟨inside, marked⟩

/-- At a site, any count is accepted and replaces the one fragment. -/
theorem exists_pin?_of_mem_sites (mem : position ∈ sites parent) (count : Nat) :
    ∃ fragment pinned, parent[position]? = some fragment ∧ fragment.pin? count = some pinned ∧
      pinAt parent position count = parent.set position pinned := by
  obtain ⟨fragment, here, marked⟩ := mem_sites.mp mem
  obtain ⟨pinned, pin⟩ := Option.isSome_iff_exists.mp ((isSome_pin? fragment count).trans marked)
  obtain ⟨inside, rfl⟩ := List.getElem?_eq_some_iff.mp here
  refine ⟨_, pinned, here, pin, ?_⟩
  simp [pinAt, List.modify_eq_set, inside, pin]

theorem getElem?_pinAt_ne_iff (mem : position ∈ sites parent) (other : Nat) :
    (pinAt parent position count)[other]? ≠ parent[other]? ↔ other = position := by
  obtain ⟨fragment, pinned, here, pin, set⟩ := exists_pin?_of_mem_sites mem count
  constructor
  · intro differs
    by_contra apart
    exact differs (by simp [set, List.getElem?_set_ne (Ne.symm apart)])
  · rintro rfl
    obtain ⟨inside, rfl⟩ := List.getElem?_eq_some_iff.mp here
    simpa [set, inside] using ne_of_pin? pin

/-! ## All pinned children -/

theorem pinned_eq (fragment : Fragment) : breeding.pinned fragment =
    if fragment.marker?.isSome then
      (List.range (breeding.maxCount + 1)).map fun count => (fragment.pin? count).getD fragment
    else [] := by
  split
  · next marked =>
    rw [Breeding.pinned, ← List.filterMap_eq_map]
    refine List.filterMap_congr fun count _ => ?_
    obtain ⟨pinned, pin⟩ := Option.isSome_iff_exists.mp ((isSome_pin? fragment count).trans marked)
    simp [pin]
  · next unmarked =>
    refine List.filterMap_eq_nil_iff.mpr fun count _ => ?_
    have none := isSome_pin? fragment count
    simpa [unmarked] using none

theorem pin_eq_flatMap (parent : List Fragment) : breeding.pin parent =
    (sites parent).flatMap fun position =>
      (List.range (breeding.maxCount + 1)).map (pinAt parent position) := by
  induction parent with
  | nil => rfl
  | cons fragment rest ih =>
    rw [pin, ih, sites_cons, List.flatMap_append, pinned_eq]
    congr 1
    · split <;> simp [pinAt_cons_zero]
    · simp [List.flatMap_map, List.map_flatMap, pinAt_cons_succ]

theorem mem_pin : child ∈ breeding.pin parent ↔
    ∃ position ∈ sites parent, ∃ count ≤ breeding.maxCount, child = pinAt parent position count := by
  simp only [pin_eq_flatMap, List.mem_flatMap, List.mem_map, List.mem_range, Nat.lt_succ_iff,
    @eq_comm _ child]

theorem length_of_mem_pin (mem : child ∈ breeding.pin parent) : child.length = parent.length := by
  obtain ⟨position, -, count, -, rfl⟩ := mem_pin.mp mem
  exact List.length_modify _ _ _

theorem existsUnique_of_mem_pin (mem : child ∈ breeding.pin parent) :
    ∃! position : Nat, child[position]? ≠ parent[position]? := by
  obtain ⟨position, site, count, -, rfl⟩ := mem_pin.mp mem
  exact ⟨position, (getElem?_pinAt_ne_iff site position).mpr rfl,
    fun other => (getElem?_pinAt_ne_iff site other).mp⟩

theorem length_pin (parent : List Fragment) : (breeding.pin parent).length =
    parent.countP (·.marker?.isSome) * (breeding.maxCount + 1) := by
  simp [pin_eq_flatMap, sites, List.length_flatMap, Nat.mul_comm]

theorem length_children (parent : List Fragment) : (breeding.children parent).length =
    breeding.extensions.length + parent.countP (·.marker?.isSome) * (breeding.maxCount + 1) := by
  simp [children, extended, length_pin]

theorem length_children_le (parent : List Fragment) : (breeding.children parent).length ≤
    breeding.extensions.length + parent.length * (breeding.maxCount + 1) := by
  rw [length_children]
  exact Nat.add_le_add_left (Nat.mul_le_mul_right _ List.countP_le_length) _

/-- Only without extensions and without a repetition to pin is there no child. -/
theorem children_eq_nil_iff : breeding.children parent = [] ↔
    breeding.extensions = [] ∧ ∀ fragment ∈ parent, fragment.marker? = none := by
  rw [← List.length_eq_zero_iff, length_children]
  simp [List.countP_eq_zero]

/-! ## No child twice -/

theorem nodup_pinned (fragment : Fragment) : (breeding.pinned fragment).Nodup := by
  refine List.Nodup.filterMap ?_ List.nodup_range
  intro m n pinned first second
  exact count_eq_of_pin? first second

/-- A child that is pinned at the first position and one that is pinned later differ at the first. -/
theorem nodup_pin (parent : List Fragment) : (breeding.pin parent).Nodup := by
  induction parent with
  | nil => exact List.nodup_nil
  | cons fragment rest ih =>
    refine List.Nodup.append ?_ ?_ ?_
    · exact (nodup_pinned fragment).map fun _ _ same => (List.cons.inj same).1
    · exact ih.map fun _ _ same => (List.cons.inj same).2
    · intro child first later
      obtain ⟨pinned, mem, rfl⟩ := List.mem_map.mp first
      obtain ⟨rest', -, same⟩ := List.mem_map.mp later
      obtain ⟨count, -, pin⟩ := mem_pinned.mp mem
      exact ne_of_pin? pin (List.cons.inj same).1.symm

theorem nodup_extended (once : breeding.extensions.Nodup) (parent : List Fragment) :
    (breeding.extended parent).Nodup := by
  refine once.map ?_
  intro a b same
  exact List.singleton_inj.mp (List.append_cancel_left same)

theorem length_of_mem_extended (mem : child ∈ breeding.extended parent) :
    child.length = parent.length + 1 := by
  obtain ⟨extension, -, rfl⟩ := List.mem_map.mp mem
  exact List.length_append

/-- The children of a sequence in their order: how many there are, where each of them differs from its
parent, and that no two are the same. -/
theorem children_by_position (breeding : Breeding) (parent : List Fragment) :
    breeding.children parent =
      breeding.extensions.map (parent ++ [·]) ++ breeding.pin parent ∧
    (breeding.pin parent = (sites parent).flatMap fun position =>
      (List.range (breeding.maxCount + 1)).map (pinAt parent position)) ∧
    (sites parent).Pairwise (· < ·) ∧
    (∀ position, position ∈ sites parent ↔
      ∃ fragment, parent[position]? = some fragment ∧ fragment.marker?.isSome = true) ∧
    (∀ position ∈ sites parent, ∀ count, ∃ fragment pinned,
      parent[position]? = some fragment ∧ fragment.pin? count = some pinned ∧
      pinAt parent position count = parent.set position pinned) ∧
    (breeding.children parent).length =
      breeding.extensions.length + (sites parent).length * (breeding.maxCount + 1) ∧
    (∀ child ∈ breeding.pin parent, child.length = parent.length ∧
      ∃! position : Nat, child[position]? ≠ parent[position]?) ∧
    (breeding.pin parent).Nodup ∧
    (breeding.extensions.Nodup → (breeding.children parent).Nodup) := by
  refine ⟨rfl, pin_eq_flatMap parent, List.pairwise_findIdxs, fun _ => mem_sites,
    fun _ => exists_pin?_of_mem_sites, ?_, ?_, nodup_pin parent, ?_⟩
  · simp [length_children, sites]
  · intro child mem
    exact ⟨length_of_mem_pin mem, existsUnique_of_mem_pin mem⟩
  · intro once
    refine (nodup_extended once parent).append (nodup_pin parent) ?_
    intro child longer pinned
    have more := length_of_mem_extended longer
    have same := length_of_mem_pin pinned
    omega

/-- Two sites around a sign that is no repetition, one of them behind a letter of two bytes. -/
theorem children_by_position_two_sites :
    let breeding : Breeding := ⟨[⟨"x"⟩, ⟨"y+"⟩], 1⟩
    let parent : List Fragment := [⟨"é+"⟩, ⟨"+"⟩, ⟨"b+c+"⟩]
    sites parent = [0, 2] ∧ (breeding.children parent).Nodup ∧
      (breeding.children parent).length = 2 + 2 * 2 ∧
      ∃ fragment pinned, parent[2]? = some fragment ∧ fragment.pin? 1 = some pinned ∧
        pinAt parent 2 1 = [⟨"é+"⟩, ⟨"+"⟩, ⟨"b\x7b1\x7dc+"⟩] := by
  intro breeding parent
  have two : sites parent = [0, 2] := by decide
  obtain ⟨-, -, -, -, replaced, length, -, -, once⟩ := children_by_position breeding parent
  obtain ⟨fragment, pinned, here, pin, -⟩ := replaced 2 (by simp [two]) 1
  rw [two] at length
  exact ⟨two, once (by decide), length, fragment, pinned, here, pin, by decide⟩

end PatternSearch.Breeding
