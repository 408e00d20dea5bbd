import Mathlib.Algebra.Ring.Nat
import Mathlib.Data.List.Induction
import PatternSearch.Breeding

/-!
# Derived sequences of fragments

Breeding only appends extensions and pins repetitions. A sequence it arrives at is therefore a
selection from the seeds followed by extensions, each fragment with some of its repetitions pinned,
and the number of steps can be read off: one for each extension and one for each pin.
-/

namespace PatternSearch

/-! ## Selections -/

theorem selections_append_singleton {α : Type} (items : List α) (item : α) :
    selections (items ++ [item]) = (selections items).map (· ++ [item]) ++ selections items := by
  rw [selections, List.foldl_append]
  rfl

theorem mem_selections {α : Type} {items found : List α} :
    found ∈ selections items ↔ found.Sublist items := by
  induction items using List.reverseRecOn generalizing found with
  | nil => simp [selections]
  | append_singleton items item ih =>
    rw [selections_append_singleton, List.mem_append, List.mem_map]
    constructor
    · rintro (⟨front, mem, rfl⟩ | mem)
      · exact (ih.mp mem).append (List.Sublist.refl [item])
      · exact (ih.mp mem).trans (List.sublist_append_left items [item])
    · intro sublist
      obtain ⟨front, back, rfl, part, last⟩ := List.sublist_append_iff.mp sublist
      rcases List.sublist_cons_iff.mp last with none | ⟨rest, rfl, empty⟩
      · obtain rfl := List.sublist_nil.mp none
        exact Or.inr (ih.mpr (by simpa using part))
      · obtain rfl := List.sublist_nil.mp empty
        exact Or.inl ⟨front, ih.mpr part, rfl⟩

theorem length_selections {α : Type} (items : List α) :
    (selections items).length = 2 ^ items.length := by
  induction items using List.reverseRecOn with
  | nil => rfl
  | append_singleton items item ih =>
    rw [selections_append_singleton, List.length_append, List.length_map, ih, List.length_append,
      List.length_singleton, Nat.pow_succ]
    omega

/-! ## Pinning -/

/-- Pinning a repetition of a fragment to a count of at most `maxCount`, over and over. -/
inductive Pins (maxCount : Nat) (origin : Fragment) : Nat → Fragment → Prop
  | refl : Pins maxCount origin 0 origin
  | pin {steps count : Nat} {fragment pinned : Fragment} (before : Pins maxCount origin steps fragment)
      (le : count ≤ maxCount) (pinned_eq : fragment.pin? count = some pinned) :
      Pins maxCount origin (steps + 1) pinned

/-- Pinning fragment by fragment, with the number of all pins. -/
inductive PinsEach (maxCount : Nat) : List Fragment → Nat → List Fragment → Prop
  | nil : PinsEach maxCount [] 0 []
  | cons {origin fragment : Fragment} {origins fragments : List Fragment} {steps more : Nat}
      (first : Pins maxCount origin steps fragment) (rest : PinsEach maxCount origins more fragments) :
      PinsEach maxCount (origin :: origins) (steps + more) (fragment :: fragments)

theorem Fragment.isEmpty_of_pin? {fragment pinned : Fragment} {count : Nat}
    (h : fragment.pin? count = some pinned) : pinned.isEmpty = false := by
  obtain ⟨⟨before, after⟩, -, rfl⟩ := Option.map_eq_some_iff.mp h
  simp [isEmpty, exactly]

theorem Pins.isEmpty_eq_false {maxCount steps : Nat} {origin fragment : Fragment}
    (h : Pins maxCount origin steps fragment) (nonempty : origin.isEmpty = false) :
    fragment.isEmpty = false := by
  cases h with
  | refl => exact nonempty
  | pin _ _ pinned => exact Fragment.isEmpty_of_pin? pinned

namespace PinsEach

variable {maxCount steps more : Nat} {origins origins' fragments fragments' : List Fragment}

theorem refl (fragments : List Fragment) : PinsEach maxCount fragments 0 fragments := by
  induction fragments with
  | nil => exact nil
  | cons fragment rest ih => exact cons Pins.refl ih

theorem length_eq (h : PinsEach maxCount origins steps fragments) :
    fragments.length = origins.length := by
  induction h with
  | nil => rfl
  | cons _ _ ih => rw [List.length_cons, List.length_cons, ih]

theorem append (front : PinsEach maxCount origins steps fragments)
    (back : PinsEach maxCount origins' more fragments') :
    PinsEach maxCount (origins ++ origins') (steps + more) (fragments ++ fragments') := by
  induction front with
  | nil =>
    rw [Nat.zero_add]
    exact back
  | cons first _ ih =>
    rw [Nat.add_assoc]
    exact cons first ih

theorem isEmpty_eq_false (h : PinsEach maxCount origins steps fragments)
    (nonempty : ∀ origin ∈ origins, origin.isEmpty = false) :
    ∀ fragment ∈ fragments, fragment.isEmpty = false := by
  induction h with
  | nil =>
    intro fragment mem
    cases mem
  | cons first _ ih =>
    intro fragment mem
    rcases List.mem_cons.mp mem with rfl | mem
    · exact first.isEmpty_eq_false (nonempty _ List.mem_cons_self)
    · exact ih (fun origin inner => nonempty origin (List.mem_cons_of_mem _ inner)) fragment mem

end PinsEach

/-! ## Breeding -/

namespace Breeding

variable {breeding : Breeding} {child : List Fragment}

theorem mem_pinned {fragment pinned : Fragment} :
    pinned ∈ breeding.pinned fragment ↔
      ∃ count ≤ breeding.maxCount, fragment.pin? count = some pinned := by
  simp only [Breeding.pinned, List.mem_filterMap, List.mem_range, Nat.lt_succ_iff]

/-- Pinning in a sequence pins in one of its two parts. -/
theorem mem_pin_append {front back : List Fragment} :
    child ∈ breeding.pin (front ++ back) ↔
      (∃ front' ∈ breeding.pin front, child = front' ++ back) ∨
        ∃ back' ∈ breeding.pin back, child = front ++ back' := by
  induction front generalizing child with
  | nil => simp [pin]
  | cons fragment front ih =>
    simp only [List.cons_append, pin, List.mem_append, List.mem_map, ih]
    constructor
    · rintro (⟨pinned, mem, rfl⟩ | ⟨rest, ⟨front', mem, rfl⟩ | ⟨back', mem, rfl⟩, rfl⟩)
      · exact Or.inl ⟨pinned :: front, Or.inl ⟨pinned, mem, rfl⟩, rfl⟩
      · exact Or.inl ⟨fragment :: front', Or.inr ⟨front', mem, rfl⟩, rfl⟩
      · exact Or.inr ⟨back', mem, rfl⟩
    · rintro (⟨front', ⟨pinned, mem, rfl⟩ | ⟨rest, mem, rfl⟩, rfl⟩ | ⟨back', mem, rfl⟩)
      · exact Or.inl ⟨pinned, mem, rfl⟩
      · exact Or.inr ⟨rest ++ back, Or.inl ⟨rest, mem, rfl⟩, rfl⟩
      · exact Or.inr ⟨front ++ back', Or.inr ⟨back', mem, rfl⟩, rfl⟩

/-- Breeding pins one repetition more. -/
theorem pinsEach_of_mem_pin {origins fragments : List Fragment} {steps : Nat}
    (h : PinsEach breeding.maxCount origins steps fragments) (mem : child ∈ breeding.pin fragments) :
    PinsEach breeding.maxCount origins (steps + 1) child := by
  induction h generalizing child with
  | nil => cases mem
  | cons first rest ih =>
    rcases List.mem_append.mp mem with here | later
    · obtain ⟨pinned, inner, rfl⟩ := List.mem_map.mp here
      obtain ⟨count, le, pinned_eq⟩ := mem_pinned.mp inner
      rw [Nat.add_right_comm]
      exact PinsEach.cons (first.pin le pinned_eq) rest
    · obtain ⟨tail, inner, rfl⟩ := List.mem_map.mp later
      rw [Nat.add_assoc]
      exact PinsEach.cons first (ih inner)

end Breeding

/-- A sequence of fragments in the reach of a search after some steps: seeds in their order, then
extensions, pinned one by one. Each extension and each pin is one step. -/
def InReach (settings : Settings) (steps : Nat) (fragments : List Fragment) : Prop :=
  ∃ seeds added front back pins pins', seeds.Sublist settings.seeds ∧
    (∀ fragment ∈ added, fragment ∈ settings.extensions) ∧
    PinsEach settings.maxCount seeds pins front ∧ PinsEach settings.maxCount added pins' back ∧
    fragments = front ++ back ∧ back.length + (pins + pins') = steps

namespace InReach

variable {settings : Settings} {steps : Nat} {fragments child : List Fragment}

theorem of_mem_selections (mem : fragments ∈ selections settings.seeds) :
    InReach settings 0 fragments := by
  refine ⟨fragments, [], fragments, [], 0, 0, mem_selections.mp mem, ?_, PinsEach.refl fragments,
    PinsEach.nil, (List.append_nil fragments).symm, rfl⟩
  intro fragment inner
  cases inner

/-- A child is one step further than its parent. -/
theorem of_mem_children (h : InReach settings steps fragments)
    (mem : child ∈ settings.breeding.children fragments) : InReach settings (steps + 1) child := by
  obtain ⟨seeds, added, front, back, pins, pins', selected, known, first, second, rfl, count⟩ := h
  rcases List.mem_append.mp mem with extended | pinned
  · obtain ⟨fragment, extension, rfl⟩ := List.mem_map.mp extended
    refine ⟨seeds, added ++ [fragment], front, back ++ [fragment], pins, pins' + 0, selected, ?_,
      first, second.append (PinsEach.refl [fragment]), List.append_assoc front back [fragment], ?_⟩
    · intro other inner
      rcases List.mem_append.mp inner with old | new
      · exact known other old
      · rw [List.mem_singleton.mp new]
        exact extension
    · rw [List.length_append, List.length_singleton]
      omega
  · rcases Breeding.mem_pin_append.mp pinned with ⟨front', inner, rfl⟩ | ⟨back', inner, rfl⟩
    · refine ⟨seeds, added, front', back, pins + 1, pins', selected, known,
        Breeding.pinsEach_of_mem_pin first inner, second, rfl, ?_⟩
      omega
    · have second' := Breeding.pinsEach_of_mem_pin second inner
      refine ⟨seeds, added, front, back', pins, pins' + 1, selected, known, first, second', rfl, ?_⟩
      rw [second'.length_eq, ← second.length_eq]
      omega

theorem length_le (h : InReach settings steps fragments) :
    fragments.length ≤ settings.seeds.length + steps := by
  obtain ⟨seeds, added, front, back, pins, pins', selected, -, first, -, rfl, count⟩ := h
  have some := selected.length_le
  rw [List.length_append, first.length_eq]
  omega

theorem isEmpty_eq_false (h : InReach settings steps fragments)
    (seeds : ∀ fragment ∈ settings.seeds, fragment.isEmpty = false)
    (extensions : ∀ fragment ∈ settings.extensions, fragment.isEmpty = false) :
    ∀ fragment ∈ fragments, fragment.isEmpty = false := by
  obtain ⟨chosen, added, front, back, pins, pins', selected, known, first, second, rfl, -⟩ := h
  intro fragment mem
  rcases List.mem_append.mp mem with inFront | inBack
  · exact first.isEmpty_eq_false (fun origin inner => seeds origin (selected.subset inner))
      fragment inFront
  · exact second.isEmpty_eq_false (fun origin inner => extensions origin (known origin inner))
      fragment inBack

end InReach

end PatternSearch
