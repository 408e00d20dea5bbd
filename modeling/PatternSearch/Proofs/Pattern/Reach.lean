import Mathlib.Tactic.Tauto
import PatternSearch.Proofs.Pattern.Matches

/-!
# Finding all matches at once

The places that `reach` computes are those where some match ends. Its lists need not be in order for
this: order and the rounds left out only save work.
-/

namespace PatternSearch.Pattern

namespace Places

theorem mem_all {text : Array Char} {i : Nat} : i ∈ all text ↔ i ≤ text.size := by
  simp only [all, List.mem_reverse, List.mem_range, Nat.lt_succ_iff]

theorem mem_takeWhile_or_dropWhile {p : Nat → Bool} {b : List Nat} {i : Nat} :
    i ∈ b ↔ i ∈ b.takeWhile p ∨ i ∈ b.dropWhile p := by
  rw [← List.mem_append, List.takeWhile_append_dropWhile]

/-- A leading member that is known already makes no difference. -/
theorem mem_skip {rest : List Nat} {i j : Nat} :
    (j = i ∨ j ∈ if rest.head? = some i then rest.tail else rest) ↔ j = i ∨ j ∈ rest := by
  cases rest with
  | nil => simp
  | cons first rest =>
    by_cases same : first = i
    · subst same
      simp
    · simp [same]

theorem mem_union {a b : List Nat} {j : Nat} : j ∈ union a b ↔ j ∈ a ∨ j ∈ b := by
  induction a generalizing b with
  | nil => simp [union]
  | cons i a ih =>
    have parts : j ∈ b ↔ j ∈ b.takeWhile (i < ·) ∨ j ∈ b.dropWhile (i < ·) :=
      mem_takeWhile_or_dropWhile
    have skip := @mem_skip (b.dropWhile (i < ·)) i j
    rw [union, List.mem_append, List.mem_cons, ih, List.mem_cons, parts]
    tauto

theorem mem_of_mem_minus {a b : List Nat} {j : Nat} (h : j ∈ minus a b) : j ∈ a := by
  induction a generalizing b with
  | nil => cases h
  | cons i a ih =>
    unfold minus at h
    simp only at h
    split at h
    · exact List.mem_cons_of_mem i (ih h)
    · rcases List.mem_cons.mp h with rfl | later
      · exact List.mem_cons_self
      · exact List.mem_cons_of_mem i (ih later)

/-- Nothing is lost but members of the second list. -/
theorem mem_minus_or {a b : List Nat} {j : Nat} (h : j ∈ a) : j ∈ minus a b ∨ j ∈ b := by
  induction a generalizing b with
  | nil => cases h
  | cons i a ih =>
    have drop : b.dropWhile (i < ·) ⊆ b := List.dropWhile_subset _
    unfold minus
    simp only
    split
    · next same =>
      rcases List.mem_cons.mp h with rfl | later
      · exact Or.inr (drop (List.mem_of_head? same))
      · rcases ih later with left | right
        · exact Or.inl left
        · exact Or.inr (drop right)
    · rcases List.mem_cons.mp h with rfl | later
      · exact Or.inl List.mem_cons_self
      · rcases ih later with left | right
        · exact Or.inl (List.mem_cons_of_mem i left)
        · exact Or.inr (drop right)

theorem mem_past {asked : Char → Bool} {text : Array Char} {places : List Nat} {j : Nat} :
    j ∈ past asked text places ↔
      ∃ i ∈ places, (∃ c, text[i]? = some c ∧ asked c = true) ∧ j = i + 1 := by
  rw [past, List.mem_map]
  constructor
  · rintro ⟨i, mem, rfl⟩
    obtain ⟨inner, any⟩ := List.mem_filter.mp mem
    exact ⟨i, inner, (Option.any_eq_true _ _).mp any, rfl⟩
  · rintro ⟨i, inner, any, rfl⟩
    exact ⟨i, List.mem_filter.mpr ⟨inner, (Option.any_eq_true _ _).mpr any⟩, rfl⟩

theorem mem_keep {l : Look} {text : Array Char} {places : List Nat} {j : Nat} :
    j ∈ keep l text places ↔ ∃ i ∈ places, l.holds (before text i) text[i]? = true ∧ i = j := by
  rw [keep, List.mem_filter]
  constructor
  · rintro ⟨mem, holds⟩
    exact ⟨j, mem, holds, rfl⟩
  · rintro ⟨i, mem, holds, rfl⟩
    exact ⟨mem, holds⟩

/-! ## Rounds -/

/-- A function on lists of places takes one step of a relation from each of them. -/
structure Steps (step : List Nat → List Nat) (R : Nat → Nat → Prop) (size : Nat) : Prop where
  mem_iff : ∀ {places j}, (∀ i ∈ places, i ≤ size) → (j ∈ step places ↔ ∃ i ∈ places, R i j)
  le_size : ∀ {i j}, R i j → i ≤ size → j ≤ size

section Rounds

variable {step : List Nat → List Nat} {R : Nat → Nat → Prop} {size : Nat}

theorem Steps.within (steps : Steps step R size) {places : List Nat}
    (within : ∀ i ∈ places, i ≤ size) : ∀ j ∈ step places, j ≤ size := by
  intro j mem
  obtain ⟨i, inner, related⟩ := (steps.mem_iff within).mp mem
  exact steps.le_size related (within i inner)

theorem mem_rounds (steps : Steps step R size) {n : Nat} {places : List Nat}
    (within : ∀ i ∈ places, i ≤ size) {j : Nat} :
    j ∈ rounds step n places ↔ ∃ i ∈ places, Rounds R n i j := by
  induction n generalizing places with
  | zero => simp [rounds, Rounds]
  | succ n ih =>
    rw [rounds]
    split
    · next empty =>
      rw [List.isEmpty_iff.mp empty]
      simp
    · rw [ih (steps.within within)]
      constructor
      · rintro ⟨mid, mem, rest⟩
        obtain ⟨i, inner, first⟩ := (steps.mem_iff within).mp mem
        exact ⟨i, inner, mid, first, rest⟩
      · rintro ⟨i, inner, mid, first, rest⟩
        exact ⟨mid, (steps.mem_iff within).mpr ⟨i, inner, first⟩, rest⟩

theorem of_mem_upTo (steps : Steps step R size) {n : Nat} {found last : List Nat}
    (within : ∀ i ∈ last, i ≤ size) {j : Nat} (h : j ∈ upTo step n found last) :
    j ∈ found ∨ ∃ k ≤ n, ∃ i ∈ last, Rounds R k i j := by
  induction n generalizing found last with
  | zero => exact Or.inl h
  | succ n ih =>
    unfold upTo at h
    simp only at h
    have fresh : ∀ i ∈ minus (step last) found, i ∈ step last := fun i mem => mem_of_mem_minus mem
    split at h
    · exact Or.inl h
    · rcases ih (fun i mem => steps.within within i (fresh i mem)) h with mem | ⟨k, le, i, mem, rest⟩
      · rcases mem_union.mp mem with new | old
        · obtain ⟨i, inner, first⟩ := (steps.mem_iff within).mp (fresh j new)
          exact Or.inr ⟨1, by omega, i, inner, j, first, rfl⟩
        · exact Or.inl old
      · obtain ⟨i', inner, first⟩ := (steps.mem_iff within).mp (fresh i mem)
        exact Or.inr ⟨k + 1, by omega, i', inner, i, first, rest⟩

theorem mem_upTo_of_mem {n : Nat} {found last : List Nat} {j : Nat} (h : j ∈ found) :
    j ∈ upTo step n found last := by
  induction n generalizing found last with
  | zero => exact h
  | succ n ih =>
    unfold upTo
    simp only
    split
    · exact h
    · exact ih (mem_union.mpr (Or.inr h))

/-- Of the places found, only those of the last round can lead to new ones. -/
theorem mem_upTo_of_rounds (steps : Steps step R size) {n k : Nat} {found last : List Nat}
    (within : ∀ i ∈ last, i ≤ size)
    (closed : ∀ i ∈ found, i ∉ last → ∀ j, R i j → j ∈ found) {i j : Nat} (start : i ∈ found)
    (le : k ≤ n) (path : Rounds R k i j) : j ∈ upTo step n found last := by
  induction n generalizing found last k i with
  | zero =>
    obtain rfl : k = 0 := by omega
    obtain rfl : i = j := path
    exact start
  | succ n ih =>
    have next : ∀ a ∈ found, ∀ b, R a b → b ∈ minus (step last) found ∨ b ∈ found := by
      intro a mem b related
      by_cases recent : a ∈ last
      · exact mem_minus_or ((steps.mem_iff within).mpr ⟨a, recent, related⟩)
      · exact Or.inr (closed a mem recent b related)
    cases k with
    | zero =>
      obtain rfl : i = j := path
      exact mem_upTo_of_mem start
    | succ k =>
      unfold upTo
      simp only
      split
      · next none =>
        have all : ∀ a b, R a b → a ∈ found → b ∈ found := by
          intro a b related mem
          rcases next a mem b related with new | old
          · rw [List.isEmpty_iff.mp none] at new
            cases new
          · exact old
        exact path.preserves all start
      · obtain ⟨mid, first, rest⟩ := path
        refine ih (fun a mem => steps.within within a (mem_of_mem_minus mem)) ?_
          (mem_union.mpr (next i start mid first)) (by omega) rest
        intro a mem old b related
        rcases mem_union.mp mem with new | before
        · exact absurd new old
        · exact mem_union.mpr (next a before b related)

end Rounds

end Places

namespace Regex

open Places

variable {source : Array Char} {r : Regex}

theorem mem_spelled {chars : List Char} {places : List Nat} {j : Nat} :
    j ∈ chars.foldl (fun places c => past (· == c) source places) places ↔
      ∃ i ∈ places, Spells source chars i j := by
  induction chars generalizing places with
  | nil => simp [Spells]
  | cons c rest ih =>
    rw [List.foldl_cons, ih]
    constructor
    · rintro ⟨next, mem, spelled⟩
      obtain ⟨i, inner, ⟨d, found, same⟩, rfl⟩ := mem_past.mp mem
      rw [beq_iff_eq.mp same] at found
      exact ⟨i, inner, found, spelled⟩
    · rintro ⟨i, inner, found, spelled⟩
      exact ⟨i + 1, mem_past.mpr ⟨i, inner, ⟨c, found, beq_self_eq_true c⟩, rfl⟩, spelled⟩

/-- A repetition: the rounds that must be, then the rounds that may be. -/
theorem mem_repetition {step : List Nat → List Nat} {R : Nat → Nat → Prop} {size : Nat}
    (steps : Steps step R size) (forward : ∀ i j, R i j → i ≤ j) {least : Nat} {extra : Option Nat}
    {places : List Nat} (within : ∀ i ∈ places, i ≤ size) {j : Nat} :
    j ∈ upTo step (extra.getD (size + 1)) (rounds step least places) (rounds step least places) ↔
      ∃ i ∈ places, ∃ n, least ≤ n ∧ (∀ m, extra = some m → n ≤ least + m) ∧ Rounds R n i j := by
  have stays : ∀ a b, R a b → a ≤ size → b ≤ size := fun _ _ => steps.le_size
  have inside : ∀ i ∈ rounds step least places, i ≤ size := by
    intro i mem
    obtain ⟨start, inner, path⟩ := (mem_rounds steps within).mp mem
    exact path.preserves stays (within start inner)
  constructor
  · intro h
    rcases of_mem_upTo steps inside h with mem | ⟨k, le, i, mem, path⟩
    · obtain ⟨start, inner, path⟩ := (mem_rounds steps within).mp mem
      exact ⟨start, inner, least, Nat.le_refl _, fun m _ => Nat.le_add_right _ _, path⟩
    · obtain ⟨start, inner, before⟩ := (mem_rounds steps within).mp mem
      refine ⟨start, inner, least + k, Nat.le_add_right _ _, ?_, rounds_add.mpr ⟨i, before, path⟩⟩
      rintro m rfl
      exact Nat.add_le_add_left le least
  · rintro ⟨start, inner, n, least_le, most, path⟩
    obtain ⟨k, rfl⟩ := Nat.exists_eq_add_of_le least_le
    obtain ⟨i, before, rest⟩ := rounds_add.mp path
    have mem : i ∈ rounds step least places := (mem_rounds steps within).mpr ⟨start, inner, before⟩
    have closed : ∀ a ∈ rounds step least places, a ∉ rounds step least places →
        ∀ b, R a b → b ∈ rounds step least places := fun a here absent => absurd here absent
    cases extra with
    | some m =>
      have le : k ≤ m := by
        have := most m rfl
        omega
      exact mem_upTo_of_rounds steps inside closed mem le rest
    | none =>
      obtain ⟨short, le, path'⟩ := rest.shorten forward
      have last : j ≤ size := rest.preserves stays (inside i mem)
      exact mem_upTo_of_rounds steps inside closed mem (by simp only [Option.getD_none]; omega) path'

/-- The places that are found are those where some match ends. -/
theorem mem_reach {places : List Nat} (within : ∀ i ∈ places, i ≤ source.size) {j : Nat} :
    j ∈ r.reach source places ↔ ∃ i ∈ places, r.Matches source i j := by
  induction r generalizing places j with
  | empty => simp [reach, Matches]
  | text chars => exact mem_spelled
  | set s ascii => exact mem_past
  | look l => exact mem_keep
  | cat a b iha ihb =>
    have within' : ∀ i ∈ a.reach source places, i ≤ source.size := by
      intro i mem
      obtain ⟨start, inner, first⟩ := (iha within).mp mem
      exact first.le_size (within start inner)
    rw [reach, ihb within']
    constructor
    · rintro ⟨mid, mem, second⟩
      obtain ⟨i, inner, first⟩ := (iha within).mp mem
      exact ⟨i, inner, mid, first, second⟩
    · rintro ⟨i, inner, mid, first, second⟩
      exact ⟨mid, (iha within).mpr ⟨i, inner, first⟩, second⟩
  | alt a b iha ihb =>
    rw [reach, mem_union, iha within, ihb within]
    constructor
    · rintro (⟨i, inner, left⟩ | ⟨i, inner, right⟩)
      · exact ⟨i, inner, Or.inl left⟩
      · exact ⟨i, inner, Or.inr right⟩
    · rintro ⟨i, inner, left | right⟩
      · exact Or.inl ⟨i, inner, left⟩
      · exact Or.inr ⟨i, inner, right⟩
  | rep least extra greedy body ih =>
    have steps : Steps (body.reach source) (body.Matches source) source.size :=
      ⟨fun within => ih within, fun related inside => related.le_size inside⟩
    exact mem_repetition steps (fun i j related => related.le) within
  | group number body ih => exact ih within

theorem isMatch_iff {text : List Char} : r.isMatch text = true ↔
    ∃ i j, i ≤ text.length ∧ r.Matches text.toArray i j := by
  have within : ∀ i ∈ all text.toArray, i ≤ text.toArray.size := fun i mem => mem_all.mp mem
  have nonempty : r.isMatch text = true ↔ ∃ j, j ∈ r.reach text.toArray (all text.toArray) := by
    rw [isMatch, Bool.not_eq_true', List.isEmpty_eq_false_iff_exists_mem]
  rw [nonempty]
  constructor
  · rintro ⟨j, mem⟩
    obtain ⟨i, inner, found⟩ := (mem_reach within).mp mem
    exact ⟨i, j, mem_all.mp inner, found⟩
  · rintro ⟨i, j, le, found⟩
    exact ⟨j, (mem_reach within).mpr ⟨i, mem_all.mpr le, found⟩⟩

theorem isWhole_iff {text : List Char} : r.isWhole text = true ↔
    r.Matches text.toArray 0 text.length := by
  have within : ∀ i ∈ [0], i ≤ text.toArray.size := by simp
  rw [isWhole, List.contains_iff_mem, mem_reach within]
  simp

end Regex

end PatternSearch.Pattern
