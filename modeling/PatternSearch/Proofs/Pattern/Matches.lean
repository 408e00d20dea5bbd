import PatternSearch.Pattern.Reach

/-!
# What an expression matches

An expression relates the places where a match begins to those where it ends. This says nothing of
how matches are found, and preferences have no part in it.
-/

namespace PatternSearch.Pattern

/-- Some steps of a relation, one after the other. -/
def Rounds (R : Nat → Nat → Prop) : Nat → Nat → Nat → Prop
  | 0, i, j => i = j
  | n + 1, i, k => ∃ j, R i j ∧ Rounds R n j k

section Rounds

variable {R S : Nat → Nat → Prop}

theorem rounds_add {m n i k : Nat} :
    Rounds R (m + n) i k ↔ ∃ j, Rounds R m i j ∧ Rounds R n j k := by
  induction m generalizing i with
  | zero => simp [Rounds]
  | succ m ih =>
    rw [Nat.succ_add]
    constructor
    · rintro ⟨j, first, rest⟩
      obtain ⟨mid, left, right⟩ := ih.mp rest
      exact ⟨mid, ⟨j, first, left⟩, right⟩
    · rintro ⟨mid, ⟨j, first, left⟩, right⟩
      exact ⟨j, first, ih.mpr ⟨mid, left, right⟩⟩

theorem Rounds.preserves {p : Nat → Prop} (step : ∀ i j, R i j → p i → p j) {n i j : Nat}
    (h : Rounds R n i j) (start : p i) : p j := by
  induction n generalizing i with
  | zero =>
    obtain rfl : i = j := h
    exact start
  | succ n ih =>
    obtain ⟨mid, first, rest⟩ := h
    exact ih rest (step i mid first start)

/-- A relation that only leads on needs no more steps than there are places to pass. -/
theorem Rounds.shorten (forward : ∀ i j, R i j → i ≤ j) {n i j : Nat} (h : Rounds R n i j) :
    ∃ m ≤ j - i, Rounds R m i j := by
  induction n generalizing i with
  | zero => exact ⟨0, Nat.zero_le _, h⟩
  | succ n ih =>
    obtain ⟨mid, first, rest⟩ := h
    obtain ⟨m, le, short⟩ := ih rest
    have on := forward i mid first
    have ahead : mid ≤ j :=
      rest.preserves (fun a b step before => Nat.le_trans before (forward a b step)) (Nat.le_refl mid)
    by_cases stays : mid = i
    · subst stays
      exact ⟨m, le, short⟩
    · exact ⟨m + 1, by omega, mid, first, short⟩

theorem Rounds.mono (weaker : ∀ i j, R i j → S i j) {n i j : Nat} (h : Rounds R n i j) :
    Rounds S n i j := by
  induction n generalizing i with
  | zero => exact h
  | succ n ih =>
    obtain ⟨mid, first, rest⟩ := h
    exact ⟨mid, weaker i mid first, ih rest⟩

theorem rounds_one {i j : Nat} : Rounds R 1 i j ↔ R i j := by
  constructor
  · rintro ⟨mid, step, rfl⟩
    exact step
  · intro step
    exact ⟨j, step, rfl⟩

/-- Where every step stays in its place, the first of them tells whether there are any. -/
theorem rounds_iff_of_flat (flat : ∀ i j, R i j → i = j) {n i j : Nat} :
    Rounds R n i j ↔ Rounds R (min n 1) i j := by
  cases n with
  | zero => rfl
  | succ n =>
    rw [Nat.min_eq_right (Nat.succ_le_succ n.zero_le), rounds_one]
    constructor
    · rintro ⟨mid, step, rest⟩
      obtain rfl := flat i mid step
      have stays : i = j := rest.preserves (fun a b step before => before.trans (flat a b step)) rfl
      rwa [← stays]
    · intro step
      obtain rfl := flat i j step
      clear flat
      induction n with
      | zero => exact rounds_one.mpr step
      | succ n ih => exact ⟨i, step, ih⟩

end Rounds

/-- The characters stand in the text from one place to the other. -/
def Spells (source : Array Char) : List Char → Nat → Nat → Prop
  | [], i, j => i = j
  | c :: rest, i, j => source[i]? = some c ∧ Spells source rest (i + 1) j

theorem spells_append {source : Array Char} {front back : List Char} {i k : Nat} :
    Spells source (front ++ back) i k ↔ ∃ j, Spells source front i j ∧ Spells source back j k := by
  induction front generalizing i with
  | nil => simp [Spells]
  | cons c rest ih => simp [Spells, ih, and_assoc]

namespace Regex

/-- A match of the expression begins at the first place and ends at the second. -/
def Matches (source : Array Char) : Regex → Nat → Nat → Prop
  | empty, i, j => i = j
  | text chars, i, j => Spells source chars i j
  | set s _, i, j => (∃ c, source[i]? = some c ∧ s.contains c = true) ∧ j = i + 1
  | look l, i, j => l.holds (before source i) source[i]? = true ∧ i = j
  | cat a b, i, k => ∃ j, Matches source a i j ∧ Matches source b j k
  | alt a b, i, j => Matches source a i j ∨ Matches source b i j
  | rep least extra _ body, i, j => ∃ n, least ≤ n ∧ (∀ m, extra = some m → n ≤ least + m) ∧
      Rounds (Matches source body) n i j
  | group _ body, i, j => Matches source body i j

variable {source : Array Char} {r : Regex} {i j : Nat}

theorem lt_size_of_getElem? {c : Char} (h : source[i]? = some c) : i < source.size :=
  (Array.getElem?_eq_some_iff.mp h).1

theorem bounds_of_spells {chars : List Char} (h : Spells source chars i j) :
    i ≤ j ∧ (i ≤ source.size → j ≤ source.size) := by
  induction chars generalizing i with
  | nil =>
    obtain rfl : i = j := h
    exact ⟨Nat.le_refl i, id⟩
  | cons c rest ih =>
    have next := ih h.2
    have inside := lt_size_of_getElem? h.1
    exact ⟨by omega, fun _ => next.2 inside⟩

/-- A match leads on, and not out of the text. -/
theorem Matches.bounds (h : r.Matches source i j) : i ≤ j ∧ (i ≤ source.size → j ≤ source.size) := by
  induction r generalizing i j with
  | empty =>
    obtain rfl : i = j := h
    exact ⟨Nat.le_refl i, id⟩
  | text chars => exact bounds_of_spells h
  | set s ascii =>
    obtain ⟨⟨c, found, -⟩, rfl⟩ := h
    have inside := lt_size_of_getElem? found
    exact ⟨by omega, fun _ => inside⟩
  | look l =>
    obtain ⟨-, rfl⟩ := h
    exact ⟨Nat.le_refl i, id⟩
  | cat a b iha ihb =>
    obtain ⟨mid, first, second⟩ := h
    have left := iha first
    have right := ihb second
    exact ⟨by omega, fun inside => right.2 (left.2 inside)⟩
  | alt a b iha ihb =>
    rcases h with left | right
    · exact iha left
    · exact ihb right
  | rep least extra greedy body ih =>
    obtain ⟨n, -, -, rounds⟩ := h
    have on : ∀ a b, body.Matches source a b → i ≤ a → i ≤ b :=
      fun a b step before => Nat.le_trans before (ih step).1
    have within : ∀ a b, body.Matches source a b → a ≤ source.size → b ≤ source.size :=
      fun a b step => (ih step).2
    exact ⟨rounds.preserves on (Nat.le_refl i), rounds.preserves within⟩
  | group number body ih => exact ih h

theorem Matches.le (h : r.Matches source i j) : i ≤ j := h.bounds.1

theorem Matches.le_size (h : r.Matches source i j) (inside : i ≤ source.size) : j ≤ source.size :=
  h.bounds.2 inside

/-- What takes no character ends where it begins. -/
theorem Matches.eq_of_isZeroWidth (h : r.Matches source i j) (flat : r.isZeroWidth = true) :
    i = j := by
  induction r generalizing i j with
  | empty => exact h
  | text chars => cases flat
  | set s ascii => cases flat
  | look l => exact h.2
  | cat a b iha ihb =>
    obtain ⟨flatA, flatB⟩ := Bool.and_eq_true_iff.mp flat
    obtain ⟨mid, first, second⟩ := h
    rw [iha first flatA, ihb second flatB]
  | alt a b iha ihb =>
    obtain ⟨flatA, flatB⟩ := Bool.and_eq_true_iff.mp flat
    rcases h with left | right
    · exact iha left flatA
    · exact ihb right flatB
  | rep least extra greedy body ih =>
    obtain ⟨n, -, -, rounds⟩ := h
    exact rounds.preserves (fun a b step before => before.trans (ih step flat)) rfl
  | group number body ih => exact ih h flat

end Regex

end PatternSearch.Pattern
