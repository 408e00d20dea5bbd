import Mathlib.Algebra.Order.Ring.Nat
import Mathlib.Data.Nat.Log
import Mathlib.Tactic.Ring
import PatternSearch.Number.Binary64

/-!
# The nearest representable count of steps

A count of steps is representable if at most 53 of its binary digits are significant. Rounding to the
nearest representable count is monotone and leaves representable counts alone, so that a result never
passes a representable bound.
-/

namespace PatternSearch.Binary64

/-- The digits that do not fit the significand are zero. -/
def Representable (steps : Nat) : Prop := 2 ^ spare steps ∣ steps

theorem div_le_div_of_mul_le {num den num' den' : Nat} (positive : 0 < den) (positive' : 0 < den')
    (h : num * den' ≤ num' * den) : num / den ≤ num' / den' := by
  apply (Nat.le_div_iff_mul_le positive').mpr
  apply Nat.le_of_mul_le_mul_right _ positive
  calc num / den * den' * den = num / den * den * den' := by ring
    _ ≤ num * den' := Nat.mul_le_mul_right _ (Nat.div_mul_le_self num den)
    _ ≤ num' * den := h

theorem divHalfEven_eq (num den : Nat) :
    divHalfEven num den = num / den ∨ divHalfEven num den = num / den + 1 := by
  unfold divHalfEven
  have parity := Nat.mod_two_eq_zero_or_one (num / den)
  dsimp only
  split
  · exact Or.inl rfl
  · rcases parity with h | h <;> rw [h]
    · exact Or.inl rfl
    · exact Or.inr rfl
  · exact Or.inr rfl

theorem le_divHalfEven {num den n : Nat} (positive : 0 < den) (h : n * den ≤ num) :
    n ≤ divHalfEven num den := by
  have below : n ≤ num / den := (Nat.le_div_iff_mul_le positive).mpr h
  rcases divHalfEven_eq num den with heq | heq <;> omega

theorem divHalfEven_le {num den n : Nat} (positive : 0 < den) (h : num ≤ n * den) :
    divHalfEven num den ≤ n := by
  have quotient : num / den ≤ n := Nat.div_le_of_le_mul (by rwa [Nat.mul_comm])
  by_cases hq : num / den = n
  · have whole : num % den = 0 := by
      have split := Nat.div_add_mod num den
      rw [hq, Nat.mul_comm] at split
      omega
    have lt : compare (2 * (num % den)) den = .lt := by
      rw [whole]
      exact Nat.compare_eq_lt.mpr (by omega)
    simp only [divHalfEven, lt, hq, Nat.le_refl]
  · rcases divHalfEven_eq num den with heq | heq <;> omega

/-- A greater fraction is never rounded to a smaller whole number. -/
theorem divHalfEven_mono {num den num' den' : Nat} (positive : 0 < den) (positive' : 0 < den')
    (h : num * den' ≤ num' * den) : divHalfEven num den ≤ divHalfEven num' den' := by
  have split := Nat.div_add_mod num den
  have split' := Nat.div_add_mod num' den'
  have quotients := div_le_div_of_mul_le positive positive' h
  by_cases hq : num / den = num' / den'
  · have rests : num % den * den' ≤ num' % den' * den := by
      rw [← split, ← split', hq] at h
      have expand : (den * (num' / den') + num % den) * den' =
        den * den' * (num' / den') + num % den * den' := by ring
      have expand' : (den' * (num' / den') + num' % den') * den =
        den * den' * (num' / den') + num' % den' * den := by ring
      omega
    have half : den ≤ 2 * (num % den) → den' ≤ 2 * (num' % den') := by
      intro hle
      apply Nat.le_of_mul_le_mul_right _ positive
      calc den' * den ≤ den' * (2 * (num % den)) := Nat.mul_le_mul_left _ hle
        _ = 2 * (num % den * den') := by ring
        _ ≤ 2 * (num' % den' * den) := Nat.mul_le_mul_left _ rests
        _ = 2 * (num' % den') * den := by ring
    have more : den < 2 * (num % den) → den' < 2 * (num' % den') := by
      intro hlt
      apply Nat.lt_of_mul_lt_mul_right (a := den)
      calc den' * den < den' * (2 * (num % den)) := Nat.mul_lt_mul_of_pos_left hlt positive'
        _ = 2 * (num % den * den') := by ring
        _ ≤ 2 * (num' % den' * den) := Nat.mul_le_mul_left _ rests
        _ = 2 * (num' % den') * den := by ring
    unfold divHalfEven
    dsimp only
    rw [hq]
    have parity := Nat.mod_lt (num' / den') (show 0 < 2 by decide)
    split
    · split <;> omega
    · rename_i tie
      have above := half (by rw [Nat.compare_eq_eq.mp tie])
      split
      · rename_i lt
        have := Nat.compare_eq_lt.mp lt
        omega
      · exact Nat.le_refl _
      · omega
    · rename_i gt
      have above := more (Nat.compare_eq_gt.mp gt)
      rw [Nat.compare_eq_gt.mpr above]
  · rcases divHalfEven_eq num den with heq | heq <;>
      rcases divHalfEven_eq num' den' with heq' | heq' <;> omega

theorem lt_two_pow_spare (steps : Nat) : steps < 2 ^ (53 + spare steps) := by
  by_cases zero : steps = 0
  · subst zero
    exact Nat.two_pow_pos _
  · exact (Nat.log2_lt zero).mp (by unfold spare; omega)

theorem two_pow_le_of_spare {steps : Nat} (h : 0 < spare steps) :
    2 ^ (52 + spare steps) ≤ steps := by
  have nonzero : steps ≠ 0 := by
    rintro rfl
    exact absurd h (by decide)
  exact (Nat.le_log2 nonzero).mp (by unfold spare at *; omega)

theorem spare_le_iff {steps digits : Nat} : spare steps ≤ digits ↔ steps < 2 ^ (53 + digits) := by
  constructor
  · intro h
    exact (lt_two_pow_spare steps).trans_le (Nat.pow_le_pow_right (by decide) (by omega))
  · intro h
    by_contra above
    have large : 2 ^ (52 + spare steps) ≤ steps := two_pow_le_of_spare (by omega)
    have := Nat.pow_le_pow_right (n := 2) (by decide) (show 53 + digits ≤ 52 + spare steps by omega)
    omega

theorem spare_mono {a b : Nat} (h : a ≤ b) : spare a ≤ spare b :=
  spare_le_iff.mpr (h.trans_lt (lt_two_pow_spare b))

theorem representable_of_dvd {steps digits : Nat} (h : 2 ^ digits ∣ steps)
    (small : steps < 2 ^ (53 + digits)) : Representable steps :=
  (Nat.pow_dvd_pow 2 (spare_le_iff.mpr small)).trans h

theorem representable_mul_two_pow {n : Nat} (digits : Nat) (h : n ≤ 2 ^ 53) :
    Representable (n * 2 ^ digits) := by
  rcases Nat.lt_or_eq_of_le h with h | rfl
  · apply representable_of_dvd (Nat.dvd_mul_left _ _)
    rw [Nat.pow_add]
    exact Nat.mul_lt_mul_of_pos_right h (Nat.two_pow_pos _)
  · rw [← Nat.pow_add]
    apply @representable_of_dvd _ (digits + 1)
    · exact Nat.pow_dvd_pow 2 (by omega)
    · exact Nat.pow_lt_pow_right (by decide) (by omega)

theorem representable_zero : Representable 0 := Nat.dvd_zero _

/-- What rounding a fraction of steps computes, with the significand not above `2 ^ 53`. -/
theorem divHalfEven_spare_le (num : Nat) {den : Nat} (positive : 0 < den) :
    divHalfEven num (den * 2 ^ spare (num / den)) ≤ 2 ^ 53 := by
  apply divHalfEven_le (Nat.mul_pos positive (Nat.two_pow_pos _))
  have small := lt_two_pow_spare (num / den)
  rw [Nat.div_lt_iff_lt_mul positive] at small
  calc num ≤ 2 ^ (53 + spare (num / den)) * den := small.le
    _ = 2 ^ 53 * (den * 2 ^ spare (num / den)) := by rw [Nat.pow_add]; ring

theorem nearestSteps_eq (num den : Nat) : nearestSteps num den =
    divHalfEven num (den * 2 ^ spare (num / den)) * 2 ^ spare (num / den) := by
  rw [← Nat.one_shiftLeft]
  rfl

theorem representable_nearestSteps (num : Nat) {den : Nat} (positive : 0 < den) :
    Representable (nearestSteps num den) := by
  rw [nearestSteps_eq]
  exact representable_mul_two_pow _ (divHalfEven_spare_le num positive)

/-- Rounding is monotone: within one power of two because the grid is the same, and otherwise
because the power of two between the fractions is representable. -/
theorem nearestSteps_mono {num den num' den' : Nat} (positive : 0 < den) (positive' : 0 < den')
    (h : num * den' ≤ num' * den) : nearestSteps num den ≤ nearestSteps num' den' := by
  have quotients := div_le_div_of_mul_le positive positive' h
  rw [nearestSteps_eq, nearestSteps_eq]
  rcases Nat.lt_or_eq_of_le (spare_mono quotients) with less | same
  · have bound : 2 ^ 53 * 2 ^ spare (num / den) ≤ 2 ^ 52 * 2 ^ spare (num' / den') := by
      rw [← Nat.pow_add, ← Nat.pow_add]
      exact Nat.pow_le_pow_right (by decide) (by omega)
    have large : 2 ^ 52 ≤ divHalfEven num' (den' * 2 ^ spare (num' / den')) := by
      apply le_divHalfEven (Nat.mul_pos positive' (Nat.two_pow_pos _))
      have wide : 2 ^ (52 + spare (num' / den')) ≤ num' / den' := two_pow_le_of_spare (by omega)
      rw [Nat.le_div_iff_mul_le positive', Nat.pow_add] at wide
      calc 2 ^ 52 * (den' * 2 ^ spare (num' / den')) =
          2 ^ 52 * 2 ^ spare (num' / den') * den' := by ring
        _ ≤ num' := wide
    calc divHalfEven num (den * 2 ^ spare (num / den)) * 2 ^ spare (num / den)
        ≤ 2 ^ 53 * 2 ^ spare (num / den) :=
          Nat.mul_le_mul_right _ (divHalfEven_spare_le num positive)
      _ ≤ 2 ^ 52 * 2 ^ spare (num' / den') := bound
      _ ≤ _ := Nat.mul_le_mul_right _ large
  · rw [same]
    apply Nat.mul_le_mul_right
    have pow := Nat.two_pow_pos (spare (num' / den'))
    apply divHalfEven_mono (Nat.mul_pos positive pow) (Nat.mul_pos positive' pow)
    calc num * (den' * 2 ^ spare (num' / den')) = num * den' * 2 ^ spare (num' / den') := by ring
      _ ≤ num' * den * 2 ^ spare (num' / den') := Nat.mul_le_mul_right _ h
      _ = num' * (den * 2 ^ spare (num' / den')) := by ring

theorem nearestSteps_mul {steps den : Nat} (positive : 0 < den) (h : Representable steps) :
    nearestSteps (steps * den) den = steps := by
  rw [nearestSteps_eq, Nat.mul_div_cancel _ positive]
  obtain ⟨n, hn⟩ := h
  have pow := Nat.mul_pos positive (Nat.two_pow_pos (spare steps))
  have exact' : steps * den = n * (den * 2 ^ spare steps) := by
    calc steps * den = 2 ^ spare steps * n * den := by rw [← hn]
      _ = n * (den * 2 ^ spare steps) := by ring
  have whole : divHalfEven (steps * den) (den * 2 ^ spare steps) = n :=
    Nat.le_antisymm (divHalfEven_le pow exact'.le) (le_divHalfEven pow exact'.ge)
  rw [whole, Nat.mul_comm]
  exact hn.symm

theorem nearestSteps_one {steps : Nat} (h : Representable steps) : nearestSteps steps 1 = steps := by
  have whole := nearestSteps_mul Nat.one_pos h
  rwa [Nat.mul_one] at whole

theorem nearestSteps_one_mono {a b : Nat} (h : a ≤ b) : nearestSteps a 1 ≤ nearestSteps b 1 :=
  nearestSteps_mono Nat.one_pos Nat.one_pos (Nat.mul_le_mul_right 1 h)

theorem nearestSteps_le {num den bound : Nat} (positive : 0 < den) (h : num ≤ bound * den)
    (representable : Representable bound) : nearestSteps num den ≤ bound := by
  rw [← nearestSteps_mul positive representable]
  exact nearestSteps_mono positive positive (Nat.mul_le_mul_right _ h)

theorem le_nearestSteps {num den bound : Nat} (positive : 0 < den) (h : bound * den ≤ num)
    (representable : Representable bound) : bound ≤ nearestSteps num den := by
  rw [← nearestSteps_mul positive representable]
  exact nearestSteps_mono positive positive (Nat.mul_le_mul_right _ h)

end PatternSearch.Binary64
