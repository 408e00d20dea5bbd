import Mathlib.Data.Nat.Cast.Order.Field
import PatternSearch.Proofs.Number.Error

/-!
# Rounding next to a number

Around a representable count of steps the others lie at equal distances, its gap, but for a power of two,
below which they lie twice as dense. What is nearer to a count than half of the distance to its neighbours
is rounded to it, and what is a few gaps away is rounded to a count that is a few gaps away.
-/

namespace PatternSearch.Binary64

attribute [local irreducible] one overflow

/-- The distance from a count of steps to the next one above. -/
def gap (steps : Nat) : Nat := 2 ^ spare steps

variable {steps num den n : Nat}

theorem gap_pos (steps : Nat) : 0 < gap steps := Nat.two_pow_pos _

theorem lt_mul_gap (steps : Nat) : steps < 2 ^ 53 * gap steps := by
  have small := lt_two_pow_spare steps
  rwa [Nat.pow_add] at small

theorem mul_gap_le (coarse : 1 < gap steps) : 2 ^ 52 * gap steps ≤ steps := by
  have some : 0 < spare steps := by
    by_contra none
    rw [gap, Nat.eq_zero_of_not_pos none] at coarse
    exact absurd coarse (by decide)
  have large := two_pow_le_of_spare some
  rwa [Nat.pow_add] at large

/-- The significand of a count of steps. -/
theorem exists_eq_mul_gap (h : Representable steps) : ∃ m, steps = m * gap steps ∧ m < 2 ^ 53 := by
  obtain ⟨m, split⟩ := h
  rw [Nat.mul_comm] at split
  refine ⟨m, split, ?_⟩
  have small := lt_mul_gap steps
  exact Nat.lt_of_mul_lt_mul_right (split.symm.trans_lt small)

/-- The next count above is still on the grid. -/
theorem add_gap_le (h : Representable steps) : steps + gap steps ≤ 2 ^ 53 * gap steps := by
  obtain ⟨m, split, small⟩ := exists_eq_mul_gap h
  have next : (m + 1) * gap steps ≤ 2 ^ 53 * gap steps := Nat.mul_le_mul_right _ small
  rwa [Nat.add_mul, Nat.one_mul, ← split] at next

theorem gap_le (h : Representable steps) (positive : 0 < steps) : gap steps ≤ steps :=
  Nat.le_of_dvd positive h

theorem spare_eq {digits : Nat} (small : steps < 2 ^ 53 * 2 ^ digits)
    (large : digits = 0 ∨ 2 ^ 52 * 2 ^ digits ≤ steps) : spare steps = digits := by
  have most : spare steps ≤ digits := by
    rwa [spare_le_iff, Nat.pow_add]
  rcases large with none | large
  · omega
  · by_contra other
    have fewer : spare steps ≤ digits - 1 := by omega
    rw [spare_le_iff, show 53 + (digits - 1) = 52 + digits by omega, Nat.pow_add] at fewer
    omega

/-! ## The nearest whole number -/

/-- A whole number that is at most one half away, and even if it is exactly that. -/
theorem divHalfEven_eq_of_near (positive : 0 < den) (upper : 2 * num ≤ 2 * (n * den) + den)
    (lower : 2 * (n * den) ≤ 2 * num + den)
    (even : n % 2 = 0 ∨ 2 * num < 2 * (n * den) + den ∧ 2 * (n * den) < 2 * num + den) :
    divHalfEven num den = n := by
  have split := Nat.div_add_mod num den
  have rest := Nat.mod_lt num positive
  rw [Nat.mul_comm] at split
  have notAbove : n ≤ num / den + 1 := by
    by_contra above
    have more : (num / den + 2) * den ≤ n * den := Nat.mul_le_mul_right den (by omega)
    rw [Nat.add_mul] at more
    omega
  have notBelow : num / den ≤ n := by
    by_contra below
    have more : (n + 1) * den ≤ num / den * den := Nat.mul_le_mul_right den (by omega)
    rw [Nat.add_mul] at more
    omega
  unfold divHalfEven
  dsimp only
  rcases Nat.le_and_le_add_one_iff.mp ⟨notBelow, notAbove⟩ with same | next
  · subst same
    split
    · rfl
    · next tie =>
      have half := Nat.compare_eq_eq.mp tie
      omega
    · next more =>
      have above := Nat.compare_eq_gt.mp more
      omega
  · subst next
    rw [Nat.add_mul] at lower even
    split
    · next less =>
      have below := Nat.compare_eq_lt.mp less
      omega
    · next tie =>
      have half := Nat.compare_eq_eq.mp tie
      omega
    · rfl

/-- The same for a count of steps on the grid that the fraction is rounded to. -/
theorem nearestSteps_eq_of_near {digits : Nat} (positive : 0 < den) (grid : spare (num / den) = digits)
    (split : steps = n * 2 ^ digits) (upper : 2 * num ≤ 2 * (steps * den) + 2 ^ digits * den)
    (lower : 2 * (steps * den) ≤ 2 * num + 2 ^ digits * den)
    (even : n % 2 = 0 ∨ 2 * num < 2 * (steps * den) + 2 ^ digits * den ∧
      2 * (steps * den) < 2 * num + 2 ^ digits * den) : nearestSteps num den = steps := by
  have product : n * (den * 2 ^ digits) = steps * den := by
    rw [split]
    ring
  have scale : den * 2 ^ digits = 2 ^ digits * den := Nat.mul_comm _ _
  rw [nearestSteps_eq, grid, split]
  congr 1
  apply divHalfEven_eq_of_near (Nat.mul_pos positive (Nat.two_pow_pos digits))
  · rw [product, scale]
    exact upper
  · rw [product, scale]
    exact lower
  · rw [product, scale]
    exact even

/-- Between the largest significand that has 53 digits and the one after it but one: the tie goes down. -/
theorem nearestSteps_tie (digits : Nat) :
    nearestSteps ((2 ^ 53 + 1) * 2 ^ digits) 1 = 2 ^ 53 * 2 ^ digits := by
  have power : 2 ^ (digits + 1) = 2 * 2 ^ digits := Nat.pow_succ'
  have positive := Nat.two_pow_pos digits
  have grid : spare ((2 ^ 53 + 1) * 2 ^ digits / 1) = digits + 1 := by
    rw [Nat.div_one]
    apply spare_eq
    · rw [power]
      omega
    · rw [power]
      exact Or.inr (by omega)
  refine nearestSteps_eq_of_near (n := 2 ^ 52) Nat.one_pos grid ?_ ?_ ?_ (Or.inl rfl)
  · rw [power]
    ring
  · rw [power]
    omega
  · rw [power]
    omega

/-! ## Errors -/

/-- Rounding moves a fraction by half the distance of the counts there at most. -/
theorem nearestSteps_near (num : Nat) (positive : 0 < den) :
    |(nearestSteps num den : ℚ) - num / den| ≤ (2 : ℚ) ^ spare (num / den) / 2 := by
  have pow := Nat.two_pow_pos (spare (num / den))
  obtain ⟨upper, lower⟩ := divHalfEven_error num (Nat.mul_pos positive pow)
  have cast : (0 : ℚ) < den := Nat.cast_pos.mpr positive
  rw [nearestSteps_eq]
  generalize divHalfEven num (den * 2 ^ spare (num / den)) = n at upper lower ⊢
  have upper' : 2 * ((n : ℚ) * (den * 2 ^ spare (num / den))) ≤
      2 * num + den * 2 ^ spare (num / den) := by exact_mod_cast upper
  have lower' : 2 * (num : ℚ) ≤ 2 * (n * (den * 2 ^ spare (num / den))) +
      den * 2 ^ spare (num / den) := by exact_mod_cast lower
  push_cast
  rw [abs_le]
  constructor
  · rw [neg_le_sub_iff_le_add, div_le_iff₀ cast]
    linarith
  · rw [sub_le_iff_le_add, ← sub_le_iff_le_add', le_div_iff₀ cast]
    linarith

/-- The relative error, and half a step where the numbers are too small for it. -/
theorem nearestSteps_relative (num : Nat) (positive : 0 < den) :
    |(nearestSteps num den : ℚ) - num / den| ≤ num / den / 2 ^ 53 + 1 / 2 := by
  have near := nearestSteps_near num positive
  have nonneg : (0 : ℚ) ≤ num / den := by positivity
  have floor : ((num / den : Nat) : ℚ) ≤ num / den := Nat.cast_div_le
  rcases Nat.eq_zero_or_pos (spare (num / den)) with none | some
  · rw [none] at near
    linarith [show (0 : ℚ) ≤ num / den / 2 ^ 53 by positivity]
  · have large := two_pow_le_of_spare some
    have large' : (2 : ℚ) ^ 52 * 2 ^ spare (num / den) ≤ ((num / den : Nat) : ℚ) := by
      rw [← pow_add]
      exact_mod_cast large
    have small : (2 : ℚ) ^ spare (num / den) / 2 ≤ num / den / 2 ^ 53 := by
      rw [le_div_iff₀ (by positivity)]
      linarith
    linarith

/-! ## A few gaps away -/

/-- A bound with a significand of 53 digits, or with the next but one, need not be representable: if it is
not, the count below it takes its place. -/
theorem nearestSteps_le_mul {digits : Nat} (positive : 0 < den) (few : n ≤ 2 ^ 53 + 2)
    (le : num ≤ n * 2 ^ digits * den) : nearestSteps num den ≤ n * 2 ^ digits := by
  rcases Nat.lt_trichotomy n (2 ^ 53 + 1) with less | tie | more
  · exact nearestSteps_le positive le (representable_mul_two_pow digits (Nat.le_of_lt_succ less))
  · subst tie
    have mono : nearestSteps num den ≤ nearestSteps ((2 ^ 53 + 1) * 2 ^ digits) 1 :=
      nearestSteps_mono positive Nat.one_pos (by rwa [Nat.mul_one])
    rw [nearestSteps_tie] at mono
    exact mono.trans (Nat.mul_le_mul_right _ (Nat.le_succ _))
  · have top : n = 2 * (2 ^ 52 + 1) := by omega
    apply nearestSteps_le positive le
    rw [top, Nat.mul_comm 2, Nat.mul_assoc, ← Nat.pow_succ']
    exact representable_mul_two_pow _ (by decide)

theorem nearestSteps_le_of_near (positive : 0 < den) (h : Representable steps)
    (near : (num : ℚ) / den ≤ steps + 11 / 4 * gap steps) :
    nearestSteps num den ≤ steps + 3 * gap steps := by
  obtain ⟨m, split, small⟩ := exists_eq_mul_gap h
  have sum : steps + 3 * gap steps = (m + 3) * gap steps := by rw [Nat.add_mul, ← split]
  have wide : (num : ℚ) / den ≤ steps + 3 * gap steps := by
    have nonneg : (0 : ℚ) ≤ gap steps := Nat.cast_nonneg _
    linarith
  rw [div_le_iff₀ (Nat.cast_pos.mpr positive)] at wide
  have bound : num ≤ (steps + 3 * gap steps) * den := by exact_mod_cast wide
  rw [sum] at bound ⊢
  exact nearestSteps_le_mul positive (by omega) bound

theorem le_nearestSteps_of_near (positive : 0 < den) (h : Representable steps)
    (near : (steps : ℚ) ≤ num / den + 11 / 4 * gap steps) :
    steps ≤ nearestSteps num den + 3 * gap steps := by
  obtain ⟨m, split, small⟩ := exists_eq_mul_gap h
  rcases Nat.le_total m 3 with few | many
  · have most : m * gap steps ≤ 3 * gap steps := Nat.mul_le_mul_right _ few
    omega
  · obtain ⟨k, rfl⟩ := Nat.exists_eq_add_of_le' many
    have sum : steps = k * gap steps + 3 * gap steps := by rwa [Nat.add_mul] at split
    have wide : (k : ℚ) * gap steps ≤ num / den := by
      have cast : (steps : ℚ) = k * gap steps + 3 * gap steps := by exact_mod_cast sum
      have nonneg : (0 : ℚ) ≤ gap steps := Nat.cast_nonneg _
      linarith
    rw [le_div_iff₀ (Nat.cast_pos.mpr positive)] at wide
    have bound : k * gap steps * den ≤ num := by exact_mod_cast wide
    have below : k * gap steps ≤ nearestSteps num den :=
      le_nearestSteps positive bound (representable_mul_two_pow _ (by omega))
    omega

end PatternSearch.Binary64
