import PatternSearch.Proofs.Number.Sum

/-!
# Ratios of counts

A count divided by a greater one is a number between zero and one. Counts beyond all finite numbers
may leave no number at all, and nothing else can go wrong.
-/

namespace PatternSearch.Binary64

attribute [local irreducible] one overflow

theorem ofNat_eq (n : Nat) : ofNat n = ofSteps false (nearestSteps (n * one) 1) := rfl

theorem finite_div (s t : Bool) {a b : Nat} (h : b ≠ 0) :
    finite s a / finite t b = nearest (s != t) (a * one) b := if_neg h

theorem infinite_div_infinite (s t : Bool) : infinite s / infinite t = nan := rfl

theorem finite_div_infinite (s t : Bool) (a : Nat) : finite s a / infinite t = finite (s != t) 0 := rfl

theorem one_le_nearestSteps {n : Nat} (h : 0 < n) : one ≤ nearestSteps (n * one) 1 := by
  apply le_nearestSteps (by decide)
  · rw [Nat.mul_one]
    exact Nat.le_mul_of_pos_left one h
  · exact representable_one

theorem ofNat_zero : ofNat 0 = zero := by
  rw [ofNat_eq, Nat.zero_mul, nearestSteps_zero, ofSteps_zero]
  rfl

theorem ofNat_one : ofNat 1 = finite false one := by
  have below := one_lt_overflow
  rw [ofNat_eq, Nat.one_mul, nearestSteps_one representable_one, ofSteps, if_neg (by omega)]

theorem ratio_eq_nan_or {a b : Nat} (le : a ≤ b) (positive : 0 < b) :
    ofNat a / ofNat b = nan ∨
      (ofNat a / ofNat b).isFinite = true ∧ 0 ≤ (ofNat a / ofNat b).value ∧
        (ofNat a / ofNat b).value ≤ one := by
  have steps := nearestSteps_one_mono (Nat.mul_le_mul_right one le)
  have large := one_le_nearestSteps positive
  have positiveOne := one_pos
  rw [ofNat_eq, ofNat_eq]
  simp only [ofSteps]
  by_cases huge : overflow ≤ nearestSteps (b * one) 1
  · rw [if_pos huge]
    by_cases huge' : overflow ≤ nearestSteps (a * one) 1
    · rw [if_pos huge', infinite_div_infinite]
      exact Or.inl rfl
    · rw [if_neg huge', finite_div_infinite]
      refine Or.inr ⟨rfl, ?_⟩
      change (0 : Int) ≤ 0 ∧ (0 : Int) ≤ one
      omega
  · rw [if_neg huge, if_neg (by omega), finite_div false false (by omega)]
    have quotient : nearestSteps (nearestSteps (a * one) 1 * one) (nearestSteps (b * one) 1) ≤ one := by
      apply nearestSteps_le (by omega)
      · rw [Nat.mul_comm one]
        exact Nat.mul_le_mul_right one steps
      · exact representable_one
    have below := one_lt_overflow
    refine Or.inr ?_
    rw [nearest, ofSteps, if_neg (by omega)]
    refine ⟨rfl, Int.natCast_nonneg _, ?_⟩
    exact Int.ofNat_le.mpr quotient

/-- Counts that fit into 64 bits are far from the infinities. -/
theorem ofNat_eq_finite {n : Nat} (small : n < 2 ^ 64) :
    ofNat n = finite false (nearestSteps (n * one) 1) := by
  obtain ⟨digits, -, eq, eq'⟩ := one_eq_two_pow
  have large : nearestSteps (n * one) 1 ≤ 2 ^ 64 * one := by
    apply nearestSteps_le (by decide)
    · have := Nat.mul_le_mul_right one small.le
      omega
    · rw [eq, ← Nat.pow_add, ← Nat.one_mul (2 ^ (64 + digits))]
      exact representable_mul_two_pow _ (by decide)
  have below : 2 ^ 64 * one < overflow := by
    rw [eq, eq', ← Nat.pow_add]
    exact Nat.pow_lt_pow_right (by decide) (by omega)
  rw [ofNat_eq, ofSteps, if_neg (by omega)]

theorem toRat_ofNat {n : Nat} (small : n < 2 ^ 64) :
    (ofNat n).toRat = nearestSteps (n * one) 1 / (one : ℚ) := by
  rw [ofNat_eq_finite small]
  rfl

theorem toRat_ofNat_pos {n : Nat} (positive : 0 < n) (small : n < 2 ^ 64) :
    0 < (ofNat n).toRat := by
  have large := one_le_nearestSteps positive
  rw [toRat_ofNat small]
  exact div_pos (Nat.cast_pos.mpr (one_pos.trans_le large)) (Nat.cast_pos.mpr one_pos)

theorem toRat_ofNat_mono {a b : Nat} (le : a ≤ b) (small : b < 2 ^ 64) :
    (ofNat a).toRat ≤ (ofNat b).toRat := by
  have steps := nearestSteps_one_mono (Nat.mul_le_mul_right one le)
  rw [toRat_ofNat small, toRat_ofNat (le.trans_lt small)]
  exact div_le_div_of_nonneg_right (Nat.cast_le.mpr steps) (Nat.cast_nonneg one)

/-- A ratio of counts that fit into 64 bits is a number. -/
theorem ratio_ne_nan {a b : Nat} (le : a ≤ b) (positive : 0 < b) (small : b < 2 ^ 64) :
    ofNat a / ofNat b ≠ nan := by
  have large := one_le_nearestSteps positive
  have positiveOne := one_pos
  rw [ofNat_eq_finite small, ofNat_eq_finite (by omega), finite_div false false (by omega), nearest,
    ofSteps]
  split
  · intro spoiled
    cases spoiled
  · intro spoiled
    cases spoiled

theorem value_zero_ratio {b : Nat} (positive : 0 < b) : (ofNat 0 / ofNat b).value = 0 := by
  have large := one_le_nearestSteps positive
  have positiveOne := one_pos
  rw [ofNat_zero, ofNat_eq, zero, ofSteps]
  split
  · rfl
  · rw [finite_div false false (by omega), nearest, Nat.zero_mul]
    have none : nearestSteps 0 (nearestSteps (b * one) 1) = 0 :=
      Nat.le_zero.mp (nearestSteps_le (by omega) (by omega) representable_zero)
    rw [none, ofSteps_zero]
    rfl

theorem canonical_ofNat (n : Nat) : Canonical (ofNat n) :=
  canonical_ofSteps false (representable_nearestSteps _ (by decide))

theorem canonical_zero (s : Bool) : Canonical (finite s 0) :=
  ⟨representable_zero, one_pos.trans one_lt_overflow⟩

theorem canonical_div (x y : Binary64) : Canonical (x / y) := by
  cases x with
  | nan => trivial
  | infinite s => cases y <;> trivial
  | finite s a =>
    cases y with
    | nan => trivial
    | infinite t => exact canonical_zero _
    | finite t b =>
      by_cases none : b = 0
      · subst none
        by_cases nothing : a = 0
        · subst nothing
          trivial
        · change Canonical (div _ _)
          rw [div, if_pos rfl, if_neg nothing]
          trivial
      · rw [finite_div s t none]
        exact canonical_ofSteps _ (representable_nearestSteps _ (Nat.pos_of_ne_zero none))

end PatternSearch.Binary64
