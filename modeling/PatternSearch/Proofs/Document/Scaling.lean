import PatternSearch.Document.Numeral
import PatternSearch.Proofs.Number.Ratio
import PatternSearch.Proofs.Number.Shortest

/-!
# Numbers made of a significand and a power of ten

The significand is rounded, the power of ten is rounded, and so is their product or quotient; below the
inverse of the greatest power of ten there is one more division. The result is a few gaps away from the
number whose decimal it was at most, and it is that number if nothing but the last step rounds.
-/

namespace PatternSearch.Document

open Binary64 Decimal

variable {n k steps : Nat} {e : Int}

/-- The count of steps of the number nearest to a whole number. -/
def wholeSteps (n : Nat) : Nat := nearestSteps (n * one) 1

theorem wholeSteps_maxPower_lt : wholeSteps (10 ^ maxPower) < overflow := by decide +kernel

/-- The greatest power of ten is closer to its number than most of them are. -/
theorem wholeSteps_maxPower_error :
    2 ^ 56 * wholeSteps (10 ^ maxPower) ≤ 2 ^ 56 * (10 ^ maxPower * one) + 10 ^ maxPower * one ∧
      2 ^ 56 * (10 ^ maxPower * one) ≤ 2 ^ 56 * wholeSteps (10 ^ maxPower) + 10 ^ maxPower * one := by
  decide +kernel

attribute [local irreducible] one overflow

/-! ## Relative errors -/

/-- The relative error of one rounding. -/
def roundoff : ℚ := 1 / 2 ^ 53

/-- The error of `x` as `y` is at most the `δ`-fold of `y`. -/
def Within (δ x y : ℚ) : Prop := |x - y| ≤ δ * y

namespace Within

variable {δ ε x y x' y' : ℚ}

theorem refl (x : ℚ) : Within 0 x x := by simp [Within]

theorem mono (h : Within δ x y) (nonneg : 0 ≤ y) (le : δ ≤ ε) : Within ε x y :=
  le_trans h (mul_le_mul_of_nonneg_right le nonneg)

theorem mul (h : Within δ x y) (h' : Within ε x' y') (nonneg : 0 ≤ y) (nonneg' : 0 ≤ y') :
    Within (δ + ε + δ * ε) (x * x') (y * y') := by
  have split : x * x' - y * y' = (x - y) * y' + y * (x' - y') + (x - y) * (x' - y') := by ring
  have first : |(x - y) * y'| ≤ δ * y * y' := by
    rw [abs_mul, abs_of_nonneg nonneg']
    exact mul_le_mul_of_nonneg_right h nonneg'
  have second : |y * (x' - y')| ≤ y * (ε * y') := by
    rw [abs_mul, abs_of_nonneg nonneg]
    exact mul_le_mul_of_nonneg_left h' nonneg
  have both : |(x - y) * (x' - y')| ≤ δ * y * (ε * y') := by
    rw [abs_mul]
    exact mul_le_mul h h' (abs_nonneg _) ((abs_nonneg _).trans h)
  rw [Within, split]
  calc |(x - y) * y' + y * (x' - y') + (x - y) * (x' - y')|
      ≤ |(x - y) * y'| + |y * (x' - y')| + |(x - y) * (x' - y')| := abs_add_three _ _ _
    _ ≤ δ * y * y' + y * (ε * y') + δ * y * (ε * y') := add_le_add (add_le_add first second) both
    _ = (δ + ε + δ * ε) * (y * y') := by ring

theorem inv (h : Within ε x y) (positive : 0 < y) (small : ε < 1) :
    Within (ε / (1 - ε)) x⁻¹ y⁻¹ := by
  have rest : 0 < 1 - ε := by linarith
  have least : (1 - ε) * y ≤ x := by
    have below := (abs_le.mp h).1
    linarith
  have bottom : 0 < (1 - ε) * y := mul_pos rest positive
  have positive' : 0 < x := bottom.trans_le least
  have split : x⁻¹ - y⁻¹ = (y - x) / (x * y) := by field_simp
  have error : |y - x| ≤ ε * y := by
    rw [abs_sub_comm]
    exact h
  rw [Within, split, abs_div, abs_of_pos (mul_pos positive' positive)]
  calc |y - x| / (x * y) ≤ ε * y / ((1 - ε) * y * y) :=
        div_le_div₀ ((abs_nonneg _).trans error) error (mul_pos bottom positive)
          (mul_le_mul_of_nonneg_right least positive.le)
    _ = ε / (1 - ε) * y⁻¹ := by field_simp

theorem div (h : Within δ x y) (h' : Within ε x' y') (nonneg : 0 ≤ y) (positive : 0 < y')
    (small : ε < 1) : Within (δ + ε / (1 - ε) + δ * (ε / (1 - ε))) (x / x') (y / y') := by
  rw [div_eq_mul_inv, div_eq_mul_inv]
  exact h.mul (h'.inv positive small) nonneg (inv_nonneg.mpr positive.le)

/-- The error of a second rounding comes on top, and half a step where numbers are small. -/
theorem round {num den : Nat} (h : Within δ (num / den) y) (positive : 0 < den) :
    |(nearestSteps num den : ℚ) - y| ≤ (δ + roundoff + roundoff * δ) * y + 1 / 2 := by
  have rounded := nearestSteps_relative num positive
  have above := (abs_le.mp h).2
  have most : (num : ℚ) / den / 2 ^ 53 ≤ roundoff * (y + δ * y) := by
    rw [roundoff, div_eq_mul_one_div, mul_comm]
    exact mul_le_mul_of_nonneg_left (by linarith) (by norm_num)
  calc |(nearestSteps num den : ℚ) - y|
      ≤ |(nearestSteps num den : ℚ) - num / den| + |(num : ℚ) / den - y| := abs_sub_le _ _ _
    _ ≤ (num / den / 2 ^ 53 + 1 / 2) + δ * y := add_le_add rounded h
    _ ≤ (δ + roundoff + roundoff * δ) * y + 1 / 2 := by linarith

end Within

/-! ## Whole numbers -/

theorem within_wholeSteps (n : Nat) : Within roundoff (wholeSteps n) (n * one) := by
  obtain ⟨upper, lower⟩ := nearestSteps_error (n * one)
  have upper' : (2 : ℚ) ^ 53 * wholeSteps n ≤ 2 ^ 53 * (n * one) + n * one := by exact_mod_cast upper
  have lower' : (2 : ℚ) ^ 53 * (n * one) ≤ 2 ^ 53 * wholeSteps n + n * one := by exact_mod_cast lower
  rw [Within, roundoff, abs_le]
  constructor
  · linarith
  · linarith

theorem within_wholeSteps_maxPower :
    Within (roundoff / 8) (wholeSteps (10 ^ maxPower)) ((10 ^ maxPower : Nat) * one) := by
  obtain ⟨upper, lower⟩ := wholeSteps_maxPower_error
  generalize 10 ^ maxPower = n at upper lower ⊢
  have upper' : (2 : ℚ) ^ 56 * wholeSteps n ≤ 2 ^ 56 * (n * one) + n * one := by exact_mod_cast upper
  have lower' : (2 : ℚ) ^ 56 * (n * one) ≤ 2 ^ 56 * wholeSteps n + n * one := by exact_mod_cast lower
  rw [Within, roundoff, abs_le]
  constructor
  · linarith
  · linarith

theorem wholeSteps_eq (small : n ≤ 2 ^ 53) : wholeSteps n = n * one :=
  nearestSteps_one (representable_whole small)

/-- The powers of ten that are numbers themselves. -/
theorem wholeSteps_tenPow (few : k ≤ 22) : wholeSteps (10 ^ k) = 10 ^ k * one := by
  obtain ⟨digits, -, eq, -⟩ := one_eq_two_pow
  have odd : 5 ^ k ≤ 2 ^ 53 :=
    (Nat.pow_le_pow_right (by decide) few).trans (show 5 ^ 22 ≤ 2 ^ 53 by decide)
  have split : 10 ^ k * one = 5 ^ k * 2 ^ (k + digits) := by
    rw [eq, Nat.pow_add, ← Nat.mul_assoc, ← Nat.mul_pow]
  rw [wholeSteps, split]
  exact nearestSteps_one (representable_mul_two_pow _ odd)

theorem one_le_wholeSteps (positive : 0 < n) : one ≤ wholeSteps n := one_le_nearestSteps positive

theorem wholeSteps_pos (positive : 0 < n) : 0 < wholeSteps n := one_pos.trans_le (one_le_wholeSteps positive)

theorem wholeSteps_tenPow_pos (k : Nat) : 0 < wholeSteps (10 ^ k) :=
  wholeSteps_pos (Nat.pow_pos (by decide))

theorem ofNat_eq_wholeSteps (small : n < 2 ^ 64) : ofNat n = finite false (wholeSteps n) :=
  ofNat_eq_finite small

theorem powerOfTen_eq (few : k ≤ maxPower) : powerOfTen k = finite false (wholeSteps (10 ^ k)) := by
  have most : wholeSteps (10 ^ k) ≤ wholeSteps (10 ^ maxPower) :=
    nearestSteps_one_mono (Nat.mul_le_mul_right one (Nat.pow_le_pow_right (by decide) few))
  have below := wholeSteps_maxPower_lt
  have made : powerOfTen k = ofSteps false (wholeSteps (10 ^ k)) := rfl
  rw [made, ofSteps, if_neg (by omega)]

/-! ## The steps of the computation -/

/-- The count of steps that is made of a significand and an exponent. -/
def scaledSteps (n : Nat) (e : Int) : Nat :=
  if 0 ≤ e then nearestSteps (wholeSteps n * wholeSteps (10 ^ e.natAbs)) one
  else if e.natAbs ≤ maxPower then nearestSteps (wholeSteps n * one) (wholeSteps (10 ^ e.natAbs))
  else nearestSteps (nearestSteps (wholeSteps n * one) (wholeSteps (10 ^ maxPower)) * one)
    (wholeSteps (10 ^ (e.natAbs - maxPower)))

theorem representable_scaledSteps (n : Nat) (e : Int) : Representable (scaledSteps n e) := by
  rw [scaledSteps]
  split
  · exact representable_nearestSteps _ Binary64.one_pos
  · split
    · exact representable_nearestSteps _ (wholeSteps_tenPow_pos _)
    · exact representable_nearestSteps _ (wholeSteps_tenPow_pos _)

theorem finite_div_powerOfTen (a : Nat) (few : k ≤ maxPower) :
    finite false a / powerOfTen k = ofSteps false (nearestSteps (a * one) (wholeSteps (10 ^ k))) := by
  rw [powerOfTen_eq few, finite_div false false (wholeSteps_tenPow_pos k).ne']
  rfl

theorem divideByPower_of_le (x : Binary64) (few : k ≤ maxPower) (fuel : Nat) :
    divideByPower x k fuel = x / powerOfTen k := by
  cases fuel with
  | zero => rw [divideByPower]
  | succ fuel => rw [divideByPower, if_pos few]

/-- The number is the one that the steps make, if they do not run over. -/
theorem scaled?_eq (positive : 0 < n) (small : n < 2 ^ 64) (least : -(2 * maxPower : Nat) < e)
    (most : e ≤ maxPower) (finite : scaledSteps n e < overflow) :
    scaled? n e = some (.finite false (scaledSteps n e)) := by
  have made {steps : Nat} (h : steps < overflow) : ofSteps false steps = .finite false steps := by
    rw [ofSteps, if_neg (Nat.not_le.mpr h)]
  rw [scaled?, ofNat_eq_wholeSteps small]
  dsimp only
  by_cases nonneg : 0 ≤ e
  · have same : e.toNat = e.natAbs := by omega
    have product : Binary64.finite false (wholeSteps n) * .finite false (wholeSteps (10 ^ e.natAbs)) =
        ofSteps false (nearestSteps (wholeSteps n * wholeSteps (10 ^ e.natAbs)) one) := rfl
    rw [scaledSteps, if_pos nonneg] at finite ⊢
    rw [if_neg (by omega), if_pos (by omega), same, powerOfTen_eq (by omega), product, made finite]
    rfl
  · rw [if_pos (by omega)]
    rw [scaledSteps, if_neg nonneg] at finite ⊢
    by_cases few : e.natAbs ≤ maxPower
    · rw [if_pos few] at finite ⊢
      rw [divideByPower_of_le _ few, finite_div_powerOfTen _ few, made finite]
    · rw [if_neg few] at finite ⊢
      have once : e.natAbs / maxPower = 1 := by
        apply Nat.div_eq_of_lt_le <;> omega
      have other : Binary64.finite false (wholeSteps n) ≠ .zero := by
        have some := wholeSteps_pos positive
        intro none
        have nothing := (Binary64.finite.inj none).2
        omega
      -- The first quotient is smaller than the significand.
      have below : nearestSteps (wholeSteps n * one) (wholeSteps (10 ^ maxPower)) < overflow := by
        have power : one ≤ wholeSteps (10 ^ maxPower) := one_le_wholeSteps (Nat.pow_pos (by decide))
        have quotient : nearestSteps (wholeSteps n * one) (wholeSteps (10 ^ maxPower)) ≤ wholeSteps n :=
          nearestSteps_le (one_pos.trans_le power) (Nat.mul_le_mul_left _ power)
            (representable_nearestSteps _ Nat.one_pos)
        have canonical := (ofNat_eq_wholeSteps small ▸ canonical_ofNat n).2
        exact quotient.trans_lt canonical
      rw [once, divideByPower, if_neg few, if_neg other, finite_div_powerOfTen _ (Nat.le_refl _),
        made below, divideByPower_of_le _ (by omega), finite_div_powerOfTen _ (by omega), made finite]

/-! ## The error of the computation -/

theorem inSteps_of_nonneg (nonneg : 0 ≤ e) :
    inSteps ⟨n, e⟩ = n * one * ((10 ^ e.natAbs : Nat) * one) / one := by
  have unit : (one : ℚ) ≠ 0 := cast_one_pos.ne'
  have same : e = (e.natAbs : Int) := by omega
  rw [inSteps]
  conv_lhs => rw [same, zpow_natCast]
  push_cast
  field_simp

theorem inSteps_neg_natCast (n k : Nat) :
    inSteps ⟨n, -(k : Int)⟩ = n * one * one / ((10 ^ k : Nat) * one) := by
  have unit : (one : ℚ) ≠ 0 := cast_one_pos.ne'
  rw [inSteps, zpow_neg, zpow_natCast]
  push_cast
  field_simp

theorem inSteps_of_neg (negative : e < 0) :
    inSteps ⟨n, e⟩ = n * one * one / ((10 ^ e.natAbs : Nat) * one) := by
  have same : e = -(e.natAbs : Int) := by omega
  conv_lhs => rw [same]
  exact inSteps_neg_natCast n e.natAbs

theorem inSteps_nonneg (d : Decimal) : 0 ≤ d.inSteps :=
  mul_nonneg (mul_nonneg (Nat.cast_nonneg _) (zpow_pos (by norm_num) _).le) (Nat.cast_nonneg _)

/-- The fraction of steps that the last step rounds is a little off the decimal. -/
def Off (n : Nat) (e : Int) (v : ℚ) : Prop :=
  |v - inSteps ⟨n, e⟩| ≤ 11 / 5 * roundoff * inSteps ⟨n, e⟩ + 1 / 20

theorem Within.off {v δ : ℚ} (h : Within δ v (inSteps ⟨n, e⟩)) (le : δ ≤ 11 / 5 * roundoff) :
    Off n e v := by
  have bound := h.mono (inSteps_nonneg _) le
  unfold Within at bound
  rw [Off]
  linarith

theorem cast_whole_pos (positive : 0 < n) : (0 : ℚ) < n * one :=
  mul_pos (Nat.cast_pos.mpr positive) cast_one_pos

theorem cast_tenPow_pos (k : Nat) : (0 : ℚ) < (10 ^ k : Nat) * one :=
  cast_whole_pos (Nat.pow_pos (by decide))

theorem off_product (nonneg : 0 ≤ e) :
    Off n e ((wholeSteps n * wholeSteps (10 ^ e.natAbs) : Nat) / one) := by
  have error := ((within_wholeSteps n).mul (within_wholeSteps (10 ^ e.natAbs)) (by positivity)
    (by positivity)).div (.refl one) (by positivity) cast_one_pos (by norm_num)
  rw [← inSteps_of_nonneg nonneg] at error
  push_cast
  exact error.off (by norm_num [roundoff])

theorem off_quotient (negative : e < 0) :
    Off n e ((wholeSteps n * one : Nat) / wholeSteps (10 ^ e.natAbs)) := by
  have error := ((within_wholeSteps n).mul (.refl one) (by positivity) (by positivity)).div
    (within_wholeSteps (10 ^ e.natAbs)) (by positivity) (cast_tenPow_pos _) (by norm_num [roundoff])
  rw [← inSteps_of_neg negative] at error
  push_cast
  exact error.off (by norm_num [roundoff])

theorem within_first_quotient (n : Nat) :
    Within (23 / 20 * roundoff) ((wholeSteps n * one : Nat) / wholeSteps (10 ^ maxPower))
      (inSteps ⟨n, -(maxPower : Int)⟩) := by
  have error := ((within_wholeSteps n).mul (.refl one) (by positivity) (by positivity)).div
    within_wholeSteps_maxPower (by positivity) (cast_tenPow_pos _) (by norm_num [roundoff])
  rw [← inSteps_neg_natCast] at error
  push_cast
  exact error.mono (inSteps_nonneg _) (by norm_num [roundoff])

/-- The second division is by a power of ten that is exact, and it leaves little of the half step that
the first one may cost. -/
theorem off_second_quotient (more : maxPower < e.natAbs) (few : e.natAbs ≤ maxPower + 22)
    (negative : e < 0) :
    Off n e ((nearestSteps (wholeSteps n * one) (wholeSteps (10 ^ maxPower)) * one : Nat) /
      wholeSteps (10 ^ (e.natAbs - maxPower))) := by
  have rounded := (within_first_quotient n).round (wholeSteps_tenPow_pos maxPower)
  have nonneg := inSteps_nonneg ⟨n, -(maxPower : Int)⟩
  have value : inSteps ⟨n, e⟩ = inSteps ⟨n, -(maxPower : Int)⟩ / 10 ^ (e.natAbs - maxPower) := by
    have split : e = -(maxPower : Int) - (e.natAbs - maxPower : Nat) := by omega
    rw [inSteps, inSteps]
    conv_lhs => rw [split, zpow_sub₀ (by norm_num), zpow_natCast]
    ring
  have large : (10 : ℚ) ≤ 10 ^ (e.natAbs - maxPower) := by
    conv_lhs => rw [← pow_one (10 : ℚ)]
    exact pow_le_pow_right₀ (by norm_num) (by omega)
  rw [Off, value, wholeSteps_tenPow (k := e.natAbs - maxPower) (by omega)]
  generalize nearestSteps (wholeSteps n * one) (wholeSteps (10 ^ maxPower)) = quotient at rounded ⊢
  generalize inSteps ⟨n, -(maxPower : Int)⟩ = v at rounded nonneg ⊢
  push_cast
  generalize (10 : ℚ) ^ (e.natAbs - maxPower) = tens at large ⊢
  have unit := cast_one_pos
  have positive : 0 < tens := by linarith
  have parts : quotient * one / (tens * one) - v / tens = (quotient - v) / tens := by field_simp
  have relative : 23 / 20 * roundoff + roundoff + roundoff * (23 / 20 * roundoff) ≤
      11 / 5 * roundoff := by norm_num [roundoff]
  have counted := mul_le_mul_of_nonneg_right relative nonneg
  rw [parts, abs_div, abs_of_pos positive, div_le_iff₀ positive, add_mul, mul_assoc,
    div_mul_cancel₀ _ positive.ne']
  linarith

/-- Whatever the exponent, the last step rounds a fraction that is a little off the decimal. -/
theorem exists_scaledSteps_eq (least : -(maxPower + 22 : Nat) ≤ e) :
    ∃ num den, 0 < den ∧ scaledSteps n e = nearestSteps num den ∧ Off n e (num / den) := by
  by_cases nonneg : 0 ≤ e
  · exact ⟨_, _, Binary64.one_pos, if_pos nonneg, off_product nonneg⟩
  · by_cases few : e.natAbs ≤ maxPower
    · refine ⟨_, _, wholeSteps_tenPow_pos _, ?_, off_quotient (by omega)⟩
      rw [scaledSteps, if_neg nonneg, if_pos few]
    · refine ⟨_, _, wholeSteps_tenPow_pos _, ?_,
        off_second_quotient (by omega) (by omega) (by omega)⟩
      rw [scaledSteps, if_neg nonneg, if_neg few]

/-! ## Back at the number -/

theorem abs_sub_le_of_off {v : ℚ} (h : Representable steps)
    (has : (interval steps).Has (inSteps ⟨n, e⟩)) (off : Off n e v) :
    |v - steps| ≤ 11 / 4 * gap steps := by
  have near := abs_sub_le_of_has has
  have some : (1 : ℚ) ≤ gap steps := by exact_mod_cast gap_pos steps
  have small : (steps : ℚ) + gap steps ≤ 2 ^ 53 * gap steps := by
    exact_mod_cast add_gap_le h
  have below : inSteps ⟨n, e⟩ ≤ 2 ^ 53 * gap steps := by
    have := (abs_le.mp near).2
    linarith
  have relative : 11 / 5 * roundoff * inSteps ⟨n, e⟩ ≤ 11 / 5 * gap steps := by
    rw [roundoff]
    linarith
  unfold Off at off
  calc |v - steps| ≤ |v - inSteps ⟨n, e⟩| + |inSteps ⟨n, e⟩ - steps| := abs_sub_le _ _ _
    _ ≤ (11 / 5 * roundoff * inSteps ⟨n, e⟩ + 1 / 20) + gap steps / 2 := add_le_add off near
    _ ≤ 11 / 4 * gap steps := by linarith

/-- A decimal that rounds to a number makes one that is three gaps away from it at most. -/
theorem scaledSteps_near (h : Representable steps) (has : (interval steps).Has (inSteps ⟨n, e⟩))
    (least : -(maxPower + 22 : Nat) ≤ e) :
    scaledSteps n e ≤ steps + 3 * gap steps ∧ steps ≤ scaledSteps n e + 3 * gap steps := by
  obtain ⟨num, den, positive', same, off⟩ := exists_scaledSteps_eq (n := n) least
  obtain ⟨lower, upper⟩ := abs_le.mp (abs_sub_le_of_off h has off)
  rw [same]
  constructor
  · exact nearestSteps_le_of_near positive' h (by linarith)
  · exact le_nearestSteps_of_near positive' h (by linarith)

/-- If the significand and the power of ten are numbers themselves, nothing but the last step rounds, and
it finds the number. -/
theorem scaledSteps_exact (h : Representable steps) (has : (interval steps).Has (inSteps ⟨n, e⟩))
    (small : n ≤ 2 ^ 53) (few : e.natAbs ≤ 22) : scaledSteps n e = steps := by
  rw [scaledSteps, wholeSteps_eq small, wholeSteps_tenPow few]
  split
  · next nonneg =>
    rw [inSteps_of_nonneg nonneg] at has
    exact nearestSteps_of_has h one_pos (by exact_mod_cast has)
  · next negative =>
    rw [inSteps_of_neg (by omega)] at has
    rw [if_pos (few.trans (by decide))]
    exact nearestSteps_of_has h (Nat.mul_pos (Nat.pow_pos (by decide)) one_pos)
      (by exact_mod_cast has)

end PatternSearch.Document
