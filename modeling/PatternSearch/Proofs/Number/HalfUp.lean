import Mathlib.Tactic.Linarith
import PatternSearch.Proofs.Number.Sum

/-!
# Rounding a half up

The fraction of a number is compared after a subtraction that may itself round. It never passes one
half by that: a fraction below one half is representable. Hence the result is the exact one, the
floor of the number and a half more, clamped to 64 bits.
-/

namespace PatternSearch.Binary64

/-- Steps in one half. -/
def halfStep : Nat := 1 <<< 1073

theorem half_eq : half = finite false halfStep := rfl

theorem halfStep_eq_two_pow : ∃ digits, one = 2 ^ (digits + 1) ∧ halfStep = 2 ^ digits :=
  ⟨1073, Nat.one_shiftLeft 1074, Nat.one_shiftLeft 1073⟩

attribute [local irreducible] one overflow halfStep

theorem two_mul_halfStep : 2 * halfStep = one := by
  obtain ⟨digits, eq, eq'⟩ := halfStep_eq_two_pow
  rw [eq, eq', Nat.pow_succ']

theorem representable_halfStep : Representable halfStep := by
  obtain ⟨digits, -, eq⟩ := halfStep_eq_two_pow
  rw [eq, ← Nat.one_mul (2 ^ digits)]
  exact representable_mul_two_pow digits (by decide)

/-- Clamped to 64 signed bits. -/
def clamp (v : Int) : Int := max minInt64 (min maxInt64 v)

theorem clamp_le {v bound : Int} (le : v ≤ bound) (inRange : minInt64 ≤ bound) :
    clamp v ≤ bound := by
  rw [clamp]
  omega

theorem le_clamp {v bound : Int} (le : bound ≤ v) (inRange : bound ≤ maxInt64) :
    bound ≤ clamp v := by
  rw [clamp]
  omega

theorem le_of_clamp_eq {v bound : Int} (h : clamp v = bound) (inRange : minInt64 < bound) :
    bound ≤ v := by
  rw [clamp] at h
  omega

theorem clamp_of_small {v : Int} (lower : -2 ^ 60 ≤ v) (upper : v ≤ 2 ^ 60) : clamp v = v := by
  unfold clamp minInt64 maxInt64
  omega

theorem halfStep_le_iff (v : Int) : halfStep ≤ v ↔ one ≤ 2 * v := by
  have := two_mul_halfStep
  omega

/-- Only numbers below `2 ^ 53` have a fraction. -/
theorem lt_of_not_dvd {a : Nat} (h : Representable a) (fraction : ¬one ∣ a) : a < 2 ^ 53 * one := by
  obtain ⟨digits, -, eq, -⟩ := one_eq_two_pow
  rw [eq, ← Nat.pow_add]
  apply spare_le_iff.mp
  by_contra above
  apply fraction
  rw [eq]
  exact (Nat.pow_dvd_pow 2 (by omega)).trans h

theorem natCast_dvd_signedSteps (s : Bool) {d a : Nat} (h : d ∣ a) : (d : Int) ∣ signedSteps s a := by
  cases s with
  | false => exact Int.natCast_dvd_natCast.mpr h
  | true => exact Int.dvd_neg.mpr (Int.natCast_dvd_natCast.mpr h)

theorem two_pow_spare_dvd_one {a : Nat} (small : a < 2 ^ 53 * one) : 2 ^ spare a ∣ one := by
  obtain ⟨digits, -, eq, -⟩ := one_eq_two_pow
  rw [eq, ← Nat.pow_add] at small
  rw [eq]
  exact Nat.pow_dvd_pow 2 (spare_le_iff.mpr small)

/-- A negative number lies a fraction above the whole number below it, so the fraction is not above
the number, or the number is not below one half. -/
theorem natAbs_fraction_le (s : Bool) {a : Nat} (fraction : ¬one ∣ a)
    (below : signedSteps s a % one < halfStep) : (signedSteps s a % one).natAbs ≤ a := by
  have nonneg := Int.emod_nonneg (signedSteps s a) natCast_one_pos.ne'
  cases s with
  | false =>
    have := Nat.mod_le a one
    rw [signedSteps_false] at *
    omega
  | true =>
    rw [signedSteps_true] at *
    by_contra above
    have nonzero : a ≠ 0 := by
      rintro rfl
      exact fraction (Nat.dvd_zero _)
    have sum := Int.emod_add_mul_ediv (-a : Int) one
    have := two_mul_halfStep
    have negative : (-a : Int) / one < 0 := Int.ediv_neg_of_neg_of_pos (by omega) natCast_one_pos
    have := Int.mul_le_mul_of_nonneg_left (Int.le_sub_one_of_lt negative) natCast_one_pos.le
    omega

/-- A fraction below one half has the digits of the number itself. -/
theorem representable_fraction {a : Nat} (s : Bool) (h : Representable a)
    (below : signedSteps s a % one < halfStep) : Representable (signedSteps s a % one).natAbs := by
  by_cases fraction : one ∣ a
  · rw [Int.emod_eq_zero_of_dvd (natCast_dvd_signedSteps s fraction)]
    exact representable_zero
  · have dvd : 2 ^ spare a ∣ (signedSteps s a % one).natAbs := by
      apply Int.natCast_dvd.mp
      have grid := two_pow_spare_dvd_one (lt_of_not_dvd h fraction)
      rw [Int.emod_def]
      exact Int.dvd_sub (natCast_dvd_signedSteps s h)
        (Dvd.dvd.mul_right (Int.natCast_dvd_natCast.mpr grid) _)
    have le := natAbs_fraction_le s fraction below
    exact representable_of_dvd dvd (by have := lt_two_pow_spare a; omega)

theorem halfStep_le_nearestInt {s : Bool} {a : Nat} (h : Representable a) :
    halfStep ≤ nearestInt (signedSteps s a % one) ↔ (halfStep : Int) ≤ signedSteps s a % one := by
  constructor
  · intro le
    by_contra below
    rw [nearestInt_of_representable (representable_fraction s h (by omega))] at le
    omega
  · intro le
    have fixed : nearestInt halfStep = halfStep :=
      nearestInt_of_representable (by simpa using representable_halfStep)
    rw [← fixed]
    exact nearestInt_mono le

/-- The floor keeps the sign and holds a whole number of ones. -/
theorem floor_finite (s : Bool) (a : Nat) : ∃ n : Nat, floor (finite s a) = finite s (n * one) ∧
    signedSteps s n = signedSteps s a / one := by
  have positive := one_pos
  cases s with
  | false => exact ⟨a / one, rfl, (Int.natCast_ediv a one)⟩
  | true =>
    refine ⟨(a + (one - 1)) / one, rfl, ?_⟩
    have split := Nat.div_add_mod (a + (one - 1)) one
    have rest := Nat.mod_lt (a + (one - 1)) positive
    rw [signedSteps_true, signedSteps_true]
    symm
    apply (Int.ediv_emod_unique (r := (one - 1 - (a + (one - 1)) % one : Nat)) (by omega)).mpr _ |>.1
    refine ⟨?_, by omega, by omega⟩
    rw [Int.mul_neg, ← Int.natCast_mul]
    omega

theorem sub_eq_add_neg (x y : Binary64) : x - y = x + y.neg := rfl

theorem le_finite (s t : Bool) (a b : Nat) :
    le (finite s a) (finite t b) = decide (signedSteps s a ≤ signedSteps t b) := rfl

theorem signedSteps_not_mul (s : Bool) (n : Nat) :
    signedSteps (!s) (n * one) = -(one * signedSteps s n) := by
  cases s with
  | false =>
    rw [Bool.not_false, signedSteps_true, signedSteps_false, Int.mul_comm, Int.natCast_mul]
  | true =>
    rw [Bool.not_true, signedSteps_true, signedSteps_false, Int.mul_neg, Int.neg_neg,
      Int.mul_comm, Int.natCast_mul]

/-- The fraction that the code sees, compared with one half. -/
theorem half_le_sub_floor {s : Bool} {a : Nat} (h : Representable a) :
    le half (finite s a - (finite s a).floor) = true ↔ (halfStep : Int) ≤ signedSteps s a % one := by
  obtain ⟨n, floored, whole⟩ := floor_finite s a
  have difference : signedSteps s a + signedSteps (!s) (n * one) = signedSteps s a % one := by
    have split := Int.emod_add_mul_ediv (signedSteps s a) one
    rw [← whole] at split
    have opposite := signedSteps_not_mul s n
    omega
  obtain ⟨t, sub, negative, positive⟩ := finite_add_finite s (!s) a (n * one)
  have signed := signedSteps_nearestSteps negative positive
  rw [difference] at sub signed
  rw [sub_eq_add_neg, floored, neg, sub]
  have small : nearestSteps (signedSteps s a % one).natAbs 1 < overflow := by
    have below := Int.emod_lt_of_pos (signedSteps s a) natCast_one_pos
    have nonneg := Int.emod_nonneg (signedSteps s a) natCast_one_pos.ne'
    have le : nearestSteps (signedSteps s a % one).natAbs 1 ≤ 1 * one :=
      nearestSteps_le (by decide) (by omega) (representable_whole (by decide))
    have := saturated_lt_overflow
    have := one_pos
    omega
  rw [ofSteps, if_neg (by omega), ← halfStep_le_nearestInt h, ← signed, half_eq, le_finite,
    decide_eq_true_iff, signedSteps_false]

theorem toInt64_floor (s : Bool) (a : Nat) :
    (floor (finite s a)).toInt64 = clamp (signedSteps s a / one) := by
  obtain ⟨n, floored, whole⟩ := floor_finite s a
  rw [floored, ← whole]
  change clamp (signedSteps s (n * one / one)) = _
  rw [Nat.mul_div_cancel _ one_pos]

theorem floor_half_up (v : Int) : (2 * v + one) / (2 * one) =
    v / one + if (halfStep : Int) ≤ v % one then 1 else 0 := by
  have positive := natCast_one_pos
  have split := Int.emod_add_mul_ediv v one
  have rest := Int.emod_lt_of_pos v positive
  have nonneg := Int.emod_nonneg v positive.ne'
  have threshold := halfStep_le_iff (v % one)
  apply (Int.ediv_emod_unique
    (r := 2 * (v % one) + one - if (halfStep : Int) ≤ v % one then 2 * one else 0)
    (by omega)).mpr _ |>.1
  split
  · refine ⟨?_, by omega, by omega⟩
    rw [Int.mul_add, Int.mul_assoc]
    omega
  · refine ⟨?_, by omega, by omega⟩
    rw [Int.add_zero, Int.mul_assoc]
    omega

/-- Where there is a fraction of a half or more, the clamp is far away. -/
theorem bounds_of_half_le {s : Bool} {a : Nat} (h : Representable a)
    (up : (halfStep : Int) ≤ signedSteps s a % one) :
    (-2 ^ 53 : Int) ≤ signedSteps s a / one ∧ signedSteps s a / one < (2 ^ 53 : Int) := by
  have fraction : ¬one ∣ a := by
    intro dvd
    have whole := Int.emod_eq_zero_of_dvd (natCast_dvd_signedSteps s dvd)
    have := two_mul_halfStep
    have := one_pos
    omega
  have small := lt_of_not_dvd h fraction
  have positive := natCast_one_pos
  constructor
  · apply (Int.le_ediv_iff_mul_le positive).mpr
    cases s <;> simp <;> omega
  · apply (Int.ediv_lt_iff_lt_mul positive).mpr
    cases s <;> simp <;> omega

/-- Rounding is exact: the floor of the number and one half, clamped to 64 bits. -/
theorem roundHalfUp_finite (s : Bool) {a : Nat} (h : Representable a) :
    roundHalfUp (finite s a) = clamp ((2 * signedSteps s a + one) / (2 * one)) := by
  rw [floor_half_up, roundHalfUp]
  by_cases up : (halfStep : Int) ≤ signedSteps s a % one
  · obtain ⟨lower, upper⟩ := bounds_of_half_le h up
    rw [if_pos ((half_le_sub_floor h).mpr up), if_pos up, toInt64_floor,
      clamp_of_small (by omega) (by omega), clamp_of_small (by omega) (by omega)]
  · rw [if_neg (fun le => up ((half_le_sub_floor h).mp le)), if_neg up, toInt64_floor,
      Int.add_zero]

theorem roundHalfUp_nan : roundHalfUp nan = 0 := rfl

/-- A number that is not above a whole number is not rounded above it. -/
theorem roundHalfUp_le {bound : Int} {x : Binary64} (finite : x.isFinite = true)
    (canonical : Canonical x) (h : x.value ≤ bound * one) (inRange : minInt64 ≤ bound) :
    x.roundHalfUp ≤ bound := by
  obtain ⟨s, a, rfl⟩ := isFinite_iff.mp finite
  rw [roundHalfUp_finite s canonical.1]
  apply clamp_le _ inRange
  have positive := natCast_one_pos
  apply Int.lt_add_one_iff.mp
  apply (Int.ediv_lt_iff_lt_mul (by omega)).mpr
  have le : signedSteps s a ≤ bound * one := h
  rw [Int.add_mul, Int.one_mul, Int.mul_left_comm]
  omega

/-- A number that is at most one half below a whole number is not rounded below it. -/
theorem le_roundHalfUp {bound : Int} {x : Binary64} (finite : x.isFinite = true)
    (canonical : Canonical x) (h : 2 * (bound * one) ≤ 2 * x.value + one)
    (inRange : bound ≤ maxInt64) : bound ≤ x.roundHalfUp := by
  obtain ⟨s, a, rfl⟩ := isFinite_iff.mp finite
  rw [roundHalfUp_finite s canonical.1]
  apply le_clamp _ inRange
  have positive := natCast_one_pos
  apply (Int.le_ediv_iff_mul_le (by omega)).mpr
  rw [Int.mul_left_comm]
  exact h

/-- A number that is rounded to a whole number is at most one half below it. -/
theorem le_of_roundHalfUp_eq {bound : Int} {x : Binary64} (finite : x.isFinite = true)
    (canonical : Canonical x) (h : x.roundHalfUp = bound) (inRange : minInt64 < bound) :
    2 * (bound * one) ≤ 2 * x.value + one := by
  obtain ⟨s, a, rfl⟩ := isFinite_iff.mp finite
  rw [roundHalfUp_finite s canonical.1] at h
  have le := le_of_clamp_eq h inRange
  have positive := natCast_one_pos
  have bound := (Int.le_ediv_iff_mul_le (show (0 : Int) < 2 * one by omega)).mp le
  rwa [Int.mul_left_comm] at bound

/-- One half below a whole number, as rational numbers and as steps. -/
theorem sub_half_le_toRat_iff {goal : Int} {x : Binary64} :
    (goal : ℚ) - 1 / 2 ≤ x.toRat ↔ 2 * (goal * one) ≤ 2 * x.value + one := by
  have positive : (0 : ℚ) < one := Nat.cast_pos.mpr one_pos
  have cast : 2 * (goal * one) ≤ 2 * x.value + one ↔
      (2 : ℚ) * (goal * one) ≤ 2 * x.value + one := by
    constructor
    · intro h
      exact_mod_cast h
    · intro h
      exact_mod_cast h
  rw [cast, toRat, le_div_iff₀ positive]
  constructor
  · intro h
    linarith
  · intro h
    linarith

end PatternSearch.Binary64
