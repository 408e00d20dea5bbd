import Mathlib.Algebra.BigOperators.Group.List.Basic
import Mathlib.Algebra.Order.Floor.Ring
import Mathlib.Data.Rat.Floor
import PatternSearch.Proofs.Number.HalfUp

/-!
# Errors of sums

An addition is off by at most one part in `2 ^ 53`. A sum of terms between zero and one is therefore
off by little, in whatever order its terms come, and it is exact if the terms lie on a grid that is
coarse enough. Rounding to a whole number takes no notice of an error that is smaller than the
distance to the nearest half.
-/

namespace PatternSearch.Binary64

attribute [local irreducible] one overflow

/-- Rounding a fraction moves it by at most one half. -/
theorem divHalfEven_error (num : Nat) {den : Nat} (positive : 0 < den) :
    2 * (divHalfEven num den * den) ≤ 2 * num + den ∧
      2 * num ≤ 2 * (divHalfEven num den * den) + den := by
  have split := Nat.div_add_mod num den
  have rest := Nat.mod_lt num positive
  have more : (num / den + 1) * den = num / den * den + den := Nat.succ_mul _ _
  rw [Nat.mul_comm] at split
  unfold divHalfEven
  dsimp only
  split
  · rename_i lt
    have below := Nat.compare_eq_lt.mp lt
    omega
  · rename_i tie
    have half := Nat.compare_eq_eq.mp tie
    rcases Nat.mod_two_eq_zero_or_one (num / den) with even | odd
    · rw [even, Nat.add_zero]
      omega
    · rw [odd, more]
      omega
  · rename_i gt
    have above := Nat.compare_eq_gt.mp gt
    rw [more]
    omega

/-- Half a unit in the last place is at most one part in `2 ^ 53`. -/
theorem nearestSteps_error (a : Nat) : 2 ^ 53 * nearestSteps a 1 ≤ 2 ^ 53 * a + a ∧
    2 ^ 53 * a ≤ 2 ^ 53 * nearestSteps a 1 + a := by
  have pow := Nat.two_pow_pos (spare a)
  obtain ⟨upper, lower⟩ := divHalfEven_error a pow
  rw [nearestSteps_eq, Nat.div_one, Nat.one_mul]
  rcases Nat.eq_zero_or_pos (spare a) with all | some
  · rw [all, Nat.pow_zero] at upper lower ⊢
    omega
  · have large := two_pow_le_of_spare some
    rw [Nat.pow_add] at large
    omega

theorem nearestInt_error (v : Int) : 2 ^ 53 * (nearestInt v - v).natAbs ≤ v.natAbs := by
  have error := nearestSteps_error v.natAbs
  rcases Int.lt_or_le v 0 with negative | nonneg
  · rw [nearestInt_of_neg negative]
    omega
  · rw [nearestInt_of_nonneg nonneg]
    omega

/-- Rounding a sum, in terms of the numbers that it stands for. -/
theorem toRat_error {x : Binary64} {v : Int} (rounded : x.value = nearestInt v) :
    |x.toRat - v / one| ≤ |(v : ℚ) / one| / 2 ^ 53 := by
  have positive : (0 : ℚ) < one := Nat.cast_pos.mpr one_pos
  have error : (2 : ℚ) ^ 53 * |(nearestInt v : ℚ) - v| ≤ |(v : ℚ)| := by
    have steps := (Nat.cast_le (α := ℚ)).mpr (nearestInt_error v)
    simpa only [Nat.cast_mul, Nat.cast_pow, Nat.cast_ofNat, Nat.cast_natAbs, Int.cast_abs,
      Int.cast_sub] using steps
  rw [toRat, rounded, ← sub_div, abs_div, abs_div, abs_of_pos positive, div_div, mul_comm,
    ← div_div]
  apply div_le_div_of_nonneg_right _ positive.le
  rw [le_div_iff₀ (by norm_num)]
  linarith

/-- What so many additions of terms between zero and one may add to the error. -/
def drift (n : Nat) : ℚ := n * (n + 1) / 2 / 2 ^ 53

theorem drift_succ (n : Nat) : drift (n + 1) = drift n + (n + 1) / 2 ^ 53 := by
  unfold drift
  push_cast
  ring

theorem toRat_nonneg {x : Binary64} (h : 0 ≤ x.value) : 0 ≤ x.toRat :=
  div_nonneg (Int.cast_nonneg h) (Nat.cast_nonneg one)

theorem toRat_le {x : Binary64} {n : Nat} (h : x.value ≤ tally n) : x.toRat ≤ n := by
  have positive : (0 : ℚ) < one := Nat.cast_pos.mpr one_pos
  rw [toRat, div_le_iff₀ positive]
  exact_mod_cast h.trans (tally_le n)

theorem le_toRat {x : Binary64} {n : Nat} (h : -tally n ≤ x.value) : -(n : ℚ) ≤ x.toRat := by
  have positive : (0 : ℚ) < one := Nat.cast_pos.mpr one_pos
  have bound : -(n : Int) * one ≤ x.value := by
    have := tally_le n
    rw [Int.neg_mul]
    omega
  rw [toRat, le_div_iff₀ positive]
  exact_mod_cast bound

theorem toRat_eq_of_value {x : Binary64} {n : Nat} (h : x.value = -tally n) :
    x.toRat = -(min n (2 ^ 53) : Nat) := by
  have positive : (one : ℚ) ≠ 0 := (Nat.cast_pos.mpr one_pos).ne'
  rw [toRat, h, tally, div_eq_iff positive]
  push_cast
  ring

theorem tally_add_le (n : Nat) (p : Prop) [Decidable p] :
    tally (n + if p then 1 else 0) ≤ tally (n + 1) := by
  apply tally_mono
  split
  · exact Nat.le_refl _
  · exact Nat.le_succ n

/-- The error of a sum of terms between zero and one, added to a number that is not above `n`. -/
theorem foldl_error (xs : List Binary64) (n : Nat) (start : Binary64)
    (finite : start.isFinite = true) (nonneg : 0 ≤ start.value) (le : start.value ≤ tally n)
    (terms : ∀ x ∈ xs, x.isFinite = true ∧ 0 ≤ x.value ∧ x.value ≤ one) :
    |(xs.foldl (· + ·) start).toRat - (start.toRat + (xs.map toRat).sum)| ≤
      drift (n + xs.length) - drift n := by
  induction xs generalizing n start with
  | nil => simp
  | cons x xs ih =>
    have term := terms x List.mem_cons_self
    obtain ⟨finiteSum, rounded, nonnegSum, leSum⟩ := value_add_term finite nonneg le term
    have rest := ih (n + 1) (start + x) finiteSum nonnegSum (leSum.trans (tally_add_le n _))
      fun y hy => terms y (List.mem_cons_of_mem x hy)
    have here := toRat_error rounded
    have split : ((start.value + x.value : Int) : ℚ) / one = start.toRat + x.toRat := by
      rw [Int.cast_add, add_div]
      rfl
    have bound : start.toRat + x.toRat ≤ n + 1 := by
      have := toRat_le le
      have := toRat_le (term.2.2.trans_eq tally_one.symm)
      push_cast at *
      linarith
    have above : 0 ≤ start.toRat + x.toRat := add_nonneg (toRat_nonneg nonneg) (toRat_nonneg term.2.1)
    rw [split, abs_of_nonneg above] at here
    have small : (start.toRat + x.toRat) / 2 ^ 53 ≤ (n + 1) / 2 ^ 53 :=
      div_le_div_of_nonneg_right bound (by norm_num)
    have grown := drift_succ n
    rw [List.foldl_cons, List.map_cons, List.sum_cons, List.length_cons,
      show n + (xs.length + 1) = n + 1 + xs.length by omega]
    rw [abs_le] at *
    constructor
    · linarith
    · linarith

theorem sum_error {xs : List Binary64}
    (terms : ∀ x ∈ xs, x.isFinite = true ∧ 0 ≤ x.value ∧ x.value ≤ one) :
    |(sum xs).toRat - (xs.map toRat).sum| ≤ drift xs.length := by
  have error := foldl_error xs 0 negZero rfl (by decide) (tally_nonneg 0) terms
  have start : negZero.toRat = 0 := zero_div _
  have none : drift 0 = 0 := by simp [drift]
  rwa [start, zero_add, Nat.zero_add, none, sub_zero] at error

/-! ## Exact sums -/

/-- Nothing is lost on a grid that 53 digits span. -/
theorem representable_of_grid {v : Int} {digits : Nat} (nonneg : 0 ≤ v)
    (grid : (2 ^ digits : Int) ∣ v) (small : v ≤ 2 ^ 53 * 2 ^ digits) : Representable v.natAbs := by
  obtain ⟨n, rfl⟩ := grid
  have positive : (0 : Int) < 2 ^ digits := by positivity
  have few : n ≤ 2 ^ 53 := by
    apply Int.le_of_mul_le_mul_left _ positive
    rwa [Int.mul_comm (2 ^ digits) (2 ^ 53)]
  have above : 0 ≤ n := Int.nonneg_of_mul_nonneg_right nonneg positive
  rw [Int.mul_comm, Int.natAbs_mul, Int.natAbs_pow]
  apply representable_mul_two_pow
  omega

theorem foldl_exact {digits : Nat} (xs : List Binary64) (n : Nat) (start : Binary64)
    (finite : start.isFinite = true) (nonneg : 0 ≤ start.value) (le : start.value ≤ tally n)
    (terms : ∀ x ∈ xs, x.isFinite = true ∧ 0 ≤ x.value ∧ x.value ≤ one)
    (onGrid : (2 ^ digits : Int) ∣ start.value) (grid : ∀ x ∈ xs, (2 ^ digits : Int) ∣ x.value)
    (small : (n + xs.length) * one ≤ 2 ^ 53 * 2 ^ digits) :
    (xs.foldl (· + ·) start).value = start.value + (xs.map value).sum := by
  induction xs generalizing n start with
  | nil => simp
  | cons x xs ih =>
    have term := terms x List.mem_cons_self
    obtain ⟨finiteSum, rounded, nonnegSum, leSum⟩ := value_add_term finite nonneg le term
    have next : (2 ^ digits : Int) ∣ start.value + x.value :=
      Int.dvd_add onGrid (grid x List.mem_cons_self)
    rw [List.length_cons, Nat.add_left_comm, Nat.add_comm xs.length] at small
    have below : start.value + x.value ≤ 2 ^ 53 * 2 ^ digits := by
      have part : (n + 1) * one ≤ 2 ^ 53 * 2 ^ digits :=
        (Nat.mul_le_mul_right one (by omega)).trans small
      have bound := tally_le n
      rw [Nat.succ_mul] at part
      zify at part
      omega
    have exact' : (start + x).value = start.value + x.value := by
      rw [rounded]
      apply nearestInt_of_representable
      exact representable_of_grid (by omega) next below
    have rest := ih (n + 1) (start + x) finiteSum nonnegSum (leSum.trans (tally_add_le n _))
      (fun y hy => terms y (List.mem_cons_of_mem x hy)) (exact' ▸ next)
      (fun y hy => grid y (List.mem_cons_of_mem x hy)) small
    rw [List.foldl_cons, List.map_cons, List.sum_cons, rest, exact', Int.add_assoc]

/-- Fractions with a power of two below are added without an error, if they are not too many. -/
theorem sum_exact {xs : List Binary64} {digits : Nat}
    (terms : ∀ x ∈ xs, x.isFinite = true ∧ 0 ≤ x.value ∧ x.value ≤ one)
    (fractions : ∀ x ∈ xs, ∃ n : Int, x.toRat = n / 2 ^ digits)
    (few : xs.length * 2 ^ digits ≤ 2 ^ 53) : (sum xs).value = (xs.map value).sum := by
  rcases List.eq_nil_or_concat xs with rfl | ⟨earlier, last, rfl⟩
  · rfl
  obtain ⟨all, large, eq, -⟩ := one_eq_two_pow
  have fine : digits ≤ 53 := by
    apply (Nat.pow_le_pow_iff_right (show 1 < 2 by decide)).mp
    rw [List.concat_eq_append, List.length_append, List.length_singleton, Nat.succ_mul] at few
    omega
  have split : one = 2 ^ digits * 2 ^ (all - digits) := by
    rw [eq, ← Nat.pow_add, Nat.add_sub_cancel' (by omega)]
  have positive : (0 : ℚ) < one := Nat.cast_pos.mpr one_pos
  have grid : ∀ x ∈ earlier.concat last, (2 ^ (all - digits) : Int) ∣ x.value := by
    intro x mem
    obtain ⟨n, fraction⟩ := fractions x mem
    refine ⟨n, ?_⟩
    rw [toRat, div_eq_div_iff positive.ne' (by positivity), split] at fraction
    have whole : x.value * 2 ^ digits = (2 ^ (all - digits) * n) * 2 ^ digits := by
      have cast : (x.value : ℚ) * 2 ^ digits = n * (2 ^ digits * 2 ^ (all - digits)) := by
        exact_mod_cast fraction
      have cast' : x.value * 2 ^ digits = n * (2 ^ digits * 2 ^ (all - digits)) := by
        exact_mod_cast cast
      rw [cast']
      ring
    exact Int.eq_of_mul_eq_mul_right (by positivity) whole
  have small : (0 + (earlier.concat last).length) * one ≤ 2 ^ 53 * 2 ^ (all - digits) := by
    rw [Nat.zero_add, split, ← Nat.mul_assoc]
    exact Nat.mul_le_mul_right _ few
  have exact' := foldl_exact _ 0 negZero rfl (by decide) (tally_nonneg 0) terms
    (Int.dvd_zero _) grid small
  rwa [show negZero.value = 0 from rfl, Int.zero_add] at exact'

/-! ## Rounding to whole numbers -/

theorem roundHalfUp_eq_floor {x : Binary64} (finite : x.isFinite = true)
    (canonical : Canonical x) : x.roundHalfUp = clamp ⌊x.toRat + 1 / 2⌋ := by
  obtain ⟨s, a, rfl⟩ := isFinite_iff.mp finite
  have positive : (0 : ℚ) < one := Nat.cast_pos.mpr one_pos
  have quotient : (Binary64.finite s a).toRat + 1 / 2 =
      ((2 * signedSteps s a + one : Int) : ℚ) / (2 * one : Nat) := by
    rw [toRat, value]
    push_cast
    field_simp
  rw [roundHalfUp_finite s canonical.1, quotient, Rat.floor_intCast_div_natCast]
  rfl

/-- An error below the distance to the nearest half does not show. -/
theorem floor_eq_of_clear {x y error : ℚ} (near : |x - y| ≤ error)
    (clear : ∀ z : Int, error < |y - (z + 1 / 2)|) : ⌊x + 1 / 2⌋ = ⌊y + 1 / 2⌋ := by
  have below := Int.floor_le (y + 1 / 2)
  have above := Int.lt_floor_add_one (y + 1 / 2)
  have left := clear (⌊y + 1 / 2⌋ - 1)
  have right := clear ⌊y + 1 / 2⌋
  push_cast at left
  rw [abs_of_nonneg (by linarith)] at left
  rw [abs_of_neg (by linarith)] at right
  rw [abs_le] at near
  apply Int.floor_eq_iff.mpr
  constructor
  · linarith
  · linarith

theorem clamp_mono_add_one {v w : Int} (h : v ≤ w + 1) : clamp v ≤ clamp w + 1 := by
  unfold clamp minInt64 maxInt64
  omega

/-- Numbers that differ by at most one do so after rounding. -/
theorem roundHalfUp_le_add_one {x y : Binary64} (finite : x.isFinite = true)
    (canonical : Canonical x) (finite' : y.isFinite = true) (canonical' : Canonical y)
    (h : x.toRat ≤ y.toRat + 1) : x.roundHalfUp ≤ y.roundHalfUp + 1 := by
  rw [roundHalfUp_eq_floor finite canonical, roundHalfUp_eq_floor finite' canonical']
  apply clamp_mono_add_one
  rw [← Int.floor_add_one]
  exact Int.floor_le_floor (by linarith)

end PatternSearch.Binary64
