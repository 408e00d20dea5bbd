import PatternSearch.Number.Shortest
import PatternSearch.Proofs.Number.Neighbour

/-!
# The shortest decimal rounds to its number

The decimal that is chosen for a count of steps lies in the interval of what is rounded to that count. It
has at most nineteen digits, and its last digit stands at the 324th place behind the point at the latest.
That no shorter decimal would do is not claimed here.
-/

namespace PatternSearch.Decimal

open Binary64

/-- The place behind the point at which every last digit stands, or before it. -/
def lastPlace : Nat := 324

theorem lastPlace_le : lastPlace ≤ 330 := by decide

/-- The unit of the last place is at most half of a step. -/
theorem two_mul_one_le : 2 * one ≤ 10 ^ lastPlace := by decide +kernel

theorem three_mul_overflow_le : 3 * overflow ≤ 2 * (10 ^ 309 * one) := by decide +kernel

theorem quarterOne_eq : quarterOne = 4 * one := rfl

attribute [local irreducible] one overflow quarterOne lastPlace

variable {steps n : Nat} {e : Int}

/-- The decimal, counted in steps. -/
def inSteps (d : Decimal) : ℚ := d.digits * 10 ^ d.exponent * one

theorem cast_one_pos : (0 : ℚ) < one := Nat.cast_pos.mpr one_pos

/-! ## The interval of a number -/

namespace Interval

/-- The number of steps lies in the interval. -/
def Has (i : Interval) (v : ℚ) : Prop :=
  if i.closed then (i.low : ℚ) ≤ 4 * v ∧ 4 * v ≤ i.high else (i.low : ℚ) < 4 * v ∧ 4 * v < i.high

theorem Has.bounds {i : Interval} {v : ℚ} (h : i.Has v) : (i.low : ℚ) ≤ 4 * v ∧ 4 * v ≤ i.high := by
  unfold Has at h
  split at h
  · exact h
  · exact ⟨h.1.le, h.2.le⟩

theorem has_of_lt {i : Interval} {v : ℚ} (lower : (i.low : ℚ) < 4 * v) (upper : 4 * v < i.high) :
    i.Has v := by
  unfold Has
  split
  · exact ⟨lower.le, upper.le⟩
  · exact ⟨lower, upper⟩

theorem holds_iff (i : Interval) {value scale : Nat} (positive : 0 < scale) :
    i.holds value scale = true ↔ i.Has (value / scale / 4) := by
  have cast : (0 : ℚ) < scale := Nat.cast_pos.mpr positive
  have quarters : 4 * ((value : ℚ) / scale / 4) = value / scale := by ring
  rw [holds, Has, quarters, le_div_iff₀ cast, div_le_iff₀ cast, lt_div_iff₀ cast, div_lt_iff₀ cast]
  norm_cast
  split
  · simp
  · simp

end Interval

theorem interval_low (steps : Nat) : (interval steps).low =
    4 * steps - if steps = 2 ^ 52 * gap steps ∧ 1 < gap steps then gap steps else 2 * gap steps := by
  simp only [interval, gap, Nat.shiftLeft_eq, Nat.one_mul, Nat.mul_comm (2 ^ 52)]

theorem interval_middle (steps : Nat) : (interval steps).middle = 4 * steps := rfl

theorem interval_high (steps : Nat) : (interval steps).high = 4 * steps + 2 * gap steps := by
  simp only [interval, gap, Nat.one_shiftLeft]

theorem interval_closed (steps : Nat) : (interval steps).closed = (steps / gap steps % 2 == 0) := by
  simp only [interval, gap, Nat.one_shiftLeft]

theorem interval_low_lt (positive : 0 < steps) : (interval steps).low < 4 * steps := by
  have wide := gap_pos steps
  rw [interval_low]
  split <;> omega

theorem le_interval_low_add (steps : Nat) : 4 * steps ≤ (interval steps).low + 2 * gap steps := by
  rw [interval_low]
  split <;> omega

/-- What rounds to a number is not further away than half of its gap. -/
theorem abs_sub_le_of_has {v : ℚ} (has : (interval steps).Has v) : |v - steps| ≤ gap steps / 2 := by
  obtain ⟨lower, upper⟩ := has.bounds
  have least : (4 * steps : ℚ) ≤ (interval steps).low + 2 * gap steps := by
    exact_mod_cast le_interval_low_add steps
  rw [interval_high] at upper
  push_cast at upper
  rw [abs_le]
  constructor
  · linarith
  · linarith

/-! ## Rounding what lies in the interval -/

section Rounding

variable {num den : Nat}

/-- The bounds in whole numbers; they are strict if the significand is odd. -/
theorem bounds_of_has (positive : 0 < den) (has : (interval steps).Has (num / den)) :
    (interval steps).low * den ≤ 4 * num ∧ 4 * num ≤ (interval steps).high * den ∧
      (steps / gap steps % 2 = 0 ∨
        (interval steps).low * den < 4 * num ∧ 4 * num < (interval steps).high * den) := by
  have cast : (0 : ℚ) < den := Nat.cast_pos.mpr positive
  have quarter : 4 * ((num : ℚ) / den) = (4 * num : Nat) / den := by
    push_cast
    ring
  unfold Interval.Has at has
  rw [quarter, le_div_iff₀ cast, div_le_iff₀ cast, lt_div_iff₀ cast, div_lt_iff₀ cast,
    interval_closed] at has
  norm_cast at has
  split at has
  · next even => exact ⟨has.1, has.2, Or.inl (by simpa using even)⟩
  · exact ⟨has.1.le, has.2.le, Or.inr has⟩

/-- Below a power of two the grid is the finer one. -/
theorem nearestSteps_of_has_below (positive : 0 < den) (has : (interval steps).Has (num / den))
    (power : steps = 2 ^ 52 * gap steps) (coarse : 1 < gap steps) (below : num < steps * den) :
    nearestSteps num den = steps := by
  obtain ⟨lower, -, -⟩ := bounds_of_has positive has
  obtain ⟨digits, some⟩ : ∃ digits, spare steps = digits + 1 := by
    refine ⟨spare steps - 1, ?_⟩
    by_contra none
    rw [gap, show spare steps = 0 by omega] at coarse
    exact absurd coarse (by decide)
  have double : gap steps = 2 * 2 ^ digits := by rw [gap, some, Nat.pow_succ']
  rw [interval_low, if_pos ⟨power, coarse⟩, Nat.sub_mul] at lower
  have product := congrArg (· * den) power
  have product' := congrArg (· * den) double
  simp only [Nat.mul_assoc] at product product' lower
  have spread := Nat.mul_pos (gap_pos steps) positive
  have grid : spare (num / den) = digits := by
    apply spare_eq
    · rw [Nat.div_lt_iff_lt_mul positive, Nat.mul_assoc]
      omega
    · rw [Nat.le_div_iff_mul_le positive, Nat.mul_assoc]
      exact Or.inr (by omega)
  refine nearestSteps_eq_of_near (n := 2 ^ 53) positive grid ?_ ?_ ?_ (Or.inl rfl)
  · omega
  · omega
  · omega

/-- Anywhere else it is the grid of the number itself. -/
theorem spare_of_has (h : Representable steps) (positive : 0 < den)
    (has : (interval steps).Has (num / den))
    (regular : steps = 2 ^ 52 * gap steps → 1 < gap steps → steps * den ≤ num) :
    spare (num / den) = spare steps := by
  obtain ⟨lower, upper, -⟩ := bounds_of_has positive has
  obtain ⟨m, split, small⟩ := exists_eq_mul_gap h
  have least := Nat.mul_le_mul_right den (le_interval_low_add steps)
  have spread := Nat.mul_pos (gap_pos steps) positive
  rw [interval_high] at upper
  simp only [Nat.add_mul, Nat.mul_assoc] at upper least
  apply spare_eq
  · have most := Nat.mul_le_mul_right den (add_gap_le h)
    simp only [Nat.add_mul, Nat.mul_assoc] at most
    rw [Nat.div_lt_iff_lt_mul positive, ← gap, Nat.mul_assoc]
    omega
  · rcases Nat.eq_zero_or_pos (spare steps) with none | some
    · exact Or.inl none
    · have coarse : 1 < gap steps := Nat.one_lt_two_pow some.ne'
      have large : 2 ^ 52 ≤ m :=
        Nat.le_of_mul_le_mul_right ((mul_gap_le coarse).trans_eq split) (gap_pos steps)
      rw [Nat.le_div_iff_mul_le positive, ← gap, Nat.mul_assoc]
      refine Or.inr ?_
      by_cases power : m = 2 ^ 52
      · rw [power] at split
        have above := regular split coarse
        have product := congrArg (· * den) split
        simp only [Nat.mul_assoc] at product
        omega
      · have next : (2 ^ 52 + 1) * gap steps ≤ steps := by
          conv_rhs => rw [split]
          exact Nat.mul_le_mul_right _ (by omega)
        have product := Nat.mul_le_mul_right den next
        simp only [Nat.add_mul, Nat.one_mul, Nat.mul_assoc] at product
        omega

/-- Rounding takes everything in the interval to the number. -/
theorem nearestSteps_of_has (h : Representable steps) (positive : 0 < den)
    (has : (interval steps).Has (num / den)) : nearestSteps num den = steps := by
  by_cases below : steps = 2 ^ 52 * gap steps ∧ 1 < gap steps ∧ num < steps * den
  · obtain ⟨power, coarse, less⟩ := below
    exact nearestSteps_of_has_below positive has power coarse less
  · have grid := spare_of_has h positive has fun power coarse =>
      not_lt.mp fun less => below ⟨power, coarse, less⟩
    obtain ⟨lower, upper, even⟩ := bounds_of_has positive has
    obtain ⟨m, split, -⟩ := exists_eq_mul_gap h
    have least := Nat.mul_le_mul_right den (le_interval_low_add steps)
    rw [interval_high] at upper even
    rw [Nat.div_eq_of_eq_mul_left (gap_pos steps) split] at even
    simp only [Nat.add_mul, Nat.mul_assoc] at upper even least
    refine nearestSteps_eq_of_near (n := m) positive grid split ?_ ?_ ?_
    · rw [← gap]
      omega
    · rw [← gap]
      omega
    · rw [← gap]
      omega

end Rounding

/-! ## The multiples of a power of ten -/

/-- The power of ten as a fraction of quarter steps. -/
def gridUnit (e : Int) : Nat := if e < 0 then quarterOne else quarterOne * Nat.pow 10 e.toNat

def gridScale (e : Int) : Nat := if e < 0 then Nat.pow 10 (-e).toNat else 1

theorem gridScale_pos (e : Int) : 0 < gridScale e := by
  rw [gridScale]
  split
  · exact Nat.pow_pos (by decide)
  · exact Nat.one_pos

theorem gridUnit_pos (e : Int) : 0 < gridUnit e := by
  have positive : 0 < quarterOne := by
    rw [quarterOne_eq]
    exact Nat.mul_pos (by decide) one_pos
  rw [gridUnit]
  split
  · exact positive
  · exact Nat.mul_pos positive (Nat.pow_pos (by decide))

theorem gridUnit_div_gridScale (e : Int) : (gridUnit e : ℚ) / gridScale e = 4 * (10 ^ e * one) := by
  rw [gridUnit, gridScale, quarterOne_eq]
  split
  · next negative =>
    have opposite : e = -((-e).toNat : Int) := by omega
    conv_rhs => rw [opposite, zpow_neg, zpow_natCast]
    push_cast [Nat.pow_eq]
    ring
  · next nonneg =>
    have same : e = (e.toNat : Int) := by omega
    conv_rhs => rw [same, zpow_natCast]
    push_cast [Nat.pow_eq]
    ring

theorem holds_grid_iff (i : Interval) (n : Nat) (e : Int) :
    i.holds (n * gridUnit e) (gridScale e) = true ↔ i.Has (inSteps ⟨n, e⟩) := by
  have same : ((n * gridUnit e : Nat) : ℚ) / gridScale e / 4 = inSteps ⟨n, e⟩ := by
    rw [inSteps, Nat.cast_mul, mul_div_assoc, gridUnit_div_gridScale]
    ring
  rw [i.holds_iff (gridScale_pos e), same]

/-- What is tried on a grid: the multiples below and above the middle. -/
theorem onGrid_cases (i : Interval) (e : Int) :
    (∃ n, onGrid i e = some n ∧ i.holds (n * gridUnit e) (gridScale e) = true) ∨
      onGrid i e = none ∧
        i.holds (i.middle * gridScale e / gridUnit e * gridUnit e) (gridScale e) = false ∧
        i.holds ((i.middle * gridScale e / gridUnit e + 1) * gridUnit e) (gridScale e) = false := by
  have unit : (if e < 0 then quarterOne else quarterOne * Nat.pow 10 e.toNat) = gridUnit e := rfl
  have scale : (if e < 0 then Nat.pow 10 (-e).toNat else 1) = gridScale e := rfl
  unfold onGrid
  dsimp only
  rw [unit, scale]
  split
  · next below above =>
    split
    · exact Or.inl ⟨_, rfl, below⟩
    · split
      · exact Or.inl ⟨_, rfl, above⟩
      · refine Or.inl ⟨_, rfl, ?_⟩
        split
        · exact below
        · exact above
  · next below _ => exact Or.inl ⟨_, rfl, below⟩
  · next _ above => exact Or.inl ⟨_, rfl, above⟩
  · next below above => exact Or.inr ⟨rfl, below, above⟩

theorem has_of_onGrid {i : Interval} (h : onGrid i e = some n) : i.Has (inSteps ⟨n, e⟩) := by
  rw [← holds_grid_iff]
  rcases onGrid_cases i e with ⟨m, found, holds⟩ | ⟨none, -, -⟩
  · cases h.symm.trans found
    exact holds
  · cases h.symm.trans none

theorem gridUnit_le (fine : (10 : ℚ) ^ e * one ≤ gap steps / 2) :
    gridUnit e ≤ 2 * gap steps * gridScale e := by
  have ratio := gridUnit_div_gridScale e
  rw [div_eq_iff (Nat.cast_pos.mpr (gridScale_pos e)).ne'] at ratio
  have cast : (gridUnit e : ℚ) ≤ 2 * gap steps * gridScale e := by
    rw [ratio]
    apply mul_le_mul_of_nonneg_right _ (Nat.cast_nonneg _)
    linarith
  exact_mod_cast cast

/-- A grid that is not coarser than half of the gap has a multiple in the interval: the one below the
number, if it is the number itself, and else the one above it. -/
theorem holds_below_or_above (positive : 0 < steps) (fine : (10 : ℚ) ^ e * one ≤ gap steps / 2) :
    (interval steps).holds
        ((interval steps).middle * gridScale e / gridUnit e * gridUnit e) (gridScale e) = true ∨
      (interval steps).holds
        (((interval steps).middle * gridScale e / gridUnit e + 1) * gridUnit e) (gridScale e) = true := by
  have scaled := gridScale_pos e
  have finer := gridUnit_le fine
  have split := Nat.div_add_mod ((interval steps).middle * gridScale e) (gridUnit e)
  have rest := Nat.mod_lt ((interval steps).middle * gridScale e) (gridUnit_pos e)
  have low := Nat.mul_lt_mul_of_pos_right (interval_low_lt positive) scaled
  have high := Nat.mul_pos (gap_pos steps) scaled
  rw [Nat.mul_comm] at split
  rw [interval_middle] at split rest ⊢
  rw [Nat.mul_assoc] at finer
  unfold Interval.holds
  rw [interval_high, Nat.add_mul, Nat.add_mul, Nat.mul_assoc 2, Nat.one_mul]
  generalize 4 * steps * gridScale e / gridUnit e * gridUnit e = below at *
  split
  · simp only [Bool.and_eq_true, decide_eq_true_eq]
    omega
  · simp only [Bool.and_eq_true, decide_eq_true_eq]
    omega

theorem isSome_onGrid (positive : 0 < steps) (fine : (10 : ℚ) ^ e * one ≤ gap steps / 2) :
    (onGrid (interval steps) e).isSome := by
  rcases onGrid_cases (interval steps) e with ⟨m, found, -⟩ | ⟨-, below, above⟩
  · rw [found]
    rfl
  · have holds := holds_below_or_above positive fine
    rw [below, above] at holds
    exact absurd holds (by decide)

/-! ## The search -/

theorem inSteps_exact (steps : Nat) : (exact steps).inSteps = steps := by
  obtain ⟨digits, same, eq, -⟩ := one_eq_two_pow
  have written : exact steps = ⟨steps * 5 ^ digits, -(digits : Int)⟩ := by
    have last : (-1074 : Int) = -(digits : Int) := by omega
    rw [exact, last, ← same]
    rfl
  have tens : (10 : ℚ) ^ digits = 5 ^ digits * 2 ^ digits := by
    rw [← mul_pow]
    norm_num
  rw [written, inSteps, eq, zpow_neg, zpow_natCast, tens]
  push_cast
  field_simp

theorem has_search (positive : 0 < steps) (fuel : Nat) (start : Int) :
    (interval steps).Has (search steps fuel start).inSteps := by
  induction fuel generalizing start with
  | zero =>
    rw [search, inSteps_exact]
    apply Interval.has_of_lt
    · exact_mod_cast interval_low_lt positive
    · rw [interval_high]
      have wide : (0 : ℚ) < gap steps := Nat.cast_pos.mpr (gap_pos steps)
      push_cast
      linarith
  | succ fuel ih =>
    rw [search]
    split
    · next digits found => exact has_of_onGrid found
    · exact ih (start - 1)

/-- The search does not go past a grid that is fine enough. -/
theorem le_exponent_search (positive : 0 < steps) (fine : (10 : ℚ) ^ e * one ≤ gap steps / 2)
    (fuel : Nat) {start : Int} (above : e ≤ start) (enough : start < e + fuel) :
    e ≤ (search steps fuel start).exponent := by
  induction fuel generalizing start with
  | zero => omega
  | succ fuel ih =>
    rw [search]
    split
    · exact above
    · next none =>
      have other : start ≠ e := by
        rintro rfl
        have found := isSome_onGrid positive fine
        rw [none] at found
        cases found
      exact ih (by omega) (by omega)

theorem inSteps_trim (fuel : Nat) (d : Decimal) : (trim fuel d).inSteps = d.inSteps := by
  induction fuel generalizing d with
  | zero => rfl
  | succ fuel ih =>
    rw [trim]
    split
    · next zeros =>
      obtain ⟨tens, split⟩ := Nat.dvd_of_mod_eq_zero zeros.1
      rw [ih, inSteps, inSteps, split, Nat.mul_div_cancel_left tens (by decide),
        zpow_add_one₀ (by norm_num)]
      push_cast
      ring
    · rfl

theorem digits_trim_le (fuel : Nat) (d : Decimal) : (trim fuel d).digits ≤ d.digits := by
  induction fuel generalizing d with
  | zero => exact Nat.le_refl _
  | succ fuel ih =>
    rw [trim]
    split
    · exact (ih _).trans (Nat.div_le_self _ _)
    · exact Nat.le_refl _

theorem le_exponent_trim (fuel : Nat) (d : Decimal) : d.exponent ≤ (trim fuel d).exponent := by
  induction fuel generalizing d with
  | zero => exact Int.le_refl _
  | succ fuel ih =>
    rw [trim]
    split
    · have more := ih ⟨d.digits / 10, d.exponent + 1⟩
      dsimp only at more
      omega
    · exact Int.le_refl _

/-! ## The first digit -/

theorem lt_pow_width (n : Nat) : n < 10 ^ width n :=
  (Nat.length_toDigits_le_iff (by decide) Nat.length_toDigits_pos).mp (Nat.le_refl _)

theorem pow_width_le (positive : 0 < n) : 10 ^ (width n - 1) ≤ n := by
  by_cases short : width n = 1
  · rw [short]
    exact positive
  · have some : 0 < width n := Nat.length_toDigits_pos
    by_contra less
    have fewer : width n ≤ width n - 1 :=
      (Nat.length_toDigits_le_iff (by decide) (by omega)).mpr (not_le.mp less)
    omega

/-- So many steps down, and no further than needed. -/
theorem leadingBelowOne_eq {fuel : Nat} (enough : one ≤ 10 ^ fuel * n) (e : Int) :
    ∃ k : Nat, leadingBelowOne n fuel e = e - k ∧ one ≤ 10 ^ k * n ∧
      (k = 0 ∨ 10 ^ (k - 1) * n < one) := by
  induction fuel generalizing n e with
  | zero => exact ⟨0, by simp [leadingBelowOne], enough, Or.inl rfl⟩
  | succ fuel ih =>
    rw [leadingBelowOne]
    split
    · next large => exact ⟨0, by simp, by simpa using large, Or.inl rfl⟩
    · next small =>
      have enough' : one ≤ 10 ^ fuel * (10 * n) := by rwa [← Nat.mul_assoc, ← Nat.pow_succ]
      obtain ⟨k, same, reached, before⟩ := ih enough' (e - 1)
      refine ⟨k + 1, by rw [same]; push_cast; ring, ?_, Or.inr ?_⟩
      · rwa [Nat.pow_succ, Nat.mul_assoc]
      · rw [Nat.add_sub_cancel]
        rcases before with rfl | before
        · simpa using small
        · by_cases none : k = 0
          · subst none
            simpa using small
          · obtain ⟨j, rfl⟩ := Nat.exists_eq_succ_of_ne_zero none
            rw [Nat.succ_sub_one] at before
            rwa [Nat.pow_succ, Nat.mul_assoc]

theorem leading_of_one_le (large : one ≤ steps) : 0 ≤ leading steps ∧
    (10 : ℚ) ^ leading steps * one ≤ steps ∧ (steps : ℚ) < 10 ^ (leading steps + 1) * one := by
  have quotient : 0 < steps / one := Nat.div_pos large Binary64.one_pos
  obtain ⟨w, some⟩ : ∃ w, width (steps / one) = w + 1 :=
    Nat.exists_eq_succ_of_ne_zero (Nat.length_toDigits_pos (b := 10)).ne'
  have least := pow_width_le quotient
  have most := lt_pow_width (steps / one)
  have same : leading steps = w := by
    rw [leading, if_pos large, some]
    push_cast
    ring
  rw [some] at least most
  rw [same]
  refine ⟨Int.natCast_nonneg w, ?_, ?_⟩
  · have below : 10 ^ w * one ≤ steps :=
      (Nat.mul_le_mul_right one least).trans (Nat.div_mul_le_self steps one)
    rw [zpow_natCast]
    exact_mod_cast below
  · have above : steps < 10 ^ (w + 1) * one :=
      (Nat.div_lt_iff_lt_mul Binary64.one_pos).mp most
    rw [← Nat.cast_succ, zpow_natCast]
    exact_mod_cast above

theorem leading_of_lt_one (positive : 0 < steps) (small : steps < one) : -(lastPlace : Int) ≤ leading steps ∧
    (10 : ℚ) ^ leading steps * one ≤ steps ∧ (steps : ℚ) < 10 ^ (leading steps + 1) * one := by
  have reach {k : Nat} (deep : lastPlace ≤ k) : one ≤ 10 ^ k * steps := by
    have tens : 10 ^ lastPlace ≤ 10 ^ k := Nat.pow_le_pow_right (by decide) deep
    have more : 10 ^ k ≤ 10 ^ k * steps := Nat.le_mul_of_pos_right _ positive
    have least := two_mul_one_le
    omega
  obtain ⟨k, same, reached, before⟩ := leadingBelowOne_eq (reach lastPlace_le) 0
  have same' : leading steps = -(k : Int) := by
    rw [leading, if_neg (Nat.not_le.mpr small), same, Int.zero_sub]
  have some : k ≠ 0 := by
    rintro rfl
    rw [Nat.pow_zero, Nat.one_mul] at reached
    omega
  obtain ⟨j, rfl⟩ := Nat.exists_eq_succ_of_ne_zero some
  have before := before.resolve_left some
  rw [Nat.succ_sub_one] at before
  rw [same']
  refine ⟨?_, ?_, ?_⟩
  · by_contra deep
    have enough := @reach j (by omega)
    omega
  · rw [zpow_neg, zpow_natCast, inv_mul_le_iff₀ (by positivity)]
    exact_mod_cast reached
  · have opposite : -((j + 1 : Nat) : Int) + 1 = -(j : Int) := by
      push_cast
      ring
    rw [opposite, zpow_neg, zpow_natCast, lt_inv_mul_iff₀ (by positivity)]
    exact_mod_cast before

theorem leading_spec (positive : 0 < steps) : -(lastPlace : Int) ≤ leading steps ∧
    (10 : ℚ) ^ leading steps * one ≤ steps ∧ (steps : ℚ) < 10 ^ (leading steps + 1) * one := by
  rcases Nat.lt_or_ge steps one with small | large
  · exact leading_of_lt_one positive small
  · obtain ⟨nonneg, bounds⟩ := leading_of_one_le large
    exact ⟨by omega, bounds⟩

/-! ## Digits and exponent -/

/-- A grid that is fine enough is reached: with the eighteenth digit, or with the last place behind
the point if that comes first. -/
theorem fine_grid (positive : 0 < steps) :
    (10 : ℚ) ^ max (-(lastPlace : Int)) (leading steps - 17) * one ≤ gap steps / 2 := by
  obtain ⟨-, least, -⟩ := leading_spec positive
  rcases max_choice (-(lastPlace : Int)) (leading steps - 17) with deepest | longest
  · have some : (1 : ℚ) ≤ gap steps := by exact_mod_cast gap_pos steps
    have bound : (2 : ℚ) * one ≤ 10 ^ lastPlace := by exact_mod_cast two_mul_one_le
    have wide := mul_le_mul_of_nonneg_left some (show (0 : ℚ) ≤ 10 ^ lastPlace by positivity)
    rw [deepest, zpow_neg, zpow_natCast, inv_mul_le_iff₀ (by positivity)]
    linarith
  · have small : (steps : ℚ) < 2 ^ 53 * gap steps := by exact_mod_cast lt_mul_gap steps
    rw [longest, zpow_sub₀ (by norm_num), div_mul_eq_mul_div, div_le_iff₀ (by positivity)]
    have seventeen : (10 : ℚ) ^ (17 : Int) = 10 ^ 17 := by norm_cast
    rw [seventeen]
    linarith

/-- So the search ends there at the latest. -/
theorem le_exponent_search_leading (positive : 0 < steps) :
    max (-(lastPlace : Int)) (leading steps - 17) ≤ (search steps 18 (leading steps)).exponent := by
  obtain ⟨low, -, -⟩ := leading_spec positive
  exact le_exponent_search positive (fine_grid positive) 18 (max_le low (by omega))
    (by push_cast; omega)

/-- A decimal in the interval is not above one and a half times the number. -/
theorem inSteps_le_of_has (h : Representable steps) (positive : 0 < steps) {d : Decimal}
    (has : (interval steps).Has d.inSteps) : d.inSteps ≤ 3 / 2 * steps := by
  have near := (abs_le.mp (abs_sub_le_of_has has)).2
  have wide : (gap steps : ℚ) ≤ steps := Nat.cast_le.mpr (gap_le h positive)
  linarith

theorem digits_search_lt (h : Representable steps) (positive : 0 < steps) :
    (search steps 18 (leading steps)).digits < 10 ^ 19 := by
  obtain ⟨-, -, most⟩ := leading_spec positive
  have exponent := le_exponent_search_leading positive
  have small := inSteps_le_of_has h positive (has_search positive 18 (leading steps))
  generalize search steps 18 (leading steps) = d at exponent small ⊢
  have shallow : leading steps - 17 ≤ d.exponent := (le_max_right _ _).trans exponent
  have grid : (10 : ℚ) ^ (leading steps - 17) ≤ 10 ^ d.exponent :=
    zpow_le_zpow_right₀ (by norm_num) shallow
  have tens : (10 : ℚ) ^ (leading steps + 1) = 10 ^ (leading steps - 17) * 10 ^ 18 := by
    rw [← zpow_natCast, ← zpow_add₀ (by norm_num)]
    congr 1
    push_cast
    ring
  have positive' : (0 : ℚ) < 10 ^ (leading steps - 17) := zpow_pos (by norm_num) _
  have digits : (d.digits : ℚ) * 10 ^ (leading steps - 17) ≤
      3 / 2 * 10 ^ 18 * 10 ^ (leading steps - 17) := by
    apply le_of_mul_le_mul_right _ cast_one_pos
    have finer := mul_le_mul_of_nonneg_right
      (mul_le_mul_of_nonneg_left grid (Nat.cast_nonneg d.digits)) cast_one_pos.le
    rw [inSteps] at small
    rw [tens] at most
    linarith
  have bound : (d.digits : ℚ) < (10 ^ 19 : Nat) := by
    push_cast
    linarith [le_of_mul_le_mul_right digits positive']
  exact_mod_cast bound

/-- The shortest decimal of a number rounds to it. It has no more digits than fit 64 bits, and none behind
the last place. -/
theorem shortest_spec (h : Representable steps) (positive : 0 < steps) :
    (interval steps).Has (shortest steps).inSteps ∧ (shortest steps).digits < 10 ^ 19 ∧
      -(lastPlace : Int) ≤ (shortest steps).exponent := by
  have exponent := le_exponent_search_leading positive
  refine ⟨?_, ?_, ?_⟩
  · rw [shortest, inSteps_trim]
    exact has_search positive 18 (leading steps)
  · exact (digits_trim_le _ _).trans_lt (digits_search_lt h positive)
  · exact (le_max_left _ _).trans (exponent.trans (le_exponent_trim _ _))

/-- Nothing rounds to a positive number but positive numbers. -/
theorem digits_pos_of_has (h : Representable steps) (positive : 0 < steps) {d : Decimal}
    (has : (interval steps).Has d.inSteps) : 0 < d.digits := by
  rw [Nat.pos_iff_ne_zero]
  intro none
  have near := (abs_le.mp (abs_sub_le_of_has has)).1
  have wide : (gap steps : ℚ) ≤ steps := Nat.cast_le.mpr (gap_le h positive)
  have some : (0 : ℚ) < gap steps := Nat.cast_pos.mpr (gap_pos steps)
  rw [inSteps, none, Nat.cast_zero, zero_mul, zero_mul] at near
  linarith

/-- No exponent is greater than that of the greatest power of ten. -/
theorem exponent_le_of_has (h : Representable steps) (positive : 0 < steps) (small : steps < overflow)
    {d : Decimal} (has : (interval steps).Has d.inSteps) : d.exponent ≤ 308 := by
  by_contra large
  have some := digits_pos_of_has h positive has
  have most := inSteps_le_of_has h positive has
  have tens : (10 : ℚ) ^ (309 : Int) ≤ 10 ^ d.exponent :=
    zpow_le_zpow_right₀ (by norm_num) (by omega)
  have finite : (steps : ℚ) < overflow := Nat.cast_lt.mpr small
  have bound : (3 : ℚ) * overflow ≤ 2 * (10 ^ (309 : Int) * one) := by
    exact_mod_cast three_mul_overflow_le
  have first : (1 : ℚ) ≤ d.digits := by exact_mod_cast some
  have all : (10 : ℚ) ^ d.exponent ≤ d.digits * 10 ^ d.exponent :=
    le_mul_of_one_le_left (zpow_pos (by norm_num) _).le first
  have counted := mul_le_mul_of_nonneg_right (tens.trans all) cast_one_pos.le
  rw [inSteps] at most
  linarith

end PatternSearch.Decimal
