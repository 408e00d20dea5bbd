import Mathlib.Algebra.Order.Field.Power
import Mathlib.Tactic.FieldSimp
import PatternSearch.Proofs.Number.Error

/-!
# The interchange format

A word of 64 bits has a sign, an exponent of 11 bits and a fraction of 52 bits. The number that it stands
for is read off these fields here, by the rule of the format, and it is the number that reading the word
gives. So rounding a half up is exact for every word, those next to a half and to zero included.
-/

namespace PatternSearch.Binary64

attribute [local irreducible] one overflow halfStep

abbrev Word := BitVec 64

namespace Word

def negative (w : Word) : Bool := w.msb

def exponent (w : Word) : Nat := w.toNat / 2 ^ 52 % 2 ^ 11

def fraction (w : Word) : Nat := w.toNat % 2 ^ 52

/-- The number without its sign. There is a leading one, unless the exponent is zero. -/
def magnitude (w : Word) : ℚ :=
  if w.exponent = 0 then w.fraction / 2 ^ 52 * 2 ^ (-1022 : ℤ)
  else (1 + w.fraction / 2 ^ 52) * 2 ^ (w.exponent - 1023 : ℤ)

/-- The number that a word stands for, if the exponent is not all ones. -/
def number (w : Word) : ℚ := if w.negative then -w.magnitude else w.magnitude

/-- The number and a half, cut down to a whole number and clamped to 64 bits. An exponent of all ones
stands for an infinity, or for no number at all, which goes to zero. -/
def halfUp (w : Word) : Int :=
  if w.exponent < 2047 then clamp ⌊w.number + 1 / 2⌋
  else if w.fraction ≠ 0 then 0
  else if w.negative then minInt64 else maxInt64

variable (w : Word)

theorem fraction_lt : w.fraction < 2 ^ 52 := Nat.mod_lt _ (by decide)

theorem exponent_lt : w.exponent < 2 ^ 11 := Nat.mod_lt _ (by decide)

/-- The sign is the first bit, and the other fields are what follows. -/
theorem toNat_eq : w.toNat / 2 ^ 63 = (if w.negative then 1 else 0) ∧
    w.toNat % 2 ^ 63 = 2 ^ 52 * w.exponent + w.fraction := by
  have small := w.isLt
  constructor
  · rw [negative, BitVec.msb_eq_decide]
    split
    · next h =>
      have := of_decide_eq_true h
      omega
    · next h =>
      have := of_decide_eq_false (Bool.eq_false_iff.mpr h)
      omega
  · rw [exponent, fraction]
    omega

end Word

/-! ## Reading a word -/

/-- The fraction with the leading one, as a whole number. -/
def Word.significand (w : Word) : Nat := if w.exponent = 0 then w.fraction else 2 ^ 52 + w.fraction

theorem Word.significand_lt (w : Word) : w.significand < 2 ^ 53 := by
  have small := w.fraction_lt
  rw [significand]
  split
  · omega
  · omega

theorem stepsOfRank_word (w : Word) :
    stepsOfRank (2 ^ 52 * w.exponent + w.fraction) = w.significand * 2 ^ (w.exponent - 1) := by
  have small := w.fraction_lt
  have top : (2 ^ 52 * w.exponent + w.fraction) / 2 ^ 52 = w.exponent := by omega
  simp only [stepsOfRank, Nat.shiftRight_eq_div_pow, Nat.shiftLeft_eq, top, Word.significand]
  congr 1
  split
  · omega
  · omega

theorem infiniteRank_eq : infiniteRank = 2 ^ 52 * 2047 := by decide

/-- What is read from a word, by its fields. -/
theorem ofBits_word (w : Word) : ofBits w.toNat =
    if w.exponent < 2047 then
      finite w.negative (w.significand * 2 ^ (w.exponent - 1))
    else if w.fraction ≠ 0 then nan else infinite w.negative := by
  obtain ⟨sign, rest⟩ := w.toNat_eq
  have small := w.fraction_lt
  have bound := w.exponent_lt
  have negative : (w.toNat >>> 63 % 2 == 1) = w.negative := by
    rw [Nat.shiftRight_eq_div_pow, sign]
    cases w.negative <;> rfl
  simp only [ofBits, negative, Nat.one_shiftLeft, rest, infiniteRank_eq,
    stepsOfRank_word w]
  by_cases finite : w.exponent < 2047
  · rw [if_pos finite, if_pos (by omega)]
  · rw [if_neg finite, if_neg (by omega)]
    by_cases whole : w.fraction = 0
    · rw [if_neg (not_not.mpr whole), if_pos (by omega)]
    · rw [if_pos whole, if_neg (by omega)]

/-- A word stands for a number that the format has. -/
theorem canonical_word (w : Word) : Canonical (ofBits w.toNat) := by
  rw [ofBits_word]
  split
  · next finite =>
    have small := w.significand_lt
    obtain ⟨digits, eq, -, top⟩ := one_eq_two_pow
    refine ⟨representable_mul_two_pow _ small.le, ?_⟩
    calc w.significand * 2 ^ (w.exponent - 1)
        < 2 ^ 53 * 2 ^ (w.exponent - 1) := Nat.mul_lt_mul_of_pos_right small (Nat.two_pow_pos _)
      _ = 2 ^ (53 + (w.exponent - 1)) := (Nat.pow_add _ _ _).symm
      _ ≤ 2 ^ (1024 + digits) := Nat.pow_le_pow_right (by decide) (by omega)
      _ = overflow := top.symm
  · split
    · trivial
    · trivial

theorem toRat_finite (s : Bool) (a : Nat) :
    (finite s a).toRat = if s then -((a : ℚ) / one) else a / one := by
  cases s
  · simp [toRat, value]
  · simp [toRat, value, neg_div]

theorem magnitude_eq (w : Word) :
    w.magnitude = (w.significand * 2 ^ (w.exponent - 1) : Nat) / (one : ℚ) := by
  obtain ⟨digits, eq, power, -⟩ := one_eq_two_pow
  have positive : (0 : ℚ) < 2 ^ digits := by positivity
  have least : (2 : ℚ) ^ (-1022 : ℤ) * 2 ^ digits = 2 ^ 52 := by
    rw [eq, ← zpow_natCast, ← zpow_add₀ two_ne_zero]
    rfl
  rw [power, Nat.cast_pow, Nat.cast_ofNat, eq_div_iff positive.ne', Word.magnitude,
      Word.significand]
  split
  · next zero =>
    rw [zero, mul_assoc, least]
    simp
  · next nonzero =>
    obtain ⟨e, next⟩ := Nat.exists_eq_succ_of_ne_zero nonzero
    have scale : (2 : ℚ) ^ (w.exponent - 1023 : ℤ) = 2 ^ e * 2 ^ (-1022 : ℤ) := by
      rw [next, ← zpow_natCast (2 : ℚ) e, ← zpow_add₀ two_ne_zero]
      congr 1
      push_cast
      ring
    rw [scale, mul_assoc, mul_assoc, least, next, Nat.succ_sub_one]
    push_cast
    field_simp
    norm_num

theorem toRat_word {w : Word} (finite : w.exponent < 2047) : (ofBits w.toNat).toRat = w.number := by
  rw [ofBits_word, if_pos finite, toRat_finite, ← magnitude_eq, Word.number]

/-! ## Rounding a word -/

/-- The fraction that is seen after a rounded subtraction, against the exact one. -/
theorem half_le_sub_floor_iff {x : Binary64} (finite : x.isFinite = true) (canonical : Canonical x) :
    le half (x - x.floor) = true ↔ 1 / 2 ≤ Int.fract x.toRat := by
  obtain ⟨s, a, rfl⟩ := isFinite_iff.mp finite
  have positive : (0 : ℚ) < one := Nat.cast_pos.mpr one_pos
  have exact' : Int.fract (Binary64.finite s a).toRat = (signedSteps s a % one : Int) / one :=
    Int.fract_div_intCast_eq_div_intCast_mod
  rw [half_le_sub_floor canonical.1, halfStep_le_iff, exact', le_div_iff₀ positive]
  constructor
  · intro h
    have cast : (one : ℚ) ≤ 2 * (signedSteps s a % one : Int) := by exact_mod_cast h
    linarith
  · intro h
    have cast : (one : ℚ) ≤ 2 * (signedSteps s a % one : Int) := by linarith
    exact_mod_cast cast

theorem infinite_sub_floor (s : Bool) : infinite s - (infinite s).floor = nan := by
  cases s <;> rfl

/-- Going up by one stays within 64 bits. -/
theorem toInt64_floor_lt {x : Binary64} (canonical : Canonical x)
    (up : le half (x - x.floor) = true) : x.floor.toInt64 < maxInt64 := by
  cases x with
  | nan => cases up
  | infinite s =>
    rw [infinite_sub_floor] at up
    cases up
  | finite s a =>
    obtain ⟨lower, upper⟩ := bounds_of_half_le canonical.1 ((half_le_sub_floor canonical.1).mp up)
    rw [toInt64_floor, clamp_of_small (by omega) (by omega), maxInt64]
    omega

/-- Rounding is exact for every word: the subtraction shows a fraction of a half or more where there
is one, and counting up never leaves the 64 bits. -/
theorem roundHalfUp_word (w : Word) :
    (ofBits w.toNat).roundHalfUp = w.halfUp ∧
      (w.exponent < 2047 → (le half (ofBits w.toNat - (ofBits w.toNat).floor) = true ↔
        1 / 2 ≤ Int.fract w.number)) ∧
      (le half (ofBits w.toNat - (ofBits w.toNat).floor) = true →
        (ofBits w.toNat).floor.toInt64 + 1 ≤ maxInt64) := by
  have canonical := canonical_word w
  have isFinite : w.exponent < 2047 → (ofBits w.toNat).isFinite = true := by
    intro finite
    rw [ofBits_word, if_pos finite]
    rfl
  refine ⟨?_, ?_, fun up => toInt64_floor_lt canonical up⟩
  · rw [Word.halfUp]
    by_cases finite : w.exponent < 2047
    · rw [if_pos finite, roundHalfUp_eq_floor (isFinite finite) canonical, toRat_word finite]
    · rw [if_neg finite, ofBits_word, if_neg finite]
      split
      · exact roundHalfUp_nan
      · cases w.negative <;> rfl
  · intro finite
    rw [half_le_sub_floor_iff (isFinite finite) canonical, toRat_word finite]

/-- The negative number next to zero: the subtraction gives one, and the result is not minus one. -/
theorem roundHalfUp_word_below_zero :
    let w : Word := 0x8000000000000001
    w.exponent < 2047 ∧ ofBits w.toNat - (ofBits w.toNat).floor = .ofNat 1 ∧
      le half (.ofNat 1) = true ∧ w.halfUp = 0 ∧ 1 / 2 ≤ Int.fract w.number ∧
      (ofBits w.toNat).floor.toInt64 + 1 ≤ maxInt64 := by
  intro w
  have finite : w.exponent < 2047 := by decide
  have whole : ofBits w.toNat - (ofBits w.toNat).floor = .ofNat 1 := by decide +kernel
  have above : le half (.ofNat 1) = true := by decide +kernel
  have up : le half (ofBits w.toNat - (ofBits w.toNat).floor) = true := by rw [whole, above]
  have result : (ofBits w.toNat).roundHalfUp = 0 := by decide +kernel
  obtain ⟨exact', threshold, bound⟩ := roundHalfUp_word w
  exact ⟨finite, whole, above, exact' ▸ result, (threshold finite).mp up, bound up⟩

end PatternSearch.Binary64
