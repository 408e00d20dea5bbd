import Mathlib.Data.Rat.Cast.Order
import Mathlib.Tactic.NormNum
import PatternSearch.Proofs.Number.Nearest

/-!
# Bounds on sums

A sum of terms between zero and one is not above the number of its positive terms, and a sum of terms
that are zero or minus one counts the latter. Each addition rounds, but whole numbers up to `2 ^ 53`
are representable, and from there on adding one changes nothing.
-/

namespace PatternSearch.Binary64

/-- The exponent gets a name, so that nothing multiplies it out. -/
theorem one_eq_two_pow : ∃ digits, digits = 1074 ∧ one = 2 ^ digits ∧
    overflow = 2 ^ (1024 + digits) :=
  ⟨1074, rfl, Nat.one_shiftLeft 1074, Nat.one_shiftLeft 2098⟩

-- Their digits are never needed, and the powers are too large to be multiplied out.
attribute [local irreducible] one overflow

theorem one_pos : 0 < one := by
  obtain ⟨digits, -, eq, -⟩ := one_eq_two_pow
  exact eq ▸ Nat.two_pow_pos digits

theorem natCast_one_pos : (0 : Int) < one := Int.natCast_pos.mpr one_pos

theorem saturated_lt_overflow : 2 ^ 53 * one < overflow := by
  obtain ⟨digits, -, eq, eq'⟩ := one_eq_two_pow
  rw [eq, eq', ← Nat.pow_add]
  exact Nat.pow_lt_pow_right (by decide) (by omega)

theorem one_lt_overflow : one < overflow := by
  have := saturated_lt_overflow
  omega

/-- Signed count of steps of a finite number; zero for any other one. -/
def value : Binary64 → Int
  | finite s a => signedSteps s a
  | _ => 0

/-- The rational number that a finite number stands for. -/
def toRat (x : Binary64) : ℚ := x.value / one

/-- The nearest representable count, with the sign kept. -/
def nearestInt (v : Int) : Int := signedSteps (v < 0) (nearestSteps v.natAbs 1)

/-- A finite number that the format has. -/
def Canonical : Binary64 → Prop
  | finite _ a => Representable a ∧ a < overflow
  | _ => True

@[simp] theorem signedSteps_false (a : Nat) : signedSteps false a = a := rfl

@[simp] theorem signedSteps_true (a : Nat) : signedSteps true a = -a := rfl

theorem natAbs_signedSteps (s : Bool) (a : Nat) : (signedSteps s a).natAbs = a := by
  cases s <;> simp

@[simp] theorem nearestSteps_zero : nearestSteps 0 1 = 0 := nearestSteps_one representable_zero

theorem nearestInt_of_nonneg {v : Int} (h : 0 ≤ v) : nearestInt v = nearestSteps v.natAbs 1 := by
  simp [nearestInt, Int.not_lt.mpr h]

theorem nearestInt_of_neg {v : Int} (h : v < 0) : nearestInt v = -nearestSteps v.natAbs 1 := by
  simp [nearestInt, h]

theorem nearestInt_of_representable {v : Int} (h : Representable v.natAbs) : nearestInt v = v := by
  rcases Int.lt_or_le v 0 with negative | nonnegative
  · rw [nearestInt_of_neg negative, nearestSteps_one h]
    omega
  · rw [nearestInt_of_nonneg nonnegative, nearestSteps_one h]
    omega

theorem nearestInt_mono {v w : Int} (h : v ≤ w) : nearestInt v ≤ nearestInt w := by
  rcases Int.lt_or_le v 0 with hv | hv
  · rw [nearestInt_of_neg hv]
    rcases Int.lt_or_le w 0 with hw | hw
    · have := nearestSteps_one_mono (show w.natAbs ≤ v.natAbs by omega)
      rw [nearestInt_of_neg hw]
      omega
    · rw [nearestInt_of_nonneg hw]
      omega
  · have := nearestSteps_one_mono (show v.natAbs ≤ w.natAbs by omega)
    rw [nearestInt_of_nonneg hv, nearestInt_of_nonneg (by omega)]
    omega

theorem representable_whole {n : Nat} (h : n ≤ 2 ^ 53) : Representable (n * one) := by
  obtain ⟨digits, -, eq, -⟩ := one_eq_two_pow
  exact eq ▸ representable_mul_two_pow digits h

theorem representable_one : Representable one := by
  rw [← Nat.one_mul one]
  exact representable_whole (by decide)

theorem ofSteps_zero (s : Bool) : ofSteps s 0 = finite s 0 := by
  rw [ofSteps, if_neg (by have := one_lt_overflow; omega)]

/-- The first whole number that is not representable goes to the even one below it. -/
theorem nearestSteps_saturated : nearestSteps ((2 ^ 53 + 1) * one) 1 = 2 ^ 53 * one := by
  decide +kernel

theorem finite_add (s t : Bool) (a b : Nat) : finite s a + finite t b =
    if s = t then nearest s (a + b) 1
    else if a = b then zero
    else if b < a then nearest s (a - b) 1
    else nearest t (b - a) 1 := rfl

/-- Addition is exact up to the last rounding; the sign is that of the exact sum. -/
theorem finite_add_finite (s t : Bool) (a b : Nat) :
    ∃ n, finite s a + finite t b =
        ofSteps n (nearestSteps (signedSteps s a + signedSteps t b).natAbs 1) ∧
      (signedSteps s a + signedSteps t b < 0 → n = true) ∧
      (0 < signedSteps s a + signedSteps t b → n = false) := by
  rw [finite_add]
  simp only [nearest]
  by_cases same : s = t
  · subst same
    refine ⟨s, ?_⟩
    have magnitude : (signedSteps s a + signedSteps s b).natAbs = a + b := by
      cases s <;> simp <;> omega
    rw [if_pos rfl, magnitude]
    cases s with
    | false =>
      simp
      omega
    | true => simp
  · rw [if_neg same]
    have other : t = !s := by cases s <;> cases t <;> simp_all
    subst other
    by_cases equal : a = b
    · subst equal
      refine ⟨false, ?_⟩
      rw [if_pos rfl]
      cases s <;> simp [ofSteps_zero, zero]
    · rw [if_neg equal]
      by_cases less : b < a
      · refine ⟨s, ?_⟩
        have magnitude : (signedSteps s a + signedSteps (!s) b).natAbs = a - b := by
          cases s <;> simp <;> omega
        rw [if_pos less, magnitude]
        cases s <;> simp <;> omega
      · refine ⟨!s, ?_⟩
        have magnitude : (signedSteps s a + signedSteps (!s) b).natAbs = b - a := by
          cases s <;> simp <;> omega
        rw [if_neg less, magnitude]
        cases s <;> simp <;> omega

theorem signedSteps_nearestSteps {v : Int} {n : Bool} (negative : v < 0 → n = true)
    (positive : 0 < v → n = false) : signedSteps n (nearestSteps v.natAbs 1) = nearestInt v := by
  rcases Int.lt_trichotomy v 0 with h | h | h
  · rw [negative h, nearestInt_of_neg h, signedSteps_true]
  · subst h
    cases n <;> simp [nearestInt]
  · rw [positive h, nearestInt_of_nonneg (by omega), signedSteps_false]

/-- A finite number, so that `value` is what it stands for. -/
theorem isFinite_iff {x : Binary64} : x.isFinite = true ↔ ∃ s a, x = finite s a := by
  constructor
  · intro h
    cases x with
    | nan => cases h
    | infinite s => cases h
    | finite s a => exact ⟨s, a, rfl⟩
  · rintro ⟨s, a, rfl⟩
    rfl

theorem nan_add (x : Binary64) : nan + x = nan := rfl

theorem add_nan (x : Binary64) : x + nan = nan := by cases x <;> rfl

/-- The value of a sum is the exact one, rounded. -/
theorem value_add {x y : Binary64} (hx : x.isFinite = true) (hy : y.isFinite = true)
    (small : (nearestInt (x.value + y.value)).natAbs < overflow) :
    (x + y).isFinite = true ∧ (x + y).value = nearestInt (x.value + y.value) := by
  obtain ⟨s, a, rfl⟩ := isFinite_iff.mp hx
  obtain ⟨t, b, rfl⟩ := isFinite_iff.mp hy
  obtain ⟨n, sum, negative, positive⟩ := finite_add_finite s t a b
  have signed := signedSteps_nearestSteps negative positive
  change (nearestInt (signedSteps s a + signedSteps t b)).natAbs < overflow at small
  rw [← signed, natAbs_signedSteps] at small
  rw [sum, ofSteps, if_neg (by omega)]
  exact ⟨rfl, signed⟩

/-- Counting stops at `2 ^ 53`. -/
def tally (n : Nat) : Int := (min n (2 ^ 53) * one : Nat)

theorem tally_lt_overflow (n : Nat) : tally n < overflow := by
  have le : min n (2 ^ 53) * one ≤ 2 ^ 53 * one := Nat.mul_le_mul_right _ (Nat.min_le_right _ _)
  exact Int.ofNat_lt.mpr (le.trans_lt saturated_lt_overflow)

theorem representable_tally (n : Nat) : Representable (tally n).natAbs :=
  representable_whole (Nat.min_le_right _ _)

theorem nearestInt_le_tally {v : Int} {n : Nat} (h : v ≤ tally n) : nearestInt v ≤ tally n := by
  rw [← nearestInt_of_representable (representable_tally n)]
  exact nearestInt_mono h

theorem representable_tally_sub_one (n : Nat) : Representable (tally n - one).natAbs := by
  rw [tally]
  rcases Nat.eq_zero_or_pos (min n (2 ^ 53)) with none | some
  · rw [none, Nat.zero_mul]
    simpa only [Int.natCast_zero, Int.zero_sub, Int.natAbs_neg, Int.natAbs_natCast]
      using representable_one
  · obtain ⟨less, eq⟩ := Nat.exists_eq_add_of_lt some
    have same : ((min n (2 ^ 53) * one : Nat) : Int) - one = (less * one : Nat) := by
      rw [eq, Nat.zero_add, Nat.add_mul, Nat.one_mul]
      omega
    rw [same, Int.natAbs_natCast]
    exact representable_whole (by omega)

theorem nearestInt_tally_add_one (n : Nat) : nearestInt (tally n + one) = tally (n + 1) := by
  rcases Nat.lt_or_ge n (2 ^ 53) with less | full
  · have sum : tally n + one = tally (n + 1) := by
      simp only [tally]
      rw [Nat.min_eq_left less.le, Nat.min_eq_left (by omega)]
      push_cast
      ring
    rw [sum]
    exact nearestInt_of_representable (representable_tally _)
  · have sum : tally n + one = ((2 ^ 53 + 1) * one : Nat) := by
      rw [tally, Nat.min_eq_right full]
      push_cast
      ring
    rw [sum, nearestInt_of_nonneg (Int.natCast_nonneg _), Int.natAbs_natCast,
      nearestSteps_saturated]
    rw [tally, Nat.min_eq_right (by omega)]

theorem tally_zero : tally 0 = 0 := by simp [tally]

theorem tally_one : tally 1 = one := by
  rw [tally, Nat.min_eq_left (by decide), Nat.one_mul]

theorem tally_nonneg (n : Nat) : 0 ≤ tally n := Int.natCast_nonneg _

theorem tally_mono {m n : Nat} (h : m ≤ n) : tally m ≤ tally n := by
  have le : min m (2 ^ 53) ≤ min n (2 ^ 53) := by omega
  exact Int.ofNat_le.mpr (Nat.mul_le_mul_right _ le)

theorem tally_le (n : Nat) : tally n ≤ n * one := by
  have le : min n (2 ^ 53) * one ≤ n * one := Nat.mul_le_mul_right _ (Nat.min_le_left _ _)
  rw [← Int.natCast_mul]
  exact Int.ofNat_le.mpr le

/-- One more term between zero and one, which counts if it is above zero. -/
theorem nearestInt_add_le_tally {v w : Int} {n : Nat} (hv : v ≤ tally n) (hw : w ≤ one) :
    nearestInt (v + w) ≤ tally (n + if 0 < w then 1 else 0) := by
  split
  · rw [← nearestInt_tally_add_one]
    exact nearestInt_mono (by omega)
  · rw [Nat.add_zero]
    exact nearestInt_le_tally (by omega)

/-- What adding one more such term does. -/
theorem value_add_term {start x : Binary64} {n : Nat} (finite : start.isFinite = true)
    (nonneg : 0 ≤ start.value) (le : start.value ≤ tally n)
    (term : x.isFinite = true ∧ 0 ≤ x.value ∧ x.value ≤ one) :
    (start + x).isFinite = true ∧ (start + x).value = nearestInt (start.value + x.value) ∧
      0 ≤ (start + x).value ∧ (start + x).value ≤ tally (n + if 0 < x.value then 1 else 0) := by
  obtain ⟨finiteTerm, nonnegTerm, leTerm⟩ := term
  have upper := nearestInt_add_le_tally le leTerm
  have lower : 0 ≤ nearestInt (start.value + x.value) := by
    rw [nearestInt_of_nonneg (by omega)]
    exact Int.natCast_nonneg _
  have below := tally_lt_overflow (n + if 0 < x.value then 1 else 0)
  obtain ⟨finiteSum, sum⟩ := value_add finite finiteTerm (by omega)
  exact ⟨finiteSum, sum, by omega, by omega⟩

/-- The number of terms above zero bounds a sum of terms between zero and one. -/
theorem value_foldl (xs : List Binary64) (n : Nat) (start : Binary64)
    (finite : start.isFinite = true) (nonneg : 0 ≤ start.value) (le : start.value ≤ tally n)
    (terms : ∀ x ∈ xs, x.isFinite = true ∧ 0 ≤ x.value ∧ x.value ≤ one) :
    (xs.foldl (· + ·) start).isFinite = true ∧ 0 ≤ (xs.foldl (· + ·) start).value ∧
      (xs.foldl (· + ·) start).value ≤ tally (n + xs.countP fun x => 0 < x.value) := by
  induction xs generalizing n start with
  | nil => exact ⟨finite, nonneg, le⟩
  | cons x xs ih =>
    obtain ⟨finiteSum, -, nonnegSum, leSum⟩ :=
      value_add_term finite nonneg le (terms x List.mem_cons_self)
    have rest := ih _ (start + x) finiteSum nonnegSum leSum
      fun y hy => terms y (List.mem_cons_of_mem x hy)
    rw [List.foldl_cons, List.countP_cons]
    simpa only [decide_eq_true_eq, Nat.add_assoc, Nat.add_comm] using rest

theorem value_sum {xs : List Binary64}
    (terms : ∀ x ∈ xs, x.isFinite = true ∧ 0 ≤ x.value ∧ x.value ≤ one) :
    (sum xs).isFinite = true ∧ 0 ≤ (sum xs).value ∧
      (sum xs).value ≤ tally (xs.countP fun x => 0 < x.value) := by
  have bound := value_foldl xs 0 negZero rfl (by decide) (tally_nonneg 0) terms
  rwa [Nat.zero_add] at bound

theorem nearestInt_neg (v : Int) : nearestInt (-v) = -nearestInt v := by
  rcases Int.lt_trichotomy v 0 with h | h | h
  · rw [nearestInt_of_neg h, nearestInt_of_nonneg (by omega), Int.natAbs_neg]
    omega
  · subst h
    simp [nearestInt]
  · rw [nearestInt_of_neg (by omega), nearestInt_of_nonneg h.le, Int.natAbs_neg]

/-- A sum less a count stays between its bound and the count taken away. -/
theorem nearestInt_sub_tally {v : Int} {n : Nat} (k : Nat) (nonneg : 0 ≤ v) (le : v ≤ tally n) :
    -tally k ≤ nearestInt (v - tally k) ∧ nearestInt (v - tally k) ≤ tally n := by
  have cost := tally_nonneg k
  have lower := nearestInt_mono (show -tally k ≤ v - tally k by omega)
  rw [nearestInt_neg, nearestInt_of_representable (representable_tally _)] at lower
  exact ⟨lower, nearestInt_le_tally (by omega)⟩

/-- What so many losses of one come to. Without any it is zero, and the negative zero only if
nothing was added at all. -/
def losses (added : Bool) (n : Nat) : Binary64 :=
  if n = 0 then if added then zero else negZero else finite true (min n (2 ^ 53) * one)

theorem losses_zero (added : Bool) : losses added 0 = if added then zero else negZero := if_pos rfl

theorem losses_of_pos (added : Bool) {n : Nat} (some : 0 < n) :
    losses added n = finite true (min n (2 ^ 53) * one) := if_neg (Nat.ne_of_gt some)

theorem value_losses (added : Bool) (n : Nat) :
    (losses added n).isFinite = true ∧ (losses added n).value = -tally n := by
  rcases Nat.eq_zero_or_pos n with rfl | some
  · rw [losses_zero, tally_zero]
    cases added
    · exact ⟨rfl, rfl⟩
    · exact ⟨rfl, rfl⟩
  · rw [losses_of_pos added some, value, signedSteps_true, tally]
    exact ⟨rfl, rfl⟩

theorem finite_zero_add_zero (s : Bool) : finite s 0 + zero = zero := by
  rw [zero, finite_add]
  cases s
  · rw [if_pos rfl, nearest, nearestSteps_zero, ofSteps_zero]
  · rw [if_neg (by decide), if_pos rfl, zero]

theorem losses_add_zero (added : Bool) (n : Nat) : losses added n + zero = losses true n := by
  rcases Nat.eq_zero_or_pos n with rfl | some
  · rw [losses_zero, losses_zero, if_pos rfl]
    cases added
    · exact finite_zero_add_zero true
    · exact finite_zero_add_zero false
  · have nonzero : 0 < min n (2 ^ 53) * one := Nat.mul_pos (by omega) one_pos
    have fixed := nearestSteps_one (representable_tally n)
    have below := tally_lt_overflow n
    rw [tally, Int.natAbs_natCast] at fixed
    rw [tally, Int.ofNat_lt] at below
    rw [losses_of_pos added some, losses_of_pos true some, zero, finite_add, if_neg (by decide),
      if_neg nonzero.ne', if_pos nonzero, Nat.sub_zero, nearest, fixed, ofSteps,
      if_neg (by omega)]

theorem finite_true_add_neg_one (n : Nat) :
    finite true (min n (2 ^ 53) * one) + finite true one =
      finite true (min (n + 1) (2 ^ 53) * one) := by
  have next := nearestInt_tally_add_one n
  have below := tally_lt_overflow (n + 1)
  rw [tally, Int.ofNat_lt] at below
  rw [tally, tally, ← Int.natCast_add, nearestInt_of_nonneg (Int.natCast_nonneg _),
    Int.natAbs_natCast, Int.natCast_inj] at next
  rw [finite_add, if_pos rfl, nearest, next, ofSteps, if_neg (by omega)]

theorem losses_add_neg_one (added : Bool) (n : Nat) :
    losses added n + finite true one = losses true (n + 1) := by
  have sum := finite_true_add_neg_one n
  rw [losses_of_pos true n.succ_pos, ← sum]
  rcases Nat.eq_zero_or_pos n with rfl | some
  · rw [losses_zero, Nat.min_eq_left (Nat.zero_le _), Nat.zero_mul]
    cases added
    · rfl
    · -- The first loss makes up for the sign of the zero it is added to.
      have positive := one_pos
      rw [if_pos rfl, zero, finite_add, finite_add, if_neg (by decide), if_pos rfl,
        if_neg positive.ne, if_neg (by omega), Nat.zero_add, Nat.sub_zero]
  · rw [losses_of_pos added some]

/-- A sum of terms that are zero or minus one counts the latter, in whatever order they come. -/
theorem foldl_losses (xs : List Binary64) (added : Bool) (n : Nat)
    (terms : ∀ x ∈ xs, x = zero ∨ x = finite true one) :
    xs.foldl (· + ·) (losses added n) =
      losses (added || !xs.isEmpty) (n + xs.count (finite true one)) := by
  induction xs generalizing added n with
  | nil => simp
  | cons x xs ih =>
    have later : ∀ y ∈ xs, y = zero ∨ y = finite true one :=
      fun y hy => terms y (List.mem_cons_of_mem x hy)
    rw [List.foldl_cons]
    rcases terms x List.mem_cons_self with rfl | rfl
    · have other : zero ≠ finite true one := by
        intro same
        cases same
      rw [losses_add_zero, ih true n later, List.count_cons_of_ne other]
      simp
    · rw [losses_add_neg_one, ih true (n + 1) later, List.count_cons_self, Nat.add_right_comm]
      simp [Nat.add_assoc]

theorem sum_losses {xs : List Binary64} (terms : ∀ x ∈ xs, x = zero ∨ x = finite true one) :
    sum xs = losses (!xs.isEmpty) (xs.count (finite true one)) := by
  have whole := foldl_losses xs false 0 terms
  rwa [Bool.false_or, Nat.zero_add] at whole

theorem foldl_nan (xs : List Binary64) : xs.foldl (· + ·) nan = nan := by
  induction xs with
  | nil => rfl
  | cons x xs ih => rw [List.foldl_cons, nan_add, ih]

/-- One term that is no number spoils a sum. -/
theorem sum_of_nan_mem {xs : List Binary64} (mem : nan ∈ xs) : sum xs = nan := by
  obtain ⟨earlier, later, rfl⟩ := List.append_of_mem mem
  rw [sum, List.foldl_append, List.foldl_cons, add_nan, foldl_nan]

theorem representable_value {x : Binary64} (canonical : Canonical x) :
    Representable x.value.natAbs := by
  cases x with
  | nan => exact representable_zero
  | infinite s => exact representable_zero
  | finite s a =>
    rw [value, natAbs_signedSteps]
    exact canonical.1

theorem canonical_ofSteps (s : Bool) {steps : Nat} (h : Representable steps) :
    Canonical (ofSteps s steps) := by
  rw [ofSteps]
  split
  · trivial
  · exact ⟨h, by omega⟩

theorem canonical_add (x y : Binary64) : Canonical (x + y) := by
  cases x with
  | nan => trivial
  | infinite s =>
    cases y with
    | nan => trivial
    | infinite t => cases s <;> cases t <;> trivial
    | finite t b => trivial
  | finite s a =>
    cases y with
    | nan => trivial
    | infinite t => trivial
    | finite t b =>
      obtain ⟨n, sum, -⟩ := finite_add_finite s t a b
      rw [sum]
      exact canonical_ofSteps n (representable_nearestSteps _ (by decide))

theorem canonical_sum (xs : List Binary64) : Canonical (sum xs) := by
  rcases List.eq_nil_or_concat xs with rfl | ⟨earlier, last, rfl⟩
  · exact ⟨representable_zero, one_pos.trans one_lt_overflow⟩
  · rw [sum, List.concat_eq_append, List.foldl_append]
    exact canonical_add _ _

end PatternSearch.Binary64
