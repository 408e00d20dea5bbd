import PatternSearch.Proofs.Number.Error
import PatternSearch.Proofs.Search.Perfect

/-!
# Bounds on scores

A credit is a number between zero and one, since a match never takes more of a text than there is, and
nothing is divided by zero. Penalties are counted without an error. So a score lies between the number
of negative examples, taken away, and the number of positive ones: no rounding gets past a bound that
is a whole number.
-/

namespace PatternSearch

open Text Binary64

attribute [local irreducible] one overflow

theorem Text.unitWidth_eq_zero_iff {text : List Char} : unitWidth text = 0 ↔ text = [] := by
  cases text with
  | nil => simp
  | cons c rest =>
    have positive : 0 < units16 c := by
      rw [units16]
      split
      · decide
      · decide
    simp only [unitWidth_cons, reduceCtorEq, iff_false]
    omega

theorem Pattern.Regex.taken_isInfix {r : Pattern.Regex} {text : List Char}
    {found : Pattern.Regex.Found} (h : r.find text = some found) : found.taken <:+: text := by
  obtain ⟨first, n, taken⟩ := find_taken h
  rw [taken]
  exact (List.take_prefix n _).isInfix.trans (List.drop_suffix first text).isInfix

namespace Matcher

variable (m : Matcher) (examples : Examples)

/-! ## Credits -/

/-- How a text comes to its credit. There is a division for a share only: it is by the width of the
text, which is not zero and not below the width of the match. -/
inductive Earns (text : String) : Prop
  | whole (matched : m.whole.isMatch text = true) (credit_eq : m.credit text = .ofNat 1)
  | nothing (unmatched : m.whole.isMatch text = false)
      (reason : text.toList = [] ∨ m.part.find text = none) (credit_eq : m.credit text = .zero)
  | share (found : Pattern.Regex.Found) (unmatched : m.whole.isMatch text = false)
      (find_eq : m.part.find text = some found) (part : found.taken <:+: text.toList)
      (divisor : 0 < (Binary64.ofNat (unitWidth text.toList)).toRat)
      (le : (Binary64.ofNat (unitWidth found.taken)).toRat ≤
        (Binary64.ofNat (unitWidth text.toList)).toRat)
      (credit_eq : m.credit text =
        .ofNat (unitWidth found.taken) / .ofNat (unitWidth text.toList))

variable {m examples}

theorem earns {text : String} (short : unitWidth text.toList < 2 ^ 64) : m.Earns text := by
  by_cases matched : m.whole.isMatch text = true
  · exact .whole matched (if_pos matched)
  have unmatched := Bool.eq_false_iff.mpr matched
  have credit_eq : m.credit text = _ := if_neg matched
  by_cases empty : unitWidth text.toList = 0
  · exact .nothing unmatched (Or.inl (unitWidth_eq_zero_iff.mp empty))
      (credit_eq.trans (if_pos empty))
  replace credit_eq := credit_eq.trans (if_neg empty)
  cases find_eq : m.part.find text with
  | none =>
    rw [find_eq] at credit_eq
    exact .nothing unmatched (Or.inr find_eq) credit_eq
  | some found =>
    rw [find_eq] at credit_eq
    obtain ⟨first, n, taken⟩ := Pattern.Regex.find_taken find_eq
    have le : unitWidth found.taken ≤ unitWidth text.toList := by
      rw [taken]
      exact unitWidth_part_le _ _ _
    exact .share found unmatched find_eq (Pattern.Regex.taken_isInfix find_eq)
      (toRat_ofNat_pos (Nat.pos_of_ne_zero empty) short) (toRat_ofNat_mono le short) credit_eq

theorem canonical_credit (text : String) : Canonical (m.credit text) := by
  rcases m.credit_eq_or text with whole | missed | ⟨taken, -, -, share⟩
  · rw [whole]
    exact canonical_ofNat 1
  · rw [missed]
    exact canonical_zero false
  · rw [share]
    exact canonical_div _ _

theorem credit_between {text : String} (short : unitWidth text.toList < 2 ^ 64) :
    (m.credit text).isFinite = true ∧ 0 ≤ (m.credit text).toRat ∧ (m.credit text).toRat ≤ 1 := by
  rcases m.credit_eq_nan_or text with no | ⟨finite, nonneg, le⟩
  · exact absurd no (m.credit_ne_nan short)
  · have most := toRat_le (le.trans_eq tally_one.symm)
    exact ⟨finite, toRat_nonneg nonneg, by simpa using most⟩

/-! ## Penalties -/

/-- Penalties are counted exactly, as far as the numbers count. -/
theorem toRat_penalties :
    (m.penalties examples).toRat = -(min (m.mistakes examples) (2 ^ 53) : Nat) :=
  toRat_eq_of_value (m.value_penalties examples).2

/-! ## Scores -/

theorem score_between (numbers : nan ∉ examples.positive.map m.credit) :
    (m.score examples).isFinite = true ∧
      -tally (m.mistakes examples) ≤ (m.score examples).value ∧
      (m.score examples).value ≤ tally examples.positive.length := by
  obtain ⟨finite, nonneg, le⟩ := m.credits_of_numbers examples numbers
  obtain ⟨finiteScore, value⟩ := m.value_score examples finite nonneg le
  have bounds := nearestInt_sub_tally (examples.negative.countP m.whole.isMatch) nonneg le
  rw [← value] at bounds
  exact ⟨finiteScore, bounds⟩

theorem le_roundHalfUp_score (numbers : nan ∉ examples.positive.map m.credit) :
    -(examples.negative.length : Int) ≤ (m.score examples).roundHalfUp := by
  obtain ⟨finite, lower, -⟩ := score_between numbers
  have few : m.mistakes examples ≤ examples.negative.length := List.countP_le_length
  have most := (tally_mono few).trans (tally_le _)
  have positive := natCast_one_pos
  apply le_roundHalfUp finite (canonical_add _ _)
  · rw [Int.neg_mul]
    omega
  · unfold maxInt64
    omega

/-- The bounds on credits, penalties and scores, for positive examples that a machine of 64 bits can
hold and for as many negative ones as can be counted without an error. -/
theorem score_bounded (few : examples.negative.length ≤ 2 ^ 53)
    (short : ∀ text ∈ examples.positive, unitWidth text.toList < 2 ^ 64) :
    (∀ text ∈ examples.positive, m.Earns text ∧ Canonical (m.credit text) ∧
      (m.credit text).isFinite = true ∧ 0 ≤ (m.credit text).toRat ∧ (m.credit text).toRat ≤ 1) ∧
    ((m.penalties examples).isFinite = true ∧
      (m.penalties examples).toRat = -m.mistakes examples) ∧
    (Canonical (m.score examples) ∧ (m.score examples).isFinite = true ∧
      -(examples.negative.length : ℚ) ≤ (m.score examples).toRat ∧
      (m.score examples).toRat ≤ examples.positive.length) ∧
    -(examples.negative.length : Int) ≤ (m.score examples).roundHalfUp ∧
      (m.score examples).roundHalfUp ≤ examples.positive.length := by
  have numbers := m.nan_notMem_credits examples short
  have matched : m.mistakes examples ≤ examples.negative.length := List.countP_le_length
  obtain ⟨finite, lower, upper⟩ := score_between numbers
  refine ⟨?_, ⟨(m.value_penalties examples).1, ?_⟩, ⟨canonical_add _ _, finite, ?_, toRat_le upper⟩,
    le_roundHalfUp_score numbers, m.roundHalfUp_score_le_goal examples⟩
  · intro text mem
    exact ⟨earns (short text mem), canonical_credit text, credit_between (short text mem)⟩
  · rw [toRat_penalties, Nat.min_eq_left (matched.trans few)]
  · have bound := tally_mono matched
    exact le_toRat (by omega)

/-- A share of one third beside a whole match, an empty text and a penalty. -/
theorem score_bounded_letter :
    let examples : Examples := ⟨["a😀", "", "a"], ["a", "b"]⟩
    ∃ m, Matcher.compile [⟨"a"⟩] = .ok m ∧ m.credit "a😀" = .ofNat 1 / .ofNat 3 ∧
      (m.credit "a😀").toRat ≤ 1 ∧ (m.penalties examples).toRat = -1 ∧
      -2 ≤ (m.score examples).toRat ∧ (m.score examples).roundHalfUp ≤ 3 := by
  intro examples
  obtain ⟨m, compiled, verdict⟩ := @exists_of_toOption_map _ _ _ (Matcher.compile [⟨"a"⟩])
    (fun m => (m.credit "a😀", m.mistakes examples)) (.ofNat 1 / .ofNat 3, 1) (by decide +kernel)
  obtain ⟨share, mistakes⟩ := Prod.mk.inj verdict
  obtain ⟨credits, ⟨-, penalties⟩, ⟨-, -, lower, -⟩, -, upper⟩ :=
    @score_bounded m examples (by decide) (by decide)
  obtain ⟨-, -, -, -, most⟩ := credits "a😀" (by decide)
  rw [mistakes, Nat.cast_one] at penalties
  exact ⟨m, compiled, share, most, penalties, lower, upper⟩

end Matcher

end PatternSearch
