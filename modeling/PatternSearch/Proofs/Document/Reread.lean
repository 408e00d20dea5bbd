import PatternSearch.Proofs.Document.Decimal
import PatternSearch.Proofs.Document.Reading

/-!
# Numbers written and read again

A finite number is written as its shortest decimal, and the number that is made of the digits need not be
the same one. It is finite and has the same sign, it is three gaps away at most, and it is the same if the
digits make a whole number up to `2 ^ 53` and the power of ten is at most the 22nd.
-/

namespace PatternSearch

open Document Decimal

namespace Binary64

/-- The significand and the exponent that are read from what is written for a count of steps. -/
def writtenParts (steps : Nat) : Nat × Int := if steps = 0 then (0, -1) else (shortest steps).parts

/-- The number that is made of what is written for a finite number. -/
def reread : Binary64 → Binary64
  | finite negative steps =>
    let (significand, exponent) := writtenParts steps
    ((scaled? significand exponent).map (signed !negative)).getD nan
  | x => x

/-- Finite numbers of one sign that are so many gaps apart at most. -/
def Near (gaps : Nat) : Binary64 → Binary64 → Prop
  | finite s a, finite t b => s = t ∧ b ≤ a + gaps * gap a ∧ a ≤ b + gaps * gap a
  | _, _ => False

/-- Neither the significand that is written nor the power of ten is rounded. -/
def Brief : Binary64 → Prop
  | finite _ steps => (writtenParts steps).1 ≤ 2 ^ 53 ∧ (writtenParts steps).2.natAbs ≤ 22
  | _ => False

instance (x : Binary64) : Decidable x.Brief := by
  cases x <;> unfold Brief <;> infer_instance

/-- The count of steps that is made of the shortest decimal of another one. -/
def rereadSteps (steps : Nat) : Nat :=
  scaledSteps (shortest steps).parts.1 (shortest steps).parts.2

/-- The gap of the greatest numbers. -/
def topGap : Nat := 1 <<< 2045

/-- The three greatest numbers do not become infinite. -/
theorem greatest_lt_overflow : ∀ m ∈ [2 ^ 53 - 3, 2 ^ 53 - 2, 2 ^ 53 - 1],
    rereadSteps (m * topGap) < overflow := by
  decide +kernel

theorem exists_topGap_eq : ∃ digits, topGap = 1 <<< digits ∧ overflow = 1 <<< (53 + digits) :=
  ⟨2045, rfl, rfl⟩

theorem scaled?_zero : scaled? 0 (-1) = some zero := by decide +kernel

attribute [local irreducible] one overflow topGap

variable {steps : Nat}

theorem writtenParts_of_pos (positive : 0 < steps) : writtenParts steps = (shortest steps).parts :=
  if_neg positive.ne'

/-- What is written for a number can be read. -/
theorem fits_shortest (h : Representable steps) (positive : 0 < steps) (small : steps < overflow) :
    (shortest steps).Fits := by
  obtain ⟨has, few, least⟩ := shortest_spec h positive
  exact ⟨digits_pos_of_has h positive has, few, least, exponent_le_of_has h positive small has⟩

theorem has_parts (h : Representable steps) (positive : 0 < steps) :
    (interval steps).Has (inSteps ⟨(shortest steps).parts.1, (shortest steps).parts.2⟩) := by
  rw [inSteps_parts]
  exact (shortest_spec h positive).1

theorem rereadSteps_near (h : Representable steps) (positive : 0 < steps) (small : steps < overflow) :
    rereadSteps steps ≤ steps + 3 * gap steps ∧ steps ≤ rereadSteps steps + 3 * gap steps := by
  have least := (fits_shortest h positive small).parts_exponent.1
  have bound : lastPlace ≤ maxPower + 22 := by decide
  exact scaledSteps_near h (has_parts h positive) (by omega)

/-- Only the three greatest numbers are within three gaps of the infinities. -/
theorem greatest_of_near_overflow (h : Representable steps) (small : steps < overflow)
    (near : overflow ≤ steps + 3 * gap steps) :
    ∃ m ∈ [2 ^ 53 - 3, 2 ^ 53 - 2, 2 ^ 53 - 1], steps = m * topGap := by
  obtain ⟨digits, top, bound⟩ := exists_topGap_eq
  obtain ⟨m, split, few⟩ := exists_eq_mul_gap h
  have positive := gap_pos steps
  rw [Nat.one_shiftLeft] at top bound
  rw [bound] at small
  have most : spare steps ≤ digits := spare_le_iff.mpr small
  rw [bound, Nat.pow_add] at near
  have same : gap steps = topGap := by
    by_contra other
    have less : spare steps + 1 ≤ digits := by
      by_contra equal
      exact other (by rw [gap, top, show spare steps = digits by omega])
    have double : 2 * gap steps ≤ 2 ^ digits := by
      rw [gap, ← Nat.pow_succ']
      exact Nat.pow_le_pow_right (by decide) less
    have within : steps + 3 * gap steps ≤ (2 ^ 53 + 2) * gap steps := by
      have next : (m + 3) * gap steps ≤ (2 ^ 53 + 2) * gap steps := Nat.mul_le_mul_right _ (by omega)
      rwa [Nat.add_mul, ← split] at next
    omega
  rw [same] at split near
  rw [← top, split] at near
  have large : 2 ^ 53 ≤ m + 3 := by
    have sum : 2 ^ 53 * topGap ≤ (m + 3) * topGap := by
      rwa [Nat.add_mul]
    exact Nat.le_of_mul_le_mul_right sum (same ▸ positive)
  refine ⟨m, ?_, split⟩
  simp only [List.mem_cons, List.not_mem_nil, or_false]
  omega

theorem rereadSteps_lt_overflow (h : Representable steps) (positive : 0 < steps)
    (small : steps < overflow) : rereadSteps steps < overflow := by
  have near := (rereadSteps_near h positive small).1
  by_cases far : steps + 3 * gap steps < overflow
  · omega
  · obtain ⟨m, mem, rfl⟩ := greatest_of_near_overflow h small (not_lt.mp far)
    exact greatest_lt_overflow m mem

/-- The digits of a number make a finite number. -/
theorem scaled?_shortest (h : Representable steps) (positive : 0 < steps) (small : steps < overflow) :
    scaled? (shortest steps).parts.1 (shortest steps).parts.2 =
      some (finite false (rereadSteps steps)) := by
  have fits := fits_shortest h positive small
  obtain ⟨least, most⟩ := fits.parts_exponent
  have few := fits.parts_lt
  have bound : lastPlace < 2 * maxPower := by decide
  exact scaled?_eq fits.parts_pos (by omega) (by omega) most (rereadSteps_lt_overflow h positive small)

theorem signed_finite (negative : Bool) (a : Nat) :
    signed (!negative) (finite false a) = finite negative a := by
  cases negative <;> rfl

/-! ## The number that is read -/

theorem reread_zero (negative : Bool) : (finite negative 0).reread = finite negative 0 := by
  rw [reread, writtenParts, if_pos rfl]
  dsimp only
  rw [scaled?_zero]
  exact signed_finite negative 0

theorem reread_of_pos (negative : Bool) (h : Representable steps) (positive : 0 < steps)
    (small : steps < overflow) :
    (finite negative steps).reread = finite negative (rereadSteps steps) := by
  rw [reread, writtenParts_of_pos positive]
  dsimp only
  rw [scaled?_shortest h positive small]
  exact signed_finite negative _

theorem near_self (gaps : Nat) (negative : Bool) (steps : Nat) :
    Near gaps (finite negative steps) (finite negative steps) :=
  ⟨rfl, Nat.le_add_right _ _, Nat.le_add_right _ _⟩

theorem finite_of_near {gaps : Nat} {x y : Binary64} (near : Near gaps x y) : y.isFinite = true := by
  cases x <;> cases y <;> first | rfl | exact near.elim

/-- The number that is read is close by. -/
theorem near_reread {x : Binary64} (finite : x.isFinite = true) (canonical : Canonical x) :
    Near 3 x x.reread := by
  obtain ⟨negative, steps, rfl⟩ := isFinite_iff.mp finite
  rcases Nat.eq_zero_or_pos steps with rfl | positive
  · rw [reread_zero]
    exact near_self 3 negative 0
  · rw [reread_of_pos negative canonical.1 positive canonical.2]
    exact ⟨rfl, rereadSteps_near canonical.1 positive canonical.2⟩

theorem canonical_reread {x : Binary64} (finite : x.isFinite = true) (canonical : Canonical x) :
    Canonical x.reread := by
  obtain ⟨negative, steps, rfl⟩ := isFinite_iff.mp finite
  rcases Nat.eq_zero_or_pos steps with rfl | positive
  · rwa [reread_zero]
  · rw [reread_of_pos negative canonical.1 positive canonical.2]
    exact ⟨representable_scaledSteps _ _, rereadSteps_lt_overflow canonical.1 positive canonical.2⟩

theorem reread_of_brief {x : Binary64} (canonical : Canonical x) (brief : x.Brief) : x.reread = x := by
  cases x with
  | finite negative steps =>
    rcases Nat.eq_zero_or_pos steps with rfl | positive
    · exact reread_zero negative
    · rw [Brief, writtenParts_of_pos positive] at brief
      have same : rereadSteps steps = steps :=
        scaledSteps_exact canonical.1 (has_parts canonical.1 positive) brief.1 brief.2
      rw [reread_of_pos negative canonical.1 positive canonical.2, same]
  | _ => rfl

/-! ## Reading the number -/

/-- What is written for a count of steps. -/
def writtenSteps (steps : Nat) : List Char :=
  if steps = 0 then ['0', '.', '0'] else (shortest steps).write

theorem writeReal_finite (negative : Bool) (steps : Nat) : Value.writeReal (finite negative steps) =
    if negative then '-' :: writtenSteps steps else writtenSteps steps := rfl

theorem exists_writtenSteps_eq_cons (steps : Nat) :
    ∃ c more, writtenSteps steps = c :: more ∧ Text.isDecimal c = true := by
  rw [writtenSteps]
  split
  · exact ⟨_, _, rfl, by decide⟩
  · exact exists_write_eq_cons _

theorem finishes_writtenSteps (positive : Bool) {rest : List Char} (h : Representable steps)
    (small : steps < overflow) (stops : Stops rest) (offset : Nat) :
    Finishes (readNumeral positive ⟨writtenSteps steps ++ rest, offset⟩) positive
      (writtenParts steps).1 (writtenParts steps).2 rest := by
  rcases Nat.eq_zero_or_pos steps with rfl | some
  · exact finishes_point fronts_zero digital_zero stops rfl (by decide) rfl offset
  · rw [writtenSteps, if_neg some.ne', writtenParts_of_pos some]
    exact finishes_write (fits_shortest h some small) stops offset

theorem exists_scaled?_writtenParts (h : Representable steps) (small : steps < overflow) :
    ∃ a, scaled? (writtenParts steps).1 (writtenParts steps).2 = some (finite false a) := by
  rcases Nat.eq_zero_or_pos steps with rfl | some
  · exact ⟨0, scaled?_zero⟩
  · rw [writtenParts_of_pos some]
    exact ⟨_, scaled?_shortest h some small⟩

/-- A number is read from what is written for it, whatever its sign. -/
theorem gives_writtenSteps (negative : Bool) {rest : List Char} (h : Representable steps)
    (small : steps < overflow) (stops : Stops rest) (offset : Nat) :
    Gives (readNumeral (!negative) ⟨writtenSteps steps ++ rest, offset⟩)
      (.real (finite negative steps).reread) rest := by
  obtain ⟨behind, read⟩ := finishes_writtenSteps (!negative) h small stops offset
  obtain ⟨a, made⟩ := exists_scaled?_writtenParts h small
  have same : (finite negative steps).reread = signed (!negative) (finite false a) := by
    rw [reread]
    dsimp only
    rw [made]
    rfl
  refine ⟨behind, ?_⟩
  rw [read, finishReal, made, same]

theorem reads_real {x : Binary64} (finite : x.isFinite = true) (canonical : Canonical x) :
    Reads Reader.real (.real x) (.real x.reread) := by
  obtain ⟨negative, steps, rfl⟩ := isFinite_iff.mp finite
  intro blanks text rest offset blank spelled stops
  cases spelled
  have read (offset : Nat) := gives_writtenSteps negative canonical.1 canonical.2 stops offset
  obtain ⟨c, more, same, decimal⟩ := exists_writtenSteps_eq_cons steps
  rw [writeReal_finite, Reader.real, Reader.numeral]
  cases negative with
  | true =>
    refine gives_atValue blank (by decide) (fun there => ?_) offset
    rw [if_pos rfl]
    exact (read (there + '-'.utf8Size)).bind fun behind => ⟨behind, rfl⟩
  | false =>
    have plus : c ≠ '-' := Text.ne_of_isDecimal decimal (by decide)
    rw [if_neg Bool.false_ne_true, same, List.cons_append]
    refine gives_atValue blank (isBlank_of_isDecimal decimal) (fun there => ?_) offset
    rw [if_neg plus, if_pos decimal]
    have number := read there
    rw [same, List.cons_append] at number
    exact number.bind fun behind => ⟨behind, rfl⟩

end Binary64

end PatternSearch
