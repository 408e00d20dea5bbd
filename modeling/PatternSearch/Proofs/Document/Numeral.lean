import PatternSearch.Proofs.Document.Quote
import PatternSearch.Proofs.Text.Digits

/-!
# Whole numbers are read back

A whole number that fits 64 bits is read back from its digits, if what stands behind it cannot be a
part of a number.
-/

namespace PatternSearch.Document

open Text

/-- What may stand behind a number: nothing, or a blank, a separator or a closing bracket. -/
def Stops (rest : List Char) : Prop :=
  ∀ c ∈ rest.head?, Cursor.isBlank c = true ∨ c = ',' ∨ c = ']' ∨ c = '}'

theorem stops_nil : Stops [] := fun _ none => by cases none

theorem stops_cons {c : Char} (more : List Char)
    (h : Cursor.isBlank c = true ∨ c = ',' ∨ c = ']' ∨ c = '}') : Stops (c :: more) := by
  rintro d ⟨⟩
  exact h

theorem Stops.of_cons {c : Char} {more : List Char} (h : Stops (c :: more)) :
    isDecimal c = false ∧ c ≠ '.' ∧ isExponentMark c = false := by
  have seen := h c rfl
  simp only [Cursor.isBlank, Bool.or_eq_true, beq_iff_eq, or_assoc] at seen
  rcases seen with rfl | rfl | rfl | rfl | rfl | rfl | rfl <;> decide

/-- The digits that come next are those before any other character. -/
theorem digits_append_of_head {text rest : List Char} (decimal : ∀ c ∈ text, isDecimal c = true)
    (ends : ∀ c ∈ rest.head?, isDecimal c = false) (offset : Nat) :
    digits ⟨text ++ rest, offset⟩ = (text, ⟨rest, offset + text.length⟩) := by
  have none : rest.takeWhile isDecimal = [] := by
    cases rest with
    | nil => rfl
    | cons c more => exact List.takeWhile_cons_of_neg (by simp [ends c rfl])
  have taken : (text ++ rest).takeWhile isDecimal = text := by
    rw [List.takeWhile_append_of_pos decimal, none, List.append_nil]
  simp [digits, taken]

theorem Stops.head {rest : List Char} (stops : Stops rest) : ∀ c ∈ rest.head?, isDecimal c = false := by
  cases rest with
  | nil => exact fun _ none => by cases none
  | cons c more =>
    rintro d ⟨⟩
    exact stops.of_cons.1

theorem digits_append {text rest : List Char} (decimal : ∀ c ∈ text, isDecimal c = true)
    (stops : Stops rest) (offset : Nat) :
    digits ⟨text ++ rest, offset⟩ = (text, ⟨rest, offset + text.length⟩) :=
  digits_append_of_head decimal stops.head offset

/-! ## The number that digits make -/

theorem le_foldl_decimal (text : List Char) (n : Nat) :
    n ≤ text.foldl (fun n c => 10 * n + decimalValue c) n := by
  induction text generalizing n with
  | nil => exact Nat.le_refl _
  | cons c text ih =>
    have rest := ih (10 * n + decimalValue c)
    rw [List.foldl_cons]
    omega

theorem gather_eq {limit : Nat} (text : List Char) (n : Nat)
    (small : text.foldl (fun n c => 10 * n + decimalValue c) n ≤ limit) :
    gather limit n text = (text.foldl (fun n c => 10 * n + decimalValue c) n, []) := by
  induction text generalizing n with
  | nil => rfl
  | cons c text ih =>
    have within := Nat.le_trans (le_foldl_decimal text _) small
    rw [gather, if_pos within, ih _ small, List.foldl_cons]

theorem gather_toDigits {limit n : Nat} (small : n ≤ limit) :
    gather limit 0 (Nat.toDigits 10 n) = (n, []) := by
  have value := decimalNumber_toDigits n
  rw [decimalNumber] at value
  rw [gather_eq _ 0 (by rw [value]; exact small), value]

theorem eq_zero_of_toDigits {n : Nat} {more : List Char} (h : Nat.toDigits 10 n = '0' :: more) :
    n = 0 := by
  induction n using Nat.strongRecOn generalizing more with
  | ind n ih =>
    by_cases small : n < 10
    · rw [Nat.toDigits_of_lt_base small] at h
      have first := decimalValue_digitChar small
      rw [(List.cons.inj h).1] at first
      exact first.symm
    · obtain ⟨d, digits, front, -⟩ := exists_toDigits_eq_cons (n / 10)
      rw [toDigits_of_le (Nat.le_of_not_lt small), front] at h
      rw [(List.cons.inj h).1] at front
      have none := ih (n / 10) (by omega) front
      omega

/-- There is no zero before the other digits. -/
theorem toDigits_ne_zero_cons (n : Nat) (d : Char) (more : List Char) :
    Nat.toDigits 10 n ≠ '0' :: d :: more := by
  intro h
  rw [eq_zero_of_toDigits h] at h
  cases h

/-! ## A number in a document -/

theorem gives_readNumeral (positive : Bool) {n : Nat} (small : n ≤ maxUnsigned) {rest : List Char}
    (stops : Stops rest) (offset : Nat) :
    Gives (readNumeral positive ⟨Nat.toDigits 10 n ++ rest, offset⟩) (wholeOrReal positive n)
      rest := by
  refine ⟨offset + (Nat.toDigits 10 n).length, ?_⟩
  rw [readNumeral, digits_append isDecimal_of_mem_toDigits stops]
  dsimp only
  split
  next none => exact absurd none (toDigits_ne_nil n)
  next d more zero => exact absurd zero (toDigits_ne_zero_cons n d more)
  next =>
    rw [gather_toDigits small]
    cases rest with
    | nil => rfl
    | cons c more =>
      obtain ⟨-, point, mark⟩ := stops.of_cons
      simp [mark]

end PatternSearch.Document
