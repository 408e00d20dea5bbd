import PatternSearch.Text.Blank
import PatternSearch.Text.Digits

/-!
# Decimal digits

Decimal digits are no blanks and no letters, and a number is read back from its digits.
-/

namespace PatternSearch.Text

theorem isDecimal_iff {c : Char} : isDecimal c = true ↔ 48 ≤ c.toNat ∧ c.toNat ≤ 57 := by
  rw [isDecimal, Bool.and_eq_true, decide_eq_true_iff, decide_eq_true_iff, Char.le_def, Char.le_def,
    UInt32.le_iff_toNat_le, UInt32.le_iff_toNat_le]
  exact Iff.rfl

theorem isBlank_of_isDecimal {c : Char} (h : isDecimal c = true) : isBlank c = false := by
  have range := isDecimal_iff.mp h
  simp only [isBlank, Bool.or_eq_false_iff, Bool.and_eq_false_iff, beq_eq_false_iff_ne,
    decide_eq_false_iff_not]
  omega

theorem isAlpha_of_isDecimal {c : Char} (h : isDecimal c = true) : c.isAlpha = false := by
  have range := isDecimal_iff.mp h
  rw [Bool.eq_false_iff]
  intro letter
  have within : 65 ≤ c.toNat ∧ c.toNat ≤ 90 ∨ 97 ≤ c.toNat ∧ c.toNat ≤ 122 := by
    rcases Bool.or_eq_true_iff.mp letter with upper | lower
    · exact Or.inl (of_decide_eq_true upper)
    · obtain ⟨least, most⟩ := Bool.and_eq_true_iff.mp lower
      exact Or.inr ⟨of_decide_eq_true least, of_decide_eq_true most⟩
  omega

theorem ne_of_isDecimal {c d : Char} (h : isDecimal c = true) (other : isDecimal d = false) :
    c ≠ d := by
  rintro rfl
  rw [h] at other
  cases other

theorem isDecimal_digitChar {n : Nat} (small : n < 10) : isDecimal (Nat.digitChar n) = true := by
  revert n
  decide

theorem decimalValue_digitChar {n : Nat} (small : n < 10) : decimalValue (Nat.digitChar n) = n := by
  revert n
  decide

/-- The last digit of a number, behind the others. -/
theorem toDigits_of_le {n : Nat} (large : 10 ≤ n) :
    Nat.toDigits 10 n = Nat.toDigits 10 (n / 10) ++ [Nat.digitChar (n % 10)] := by
  have split := Nat.toDigits_append_toDigits (b := 10) (n := n / 10) (d := n % 10) (by decide)
    (by omega) (by omega)
  rw [show 10 * (n / 10) + n % 10 = n by omega] at split
  rw [← split, Nat.toDigits_of_lt_base (show n % 10 < 10 by omega)]

theorem toDigits_ne_nil (n : Nat) : Nat.toDigits 10 n ≠ [] := by
  by_cases small : n < 10
  · rw [Nat.toDigits_of_lt_base small]
    exact List.cons_ne_nil _ _
  · rw [toDigits_of_le (Nat.le_of_not_lt small)]
    exact List.concat_ne_nil _ _

theorem isDecimal_of_mem_toDigits {n : Nat} : ∀ c ∈ Nat.toDigits 10 n, isDecimal c = true := by
  induction n using Nat.strongRecOn with
  | ind n ih =>
    by_cases small : n < 10
    · rw [Nat.toDigits_of_lt_base small, List.forall_mem_singleton]
      exact isDecimal_digitChar small
    · rw [toDigits_of_le (Nat.le_of_not_lt small), List.forall_mem_append, List.forall_mem_singleton]
      exact ⟨ih (n / 10) (by omega), isDecimal_digitChar (by omega)⟩

theorem exists_toDigits_eq_cons (n : Nat) :
    ∃ d digits, Nat.toDigits 10 n = d :: digits ∧ isDecimal d = true := by
  obtain ⟨d, digits, same⟩ := List.exists_cons_of_ne_nil (toDigits_ne_nil n)
  exact ⟨d, digits, same, isDecimal_of_mem_toDigits d (by rw [same]; exact List.mem_cons_self)⟩

/-- A number is read back from its digits. -/
theorem decimalNumber_toDigits (n : Nat) : decimalNumber (Nat.toDigits 10 n) = n := by
  induction n using Nat.strongRecOn with
  | ind n ih =>
    by_cases small : n < 10
    · rw [Nat.toDigits_of_lt_base small, decimalNumber, List.foldl_cons, List.foldl_nil,
        decimalValue_digitChar small]
      omega
    · have front := ih (n / 10) (by omega)
      rw [decimalNumber] at front
      rw [toDigits_of_le (Nat.le_of_not_lt small), decimalNumber, List.foldl_append, front,
        List.foldl_cons, List.foldl_nil, decimalValue_digitChar (show n % 10 < 10 by omega)]
      omega

end PatternSearch.Text
