import Mathlib.Algebra.Order.BigOperators.Group.List
import Mathlib.Algebra.Order.Ring.Nat
import PatternSearch.Fragment
import PatternSearch.Proofs.Text.Digits

/-!
# The repetition of a fragment

The repetition of a fragment is its first plus sign, unless that is its first character. A count in
its place brings no plus sign with it, so each pin leaves one plus sign less.
-/

namespace PatternSearch.Fragment

variable {fragment pinned : Fragment} {before after : List Char} {n : Nat}

/-! ## The two texts around it -/

theorem toList_of_parts? (parts : fragment.parts? = some (before, after)) :
    fragment.source.toList = before ++ '+' :: after := by
  rw [parts?] at parts
  split at parts
  · next c front d others taken dropped =>
    cases parts
    have sign : d = '+' := by
      have stop := List.head?_dropWhile_not (· != '+') fragment.source.toList
      rw [dropped] at stop
      simpa using stop
    have whole := List.takeWhile_append_dropWhile (p := (· != '+')) (l := fragment.source.toList)
    rw [taken, dropped, sign] at whole
    exact whole.symm
  · cases parts

theorem toList_of_pin? (parts : fragment.parts? = some (before, after))
    (pin : fragment.pin? n = some pinned) :
    pinned.source.toList = before ++ (exactly n ++ after) := by
  rw [pin?, parts] at pin
  cases pin
  simp

/-- Where there is a repetition, it can be pinned to any count. -/
theorem isSome_pin? (fragment : Fragment) (n : Nat) :
    (fragment.pin? n).isSome = fragment.marker?.isSome := by
  simp only [pin?, marker?, Option.isSome_map]

theorem exactly_injective : Function.Injective exactly := by
  intro m n same
  have digits : Nat.toDigits 10 m = Nat.toDigits 10 n :=
    List.append_cancel_right (List.cons.inj same).2
  calc
    m = Text.decimalNumber (Nat.toDigits 10 m) := (Text.decimalNumber_toDigits m).symm
    _ = Text.decimalNumber (Nat.toDigits 10 n) := congrArg Text.decimalNumber digits
    _ = n := Text.decimalNumber_toDigits n

/-- The count can be read off a pinned fragment. -/
theorem count_eq_of_pin? {m : Nat} (pin : fragment.pin? m = some pinned)
    (pin' : fragment.pin? n = some pinned) : m = n := by
  obtain ⟨⟨before, after⟩, parts, -⟩ := Option.map_eq_some_iff.mp pin
  have texts := (toList_of_pin? parts pin).symm.trans (toList_of_pin? parts pin')
  exact exactly_injective (List.append_cancel_right (List.append_cancel_left texts))

/-! ## Plus signs -/

/-- The number of plus signs, whatever they stand for. -/
def pluses (fragment : Fragment) : Nat := fragment.source.toList.count '+'

/-- The plus signs of all the fragments together. -/
def plusesIn (fragments : List Fragment) : Nat := (fragments.map pluses).sum

theorem plus_not_mem_exactly (count : Nat) : '+' ∉ exactly count := by
  intro mem
  rcases List.mem_cons.mp mem with brace | mem
  · cases brace
  · rcases List.mem_append.mp mem with digit | brace
    · exact Text.ne_of_isDecimal (Text.isDecimal_of_mem_toDigits _ digit) rfl rfl
    · cases List.mem_singleton.mp brace

/-- A pin takes away exactly one plus sign, however many there are. -/
theorem pluses_of_pin? (pin : fragment.pin? n = some pinned) :
    pinned.pluses + 1 = fragment.pluses := by
  obtain ⟨⟨before, after⟩, parts, -⟩ := Option.map_eq_some_iff.mp pin
  have unsigned := List.count_eq_zero_of_not_mem (plus_not_mem_exactly n)
  rw [pluses, pluses, toList_of_pin? parts pin, toList_of_parts? parts, List.count_append,
    List.count_append, List.count_append, List.count_cons_self, unsigned]
  omega

theorem ne_of_pin? (pin : fragment.pin? n = some pinned) : pinned ≠ fragment := by
  rintro rfl
  exact Nat.succ_ne_self _ (pluses_of_pin? pin)

theorem plusesIn_cons (fragment : Fragment) (rest : List Fragment) :
    plusesIn (fragment :: rest) = fragment.pluses + plusesIn rest := List.sum_cons

theorem plusesIn_le_of_sublist {fragments all : List Fragment} (h : fragments.Sublist all) :
    plusesIn fragments ≤ plusesIn all :=
  (h.map pluses).sum_le_sum fun _ _ => Nat.zero_le _

end PatternSearch.Fragment
