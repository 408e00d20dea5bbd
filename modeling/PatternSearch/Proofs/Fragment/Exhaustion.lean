import Mathlib.Data.List.TakeWhile
import PatternSearch.Proofs.Fragment.Repetition
import PatternSearch.Proofs.Text.Boundary

/-!
# Pinning until no repetition is left

A pin replaces the first plus sign and nothing else, and a count in braces brings none with it. So a
fragment is pinned as often as it has plus signs, and then the counts stand where the plus signs were, in
their order. A fragment that begins with a plus sign is never pinned at all.
-/

namespace PatternSearch.Fragment

open Text

variable {fragment pinned last : Fragment} {before after rest text : List Char} {counts : List Nat}
  {n : Nat}

/-! ## One pin -/

/-- What stands before the repetition is not empty and has no plus sign. -/
theorem parts?_eq_some_iff : fragment.parts? = some (before, after) ↔
    before ≠ [] ∧ '+' ∉ before ∧ fragment.source.toList = before ++ '+' :: after := by
  constructor
  · intro parts
    have whole := toList_of_parts? parts
    rw [parts?] at parts
    split at parts
    · next c front _ _ taken _ =>
      cases parts
      refine ⟨List.cons_ne_nil c front, fun sign => ?_, whole⟩
      rw [← taken] at sign
      simpa using List.mem_takeWhile_imp sign
    · cases parts
  · rintro ⟨nonempty, unsigned, whole⟩
    obtain ⟨c, front, rfl⟩ := List.exists_cons_of_ne_nil nonempty
    have other : ∀ d ∈ c :: front, (d != '+') = true := by
      intro d mem
      rw [bne_iff_ne]
      rintro rfl
      exact unsigned mem
    have taken : ((c :: front) ++ '+' :: after).takeWhile (· != '+') = c :: front := by
      rw [List.takeWhile_append_of_pos other]
      simp
    have dropped : ((c :: front) ++ '+' :: after).dropWhile (· != '+') = '+' :: after := by
      rw [List.dropWhile_append_of_pos other]
      simp
    rw [parts?, whole, taken, dropped]

theorem pin?_eq_some_iff : fragment.pin? n = some pinned ↔ ∃ before after,
    fragment.parts? = some (before, after) ∧ pinned.source.toList = before ++ (exactly n ++ after) := by
  constructor
  · intro pin
    obtain ⟨⟨before, after⟩, parts, -⟩ := Option.map_eq_some_iff.mp pin
    exact ⟨before, after, parts, toList_of_pin? parts pin⟩
  · rintro ⟨before, after, parts, written⟩
    have source : pinned.source = String.ofList (before ++ exactly n ++ after) := by
      rw [List.append_assoc, ← written, String.ofList_toList]
    obtain ⟨text⟩ := pinned
    cases source
    rw [pin?, parts]
    rfl

theorem pin?_eq_none_iff : (∀ n, fragment.pin? n = none) ↔
    fragment.source.toList.head? = some '+' ∨ '+' ∉ fragment.source.toList := by
  constructor
  · intro none
    by_contra some
    obtain ⟨begins, sign⟩ := not_or.mp some
    rw [not_not] at sign
    obtain ⟨before, after, whole, unsigned⟩ := List.eq_append_cons_of_mem sign
    have nonempty : before ≠ [] := by
      rintro rfl
      exact begins (by rw [whole]; rfl)
    have parts := parts?_eq_some_iff.mpr ⟨nonempty, unsigned, whole⟩
    have pin : fragment.pin? 0 ≠ Option.none := by simp [pin?, parts]
    exact pin (none 0)
  · intro stuck n
    rw [Option.eq_none_iff_forall_ne_some]
    intro pinned pin
    obtain ⟨before, after, parts, -⟩ := pin?_eq_some_iff.mp pin
    obtain ⟨nonempty, unsigned, whole⟩ := parts?_eq_some_iff.mp parts
    rw [whole] at stuck
    rcases stuck with begins | unsigned'
    · obtain ⟨c, front, rfl⟩ := List.exists_cons_of_ne_nil nonempty
      cases begins
      exact unsigned List.mem_cons_self
    · exact unsigned' (List.mem_append_right before List.mem_cons_self)

/-- The first character stays: it is never the plus sign that is replaced. -/
theorem head?_of_pin? (pin : fragment.pin? n = some pinned) :
    pinned.source.toList.head? = fragment.source.toList.head? := by
  obtain ⟨before, after, parts, written⟩ := pin?_eq_some_iff.mp pin
  obtain ⟨nonempty, -, whole⟩ := parts?_eq_some_iff.mp parts
  obtain ⟨c, front, rfl⟩ := List.exists_cons_of_ne_nil nonempty
  rw [written, whole]
  rfl

/-- The repetition lies between two character boundaries, one byte apart, and the texts around it are
those before and behind these bytes. -/
theorem isSlice_of_parts? (parts : fragment.parts? = some (before, after)) :
    ∃ offset, fragment.marker? = some offset ∧
      IsSlice fragment.source.toList (0, offset) before ∧
      IsSlice fragment.source.toList (offset, offset + 1) ['+'] ∧
      IsSlice fragment.source.toList (offset + 1, byteWidth fragment.source.toList) after := by
  have whole := toList_of_parts? parts
  have first := isSlice_byteWidth [] before ('+' :: after)
  have sign := isSlice_byteWidth before ['+'] after
  have second := isSlice_byteWidth (before ++ ['+']) after []
  have one : byteWidth ['+'] = 1 := rfl
  simp only [List.nil_append, byteWidth_nil, Nat.zero_add] at first
  simp only [List.append_nil, List.append_assoc, List.cons_append, List.nil_append, byteWidth_append,
    one] at sign second
  refine ⟨byteWidth before, by rw [marker?, parts, Option.map_some], ?_, ?_, ?_⟩
  · rw [whole]
    exact first
  · rw [whole]
    exact sign
  · rw [whole, byteWidth_append, byteWidth_cons, ← Nat.add_assoc]
    exact second

/-! ## Until none is left -/

/-- The fragment is pinned with these counts, one after the other, and then cannot be pinned any more. -/
inductive Exhausts : List Nat → Fragment → Fragment → Prop
  | done {fragment : Fragment} (stuck : ∀ n, fragment.pin? n = none) : Exhausts [] fragment fragment
  | pin {fragment next last : Fragment} {n : Nat} {counts : List Nat}
      (first : fragment.pin? n = some next) (later : Exhausts counts next last) :
      Exhausts (n :: counts) fragment last

/-- The counts in place of the first plus signs. -/
def filled : List Char → List Nat → List Char
  | [], _ => []
  | c :: rest, [] => c :: rest
  | c :: rest, n :: counts =>
    if c = '+' then exactly n ++ filled rest counts else c :: filled rest (n :: counts)

theorem filled_nil (text : List Char) : filled text [] = text := by
  cases text with
  | nil => rfl
  | cons c rest => rfl

theorem filled_append (unsigned : '+' ∉ text) :
    filled (text ++ rest) counts = text ++ filled rest counts := by
  cases counts with
  | nil => rw [filled_nil, filled_nil]
  | cons n counts =>
    induction text with
    | nil => rfl
    | cons c text ih =>
      have other : c ≠ '+' := by
        rintro rfl
        exact unsigned List.mem_cons_self
      have later : '+' ∉ text := fun mem => unsigned (List.mem_cons_of_mem c mem)
      rw [List.cons_append, filled, if_neg other, ih later, List.cons_append]

/-- The first count may be filled in before the others are, or together with them. -/
theorem filled_of_pin? (pin : fragment.pin? n = some pinned) :
    filled pinned.source.toList counts = filled fragment.source.toList (n :: counts) := by
  obtain ⟨before, after, parts, written⟩ := pin?_eq_some_iff.mp pin
  obtain ⟨-, unsigned, whole⟩ := parts?_eq_some_iff.mp parts
  rw [written, whole, filled_append unsigned, filled_append unsigned,
    filled_append (plus_not_mem_exactly n), filled, if_pos rfl]

theorem pluses_eq_zero_iff : fragment.pluses = 0 ↔ '+' ∉ fragment.source.toList :=
  List.count_eq_zero

theorem Exhausts.of_head? (begins : fragment.source.toList.head? = some '+') :
    Exhausts counts fragment last ↔ counts = [] ∧ last = fragment := by
  have stuck := pin?_eq_none_iff.mpr (Or.inl begins)
  constructor
  · intro h
    cases h with
    | done _ => exact ⟨rfl, rfl⟩
    | pin first _ =>
      rw [stuck] at first
      cases first
  · rintro ⟨rfl, rfl⟩
    exact .done stuck

/-- By induction on the counts: each pin takes one of them and one plus sign. -/
theorem exhausts_iff (begins : fragment.source.toList.head? ≠ some '+') :
    Exhausts counts fragment last ↔
      counts.length = fragment.pluses ∧ last.source.toList = filled fragment.source.toList counts := by
  induction counts generalizing fragment with
  | nil =>
    rw [filled_nil, List.length_nil, eq_comm, pluses_eq_zero_iff]
    constructor
    · intro h
      cases h with
      | done stuck => exact ⟨(pin?_eq_none_iff.mp stuck).resolve_left begins, rfl⟩
    · rintro ⟨unsigned, same⟩
      obtain ⟨source⟩ := fragment
      obtain ⟨source'⟩ := last
      cases String.toList_injective same
      exact .done (pin?_eq_none_iff.mpr (Or.inr unsigned))
  | cons n counts ih =>
    rw [List.length_cons]
    constructor
    · intro h
      cases h with
      | pin first later =>
        obtain ⟨all, written⟩ := (ih (by rw [head?_of_pin? first]; exact begins)).mp later
        rw [all, pluses_of_pin? first]
        exact ⟨rfl, written.trans (filled_of_pin? first)⟩
    · rintro ⟨all, written⟩
      have sign : '+' ∈ fragment.source.toList := by
        by_contra unsigned
        rw [pluses_eq_zero_iff.mpr unsigned] at all
        cases all
      have pins : ¬∀ n, fragment.pin? n = none := by
        rw [pin?_eq_none_iff, not_or, not_not]
        exact ⟨begins, sign⟩
      obtain ⟨m, some⟩ := not_forall.mp pins
      have pin : (fragment.pin? n).isSome := by
        rw [isSome_pin?, ← isSome_pin? fragment m]
        exact Option.isSome_iff_ne_none.mpr some
      obtain ⟨next, first⟩ := Option.isSome_iff_exists.mp pin
      have less := pluses_of_pin? first
      refine .pin first ((ih (by rw [head?_of_pin? first]; exact begins)).mpr ⟨by omega, ?_⟩)
      rw [filled_of_pin? first]
      exact written

/-! ## The chain with the counts from zero on -/

theorem exhausts_chain_go {fuel : Nat} (enough : fragment.pluses < fuel) (count : Nat) :
    Exhausts (List.range' count (chain.go fuel count fragment).length) fragment
      ((chain.go fuel count fragment).getLastD fragment) := by
  induction fuel generalizing fragment count with
  | zero => exact absurd enough (Nat.not_lt_zero _)
  | succ fuel ih =>
    rw [chain.go]
    cases pin : fragment.pin? count with
    | none =>
      refine .done fun n => ?_
      rw [← Option.not_isSome_iff_eq_none, isSome_pin?, ← isSome_pin? fragment count, pin]
      exact Bool.false_ne_true
    | some next =>
      have less := pluses_of_pin? pin
      have later := @ih next (by omega) (count + 1)
      rw [List.length_cons, List.range'_succ, List.getLastD_cons]
      exact .pin pin later

/-- A fragment has fewer plus signs than the chain may take steps. -/
theorem exhausts_chain (fragment : Fragment) :
    Exhausts (List.range fragment.chain.length) fragment (fragment.chain.getLastD fragment) := by
  have few : fragment.pluses < fragment.source.length + 1 := by
    have most : fragment.pluses ≤ fragment.source.toList.length := List.count_le_length
    rw [String.length_toList] at most
    omega
  have whole := exhausts_chain_go few 0
  rwa [← List.range_eq_range'] at whole

/-- What one pin does, how often a fragment is pinned and what comes out in the end. -/
theorem pins_until_exhausted (fragment : Fragment) :
    (∀ n pinned, fragment.pin? n = some pinned →
      pinned.pluses + 1 = fragment.pluses ∧ ∃ before after offset,
        '+' ∉ before ∧ fragment.source.toList = before ++ '+' :: after ∧
        pinned.source.toList = before ++ (exactly n ++ after) ∧
        fragment.marker? = some offset ∧
        IsSlice fragment.source.toList (0, offset) before ∧
        IsSlice fragment.source.toList (offset, offset + 1) ['+'] ∧
        IsSlice fragment.source.toList (offset + 1, byteWidth fragment.source.toList) after) ∧
    (fragment.source.toList.head? = some '+' → ∀ counts last,
      Exhausts counts fragment last ↔ counts = [] ∧ last = fragment) ∧
    (fragment.source.toList.head? ≠ some '+' → ∀ counts last, Exhausts counts fragment last ↔
      counts.length = fragment.pluses ∧ last.source.toList = filled fragment.source.toList counts) ∧
    Exhausts (List.range fragment.chain.length) fragment (fragment.chain.getLastD fragment) := by
  refine ⟨fun n pinned pin => ?_, fun begins _ _ => Exhausts.of_head? begins,
    fun begins _ _ => exhausts_iff begins, exhausts_chain fragment⟩
  obtain ⟨before, after, parts, written⟩ := pin?_eq_some_iff.mp pin
  obtain ⟨-, unsigned, whole⟩ := parts?_eq_some_iff.mp parts
  obtain ⟨offset, slices⟩ := isSlice_of_parts? parts
  exact ⟨pluses_of_pin? pin, before, after, offset, unsigned, whole, written, slices⟩

/-- Two plus signs behind a character of four bytes, and a fragment that begins with one. -/
theorem pins_until_exhausted_wide :
    let wide : Fragment := ⟨"𝒫+é+"⟩
    wide.pin? 7 = some ⟨"𝒫\x7b7\x7dé+"⟩ ∧
      (∃ before, wide.marker? = some 4 ∧ IsSlice wide.source.toList (0, 4) before ∧
        IsSlice wide.source.toList (4, 5) ['+']) ∧
      wide.source.toList.head? ≠ some '+' ∧ Exhausts [7, 10] wide ⟨"𝒫\x7b7\x7dé\x7b10\x7d"⟩ ∧
      "+a+".toList.head? = some '+' ∧ Exhausts [] ⟨"+a+"⟩ ⟨"+a+"⟩ := by
  intro wide
  have pin : wide.pin? 7 = some ⟨"𝒫\x7b7\x7dé+"⟩ := by decide
  have marker : wide.marker? = some 4 := by decide
  have other : wide.source.toList.head? ≠ some '+' := by decide
  have begins : "+a+".toList.head? = some '+' := by decide
  obtain ⟨one, -, all, -⟩ := pins_until_exhausted wide
  obtain ⟨-, before, after, offset, -, -, -, marker', first, sign, -⟩ := one 7 _ pin
  obtain rfl : 4 = offset := Option.some.inj (marker.symm.trans marker')
  refine ⟨pin, ⟨before, marker, first, sign⟩, other, (all other _ _).mpr (by decide), begins, ?_⟩
  exact ((pins_until_exhausted ⟨"+a+"⟩).2.1 begins _ _).mpr ⟨rfl, rfl⟩

end PatternSearch.Fragment
