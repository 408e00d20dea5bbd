import Mathlib.Data.List.TakeWhile
import PatternSearch.Pattern.Bracket
import PatternSearch.Proofs.Pattern.Scanning.Escape

/-!
# Brackets with text behind

A set in brackets ends before the text that is written behind. Its members are read with fuel, and
more rounds make up for the longer text.
-/

namespace PatternSearch.Pattern

open Text Unicode

namespace Bracket

theorem isAlpha_of_namedSet? {name : List Char} {s : CharSet} (h : namedSet? name = some s) :
    ∀ c ∈ name, c.isAlpha = true := by
  have letters : ∀ known : String, String.ofList name = known → known.toList.all Char.isAlpha = true →
      ∀ c ∈ name, c.isAlpha = true := by
    rintro _ rfl all
    rwa [String.toList_ofList, List.all_eq_true] at all
  rw [namedSet?] at h
  split at h
  case h_15 => cases h
  all_goals
    next same => exact letters _ same (by decide)

/-- The name of a class does not go on behind what stands apart. -/
theorem className?_of_dropWhile_eq_nil {text tail : List Char} (apart : Apart tail)
    (h : text.dropWhile (· != ':') = []) : className? (text ++ tail) = none := by
  have noColon : ∀ c ∈ text, (c != ':') = true := List.dropWhile_eq_nil_iff.mp h
  rcases apart.cases_head with rfl | ⟨c, rest, rfl, sign⟩
  · rw [className?, List.append_nil, h]
  · have notColon : (c != ':') = true := by rcases sign with rfl | rfl | rfl <;> rfl
    have notLetter : c.isAlpha = false := by rcases sign with rfl | rfl | rfl <;> rfl
    have mem : c ∈ (text ++ c :: rest).takeWhile (· != ':') := by
      rw [List.takeWhile_append_of_pos noColon, List.takeWhile_cons, if_pos notColon]
      exact List.mem_append_right text List.mem_cons_self
    rw [className?]
    split
    · cases known : namedSet? ((text ++ c :: rest).takeWhile (· != ':')) with
      | none => rfl
      | some s =>
        have letter := isAlpha_of_namedSet? known c mem
        rw [notLetter] at letter
        cases letter
    · rfl

theorem className?_append (text : List Char) {tail : List Char} (apart : Apart tail) :
    className? (text ++ tail) = (className? text).map fun (s, rest) => (s, rest ++ tail) := by
  cases dropped : text.dropWhile (· != ':') with
  | nil =>
    rw [className?_of_dropWhile_eq_nil apart dropped, className?, dropped]
    rfl
  | cons colon rest =>
    obtain ⟨dropped', taken⟩ := takeWhile_append_of_cons dropped tail
    simp only [className?]
    rw [dropped', taken, dropped]
    cases rest with
    | nil =>
      split
      · next rest' same =>
        have next := (List.cons.inj same).2
        exact absurd next (apart.ne_cons (by decide) (by decide) (by decide) rest')
      · split
        · next same => cases same
        · rfl
    | cons c rest =>
      by_cases ends : colon = ':' ∧ c = ']'
      · obtain ⟨rfl, rfl⟩ := ends
        simp [Function.comp_def]
      · split
        · next rest' same =>
          cases same
          exact absurd ⟨rfl, rfl⟩ ends
        · split
          · next rest' same =>
            cases same
            exact absurd ⟨rfl, rfl⟩ ends
          · rfl

theorem named?_append (text : List Char) {tail : List Char} (apart : Apart tail) :
    named? (text ++ tail) =
      (named? text).map fun (negated, s, rest) => (negated, s, rest ++ tail) := by
  match text with
  | [] =>
    rcases apart.cases_head with rfl | ⟨c, rest, rfl, rfl | rfl | rfl⟩
    · rfl
    · rfl
    · rfl
    · rfl
  | c :: text =>
    by_cases colon : c = ':'
    · subst colon
      match text with
      | [] =>
        have notCaret := apart.ne_cons (show '^' ≠ '$' by decide) (by decide) (by decide)
        have append := className?_append [] apart
        rw [List.nil_append] at append
        rw [List.cons_append, List.nil_append, named?.eq_2 tail notCaret, append]
        rfl
      | d :: text =>
        by_cases caret : d = '^'
        · subst caret
          simp [named?, className?_append text apart, Function.comp_def]
        · have append := className?_append (d :: text) apart
          rw [List.cons_append] at append
          simp [named?, caret, append, Function.comp_def]
    · simp [named?, colon]

theorem operator?_append (text : List Char) {tail : List Char} (apart : Apart tail) :
    operator? (text ++ tail) = (operator? text).map fun (op, rest) => (op, rest ++ tail) := by
  have other : ∀ c rest, c = '&' ∨ c = '-' ∨ c = '~' → tail ≠ c :: rest := by
    rintro c rest (rfl | rfl | rfl)
    all_goals exact apart.ne_cons (by decide) (by decide) (by decide) rest
  match text with
  | [] =>
    rw [List.nil_append, operator?.eq_4 tail]
    · rfl
    · intro rest same
      exact other _ _ (Or.inl rfl) same
    · intro rest same
      exact other _ _ (Or.inr (Or.inl rfl)) same
    · intro rest same
      exact other _ _ (Or.inr (Or.inr rfl)) same
  | [c] =>
    rw [List.cons_append, List.nil_append, operator?.eq_4 (c :: tail)]
    · rw [operator?]
      all_goals simp
    · intro rest same
      exact other _ _ (Or.inl rfl) (List.cons.inj same).2
    · intro rest same
      exact other _ _ (Or.inr (Or.inl rfl)) (List.cons.inj same).2
    · intro rest same
      exact other _ _ (Or.inr (Or.inr rfl)) (List.cons.inj same).2
  | c :: d :: rest =>
    simp only [List.cons_append]
    simp only [operator?]
    split
    all_goals simp_all
theorem hyphens_of_skip {flags : Flags} {text : List Char} (fuel : Nat)
    (h : ∀ rest, flags.skip text ≠ '-' :: rest) :
    hyphens flags (fuel + 1) text = ([], flags.skip text) := by
  rw [hyphens]
  split
  · next rest same => exact absurd same (h rest)
  · rfl

theorem hyphens_of_skip_cons {flags : Flags} {text rest : List Char} (fuel : Nat)
    (h : flags.skip text = '-' :: rest) : hyphens flags (fuel + 1) text =
      (⟨.single '-', 0⟩ :: (hyphens flags fuel rest).1, (hyphens flags fuel rest).2) := by
  rw [hyphens, h]
  rfl

theorem hyphens_append {flags : Flags} {fuel : Nat} {text rest tail : List Char}
    {items : List Nested} {c : Char} (apart : Apart tail) (more : Nat)
    (h : hyphens flags fuel text = (items, c :: rest)) (le : text.length ≤ fuel) :
    hyphens flags (fuel + more) (text ++ tail) = (items, c :: (rest ++ tail)) := by
  induction fuel generalizing text items with
  | zero =>
    obtain rfl : text = [] := List.length_eq_zero_iff.mp (by omega)
    cases h
  | succ fuel ih =>
    rw [Nat.add_right_comm]
    cases skipped : flags.skip text with
    | nil =>
      rw [hyphens_of_skip fuel (by simp [skipped]), skipped] at h
      cases h
    | cons d inner =>
      have skipped' := Flags.skip_append skipped apart
      by_cases hyphen : d = '-'
      · subst hyphen
        have short := flags.length_skip_le text
        rw [skipped, List.length_cons] at short
        rw [hyphens_of_skip_cons fuel skipped] at h
        obtain ⟨rfl, left⟩ := Prod.mk.inj h
        have later := @ih inner _ (Prod.ext rfl left) (by omega)
        rw [hyphens_of_skip_cons (fuel + more) skipped', later]
      · rw [hyphens_of_skip fuel (by simp [skipped, hyphen]), skipped] at h
        cases h
        rw [hyphens_of_skip (fuel + more) (by simp [skipped', hyphen]), skipped']

theorem first_nil (flags : Flags) : first flags [] = ([], []) := rfl

theorem first_append {flags : Flags} {text rest tail : List Char} {items : List Nested}
    (h : first flags text = (items, rest)) (some : rest ≠ []) (apart : Apart tail) :
    first flags (text ++ tail) = (items, rest ++ tail) := by
  rw [first] at h
  rw [first, List.length_append]
  split at h
  · next inner found =>
    cases h
    rw [hyphens_append apart tail.length found (Nat.le_refl _)]
    rfl
  · next plain =>
    cases rest with
    | nil => exact absurd rfl some
    | cons c rest =>
      rw [hyphens_append apart tail.length h (Nat.le_refl _)]
      split
      · next same =>
        cases same
        exact absurd h (plain rest)
      · rfl

theorem opening_append {flags : Flags} {text rest tail : List Char} {negated : Bool}
    {items : List Nested} (h : opening flags text = (negated, items, rest)) (some : rest ≠ [])
    (apart : Apart tail) : opening flags (text ++ tail) = (negated, items, rest ++ tail) := by
  rw [opening] at h
  rw [opening]
  split at h
  · next inner skipped =>
    obtain ⟨rfl, found⟩ := Prod.mk.inj h
    rw [Flags.skip_append skipped apart]
    exact congrArg (Prod.mk true) (first_append found some apart)
  · next plain =>
    obtain ⟨rfl, found⟩ := Prod.mk.inj h
    cases skipped : flags.skip text with
    | nil =>
      rw [skipped, first_nil] at found
      cases found
      exact absurd rfl some
    | cons c inner =>
      rw [skipped] at found plain
      have other : c ≠ '^' := fun caret => plain inner (by rw [caret])
      have found' := first_append found some apart
      rw [List.cons_append] at found'
      rw [Flags.skip_append skipped apart]
      split
      · next same =>
        cases same
        exact absurd rfl other
      · rw [found']

theorem local_unit? (flags : Flags) : Local (unit? flags) := by
  intro text atom rest h tail apart
  cases text with
  | nil => cases h
  | cons c text =>
    rw [unit?] at h
    rw [List.cons_append, unit?]
    split at h
    · next backslash =>
      rw [if_pos backslash]
      exact Escape.local_read? flags h apart
    · next plain =>
      cases h
      rw [if_neg plain]

theorem head?_append_apart {text tail : List Char} {c : Char} (apart : Apart tail)
    (other : ∀ rest, tail ≠ c :: rest) : (text ++ tail).head? = some c ↔ text.head? = some c := by
  cases text with
  | nil =>
    cases tail with
    | nil => rfl
    | cons d rest =>
      have different : d ≠ c := fun same => other rest (by rw [same])
      simp [different]
  | cons d text => simp

theorem peek_append {flags : Flags} {text tail : List Char} {c : Char} (apart : Apart tail)
    (other : ∀ rest, tail ≠ c :: rest) (notBlank : isBlank c = false) (notSign : c ≠ '#') :
    peek flags (text ++ tail) = some c ↔ peek flags text = some c := by
  have next : ∀ u : List Char, (u ++ tail).head? = some c ↔ u.head? = some c :=
    fun u => head?_append_apart apart other
  have blanks : text.head? = some c → text.dropWhile isBlank = text :=
    fun h => dropWhile_isBlank_of_head? h notBlank
  have only : ∀ x y : Option Char, y ≠ some c → (x.or y = some c ↔ x = some c) := by
    intro x y no
    cases x with
    | none => simp [no]
    | some d => simp
  simp only [peek]
  split
  · rw [dropWhile_isBlank_append text apart]
    cases dropped : text.dropWhile isBlank with
    | nil =>
      have none' : text.head? ≠ some c := by
        intro h
        rw [← blanks h, dropped] at h
        cases h
      have none'' : (text ++ tail).head? ≠ some c := fun h => none' ((next text).mp h)
      have notComment : ∀ rest, tail ≠ '#' :: rest :=
        apart.ne_cons (by decide) (by decide) (by decide)
      rw [List.nil_append]
      split
      · next rest => exact absurd rfl (notComment rest)
      · rw [only _ _ none'', only _ _ none']
        exact next []
    | cons d rest =>
      by_cases sign : d = '#'
      · subst sign
        have none' : text.head? ≠ some c := by
          intro h
          rw [← blanks h, dropped] at h
          exact notSign (by simpa using h.symm)
        have none'' : (text ++ tail).head? ≠ some c := fun h => none' ((next text).mp h)
        simp only [List.cons_append, dropWhile_isBlank_append _ apart]
        rw [only _ _ none'', only _ _ none']
        exact next _
      · simp [sign]
  · exact next text

theorem isSpan_append (flags : Flags) (text : List Char) {tail : List Char} (apart : Apart tail)
    (c : Char) :
    (c != '-' || peek flags (text ++ tail) == some ']' || peek flags (text ++ tail) == some '-') =
      (c != '-' || peek flags text == some ']' || peek flags text == some '-') := by
  have closing : (peek flags (text ++ tail) == some ']') = (peek flags text == some ']') := by
    rw [Bool.eq_iff_iff, beq_iff_eq, beq_iff_eq]
    exact peek_append apart (apart.ne_cons (by decide) (by decide) (by decide)) (by decide)
      (by decide)
  have hyphen : (peek flags (text ++ tail) == some '-') = (peek flags text == some '-') := by
    rw [Bool.eq_iff_iff, beq_iff_eq, beq_iff_eq]
    exact peek_append apart (apart.ne_cons (by decide) (by decide) (by decide)) (by decide)
      (by decide)
  rw [closing, hyphen]

theorem local_range? (flags : Flags) : Local (range? flags) := by
  intro text s rest h tail apart
  obtain ⟨⟨first, more⟩, read, h⟩ := Option.bind_eq_some_iff.mp h
  simp only at h
  split at h
  · cases h
  · next c after skipped =>
    have skipped' := Flags.skip_append skipped apart
    split at h
    · next single =>
      obtain ⟨found, known, same⟩ := Option.bind_eq_some_iff.mp h
      cases same
      rw [← isSpan_append flags after apart] at single
      simp only [range?, local_unit? flags read apart, Option.bind_eq_bind, Option.bind_some,
        skipped', single, if_true, known]
      rfl
    · next span =>
      obtain ⟨⟨last, rest'⟩, read', h⟩ := Option.bind_eq_some_iff.mp h
      obtain ⟨lo, low, h⟩ := Option.bind_eq_some_iff.mp h
      obtain ⟨hi, high, h⟩ := Option.bind_eq_some_iff.mp h
      split at h
      · next ordered =>
        cases h
        rw [← isSpan_append flags after apart] at span
        cases after' : flags.skip after with
        | nil =>
          rw [after'] at read'
          cases read'
        | cons d others =>
          rw [after'] at read'
          have later := local_unit? flags read' apart
          rw [List.cons_append] at later
          simp only [range?, local_unit? flags read apart, Option.bind_eq_bind, Option.bind_some,
            skipped', span, Flags.skip_append after' apart, later, low, high, ordered, if_true]
          rfl
      · cases h

theorem members_nil {flags : Flags} (fuel : Nat) (pending : Pending) (items : List Nested) :
    members flags fuel pending items [] = none := by
  cases fuel with
  | zero => rfl
  | succ fuel => simp [members]

section Members

variable {flags : Flags} {text rest : List Char} (fuel : Nat) (pending : Pending)
  (items : List Nested)

theorem members_of_closing (h : flags.skip text = ']' :: rest) :
    members flags (fuel + 1) pending items text =
      some (combine flags pending (gather items), rest) := by
  rw [members, h]
  rfl

theorem members_of_named {rest' : List Char} {negated : Bool} {s : CharSet}
    (h : flags.skip text = '[' :: rest) (named : named? rest = some (negated, s, rest')) :
    members flags (fuel + 1) pending items text =
      (flags.turn? negated (flags.closeCase s)).bind fun s =>
        members flags fuel pending (⟨s, 0⟩ :: items) rest' := by
  rw [members, h]
  simp only [named]
  rfl

theorem members_of_nested {rest' : List Char} {negated : Bool} {first : List Nested}
    (h : flags.skip text = '[' :: rest) (unnamed : named? rest = none)
    (opened : opening flags rest = (negated, first, rest')) :
    members flags (fuel + 1) pending items text =
      (members flags fuel none first rest').bind fun (inner, rest) =>
        (close? flags negated inner).bind fun inner =>
          members flags fuel pending (inner :: items) rest := by
  rw [members, h]
  simp only [unnamed, opened]
  rfl

theorem members_of_operator {c : Char} {rest' : List Char} {op : Operator}
    (h : flags.skip text = c :: rest) (notClosing : c ≠ ']') (notOpening : c ≠ '[')
    (combined : operator? (c :: rest) = some (op, rest')) :
    members flags (fuel + 1) pending items text =
      members flags fuel (some (op, combine flags pending (gather items))) [] rest' := by
  rw [members, h]
  simp [notClosing, notOpening, combined]

theorem members_of_range {c : Char} (h : flags.skip text = c :: rest) (notClosing : c ≠ ']')
    (notOpening : c ≠ '[') (single : operator? (c :: rest) = none) :
    members flags (fuel + 1) pending items text =
      (range? flags (c :: rest)).bind fun (s, rest) =>
        members flags fuel pending (⟨s, 0⟩ :: items) rest := by
  rw [members, h]
  simp [notClosing, notOpening, single]

end Members

/-- More rounds of fuel make up for the longer text. -/
theorem members_append {flags : Flags} {fuel : Nat} {pending : Pending} {items : List Nested}
    {text rest tail : List Char} {found : Nested} (apart : Apart tail) (more : Nat)
    (h : members flags fuel pending items text = some (found, rest)) :
    members flags (fuel + more) pending items (text ++ tail) = some (found, rest ++ tail) := by
  induction fuel generalizing pending items text found rest with
  | zero => cases h
  | succ fuel ih =>
    rw [Nat.add_right_comm]
    cases skipped : flags.skip text with
    | nil =>
      rw [members, skipped] at h
      cases h
    | cons c inner =>
      have skipped' := Flags.skip_append skipped apart
      by_cases closing : c = ']'
      · subst closing
        rw [members_of_closing fuel pending items skipped] at h
        cases h
        exact members_of_closing (fuel + more) pending items skipped'
      by_cases bracket : c = '['
      · subst bracket
        have append := named?_append inner apart
        cases named : named? inner with
        | some found' =>
          obtain ⟨negated, s, after⟩ := found'
          rw [named] at append
          rw [members_of_named fuel pending items skipped named] at h
          obtain ⟨turned, known, later⟩ := Option.bind_eq_some_iff.mp h
          rw [members_of_named (fuel + more) pending items skipped' append, known, Option.bind_some]
          exact ih later
        | none =>
          rw [named] at append
          cases opened : opening flags inner with
          | mk negated found' =>
            obtain ⟨first, after⟩ := found'
            rw [members_of_nested fuel pending items skipped named opened] at h
            obtain ⟨⟨nested, after'⟩, read, h⟩ := Option.bind_eq_some_iff.mp h
            obtain ⟨closed, known, later⟩ := Option.bind_eq_some_iff.mp h
            have some : after ≠ [] := by
              rintro rfl
              rw [members_nil] at read
              cases read
            rw [members_of_nested (fuel + more) pending items skipped' append
              (opening_append opened some apart), ih read]
            simp only [Option.bind_some, known]
            exact ih later
      · have append := operator?_append (c :: inner) apart
        rw [List.cons_append] at append
        cases combined : operator? (c :: inner) with
        | some found' =>
          obtain ⟨op, after⟩ := found'
          rw [combined] at append
          rw [members_of_operator fuel pending items skipped closing bracket combined] at h
          rw [members_of_operator (fuel + more) pending items skipped' closing bracket append]
          exact ih h
        | none =>
          rw [combined] at append
          rw [members_of_range fuel pending items skipped closing bracket combined] at h
          obtain ⟨⟨s, after⟩, read, later⟩ := Option.bind_eq_some_iff.mp h
          have read' := local_range? flags read apart
          rw [List.cons_append] at read'
          rw [members_of_range (fuel + more) pending items skipped' closing bracket append, read',
            Option.bind_some]
          exact ih later

theorem local_read? (flags : Flags) : Local (read? flags) := by
  intro text found rest h tail apart
  rw [read?] at h
  cases opened : opening flags text with
  | mk negated found' =>
    obtain ⟨first, after⟩ := found'
    rw [opened] at h
    obtain ⟨⟨inner, after'⟩, read, h⟩ := Option.bind_eq_some_iff.mp h
    obtain ⟨closed, known, same⟩ := Option.bind_eq_some_iff.mp h
    cases same
    have some : after ≠ [] := by
      rintro rfl
      rw [members_nil] at read
      cases read
    rw [read?, opening_append opened some apart, List.length_append, Nat.add_right_comm]
    simp only [members_append apart tail.length read, Option.bind_eq_bind, Option.bind_some, known]
    rfl

end Bracket

end PatternSearch.Pattern
