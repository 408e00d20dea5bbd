import PatternSearch.Pattern.Escape
import PatternSearch.Proofs.Pattern.Scanning.Behind

/-!
# Escapes with text behind

An escape is read in the same way if more text is written behind. A count in braces does not go on
with the escape of a word edge, whose own braces hold letters.
-/

namespace PatternSearch.Pattern

open Text

namespace Escape

theorem local_braced (spaced inComment : Bool) : Local (braced spaced inComment) := by
  intro text
  induction text generalizing inComment with
  | nil => intro name rest h; cases inComment <;> cases h
  | cons c text ih =>
    intro name rest h tail apart
    cases inComment with
    | true => exact ih _ h apart
    | false =>
      simp only [braced, List.cons_append] at h ⊢
      split at h
      · cases h
        simp [*]
      · split at h
        · simp [*, ih false h apart]
        · split at h
          · simp [*, ih true h apart]
          · obtain ⟨⟨name', rest'⟩, read, same⟩ := Option.map_eq_some_iff.mp h
            cases same
            simp [*, ih false read apart]

theorem local_fixed (flags : Flags) (n : Nat) : Local (fixed flags n) := by
  intro text
  induction n generalizing text with
  | zero =>
    intro digits rest h tail apart
    cases h
    rfl
  | succ n ih =>
    intro digits rest h tail apart
    rw [fixed] at h
    split at h
    · cases h
    · next c more skipped =>
      obtain ⟨⟨digits', rest'⟩, read, same⟩ := Option.map_eq_some_iff.mp h
      cases same
      simp [fixed, Flags.skip_append skipped apart, ih read apart]

theorem fixed_nil {flags : Flags} {n : Nat} {digits rest : List Char}
    (h : fixed flags n [] = some (digits, rest)) : digits = [] := by
  cases n with
  | zero =>
    cases h
    rfl
  | succ n => simp [fixed] at h

theorem local_numbered (flags : Flags) (width : Nat) : Local (numbered flags width) := by
  intro text atom rest h tail apart
  rw [numbered] at h
  split at h
  · next inner skipped =>
    obtain ⟨⟨digits, more⟩, read, h⟩ := Option.bind_eq_some_iff.mp h
    obtain ⟨c, numbers, same⟩ := Option.bind_eq_some_iff.mp h
    cases same
    simp [numbered, Flags.skip_append skipped apart, local_braced _ _ read apart, numbers]
  · next notBrace =>
    obtain ⟨⟨digits, more⟩, read, h⟩ := Option.bind_eq_some_iff.mp h
    obtain ⟨c, numbers, same⟩ := Option.bind_eq_some_iff.mp h
    cases same
    cases skipped : flags.skip text with
    | nil =>
      rw [skipped] at read
      simp [character?, fixed_nil read] at numbers
    | cons first others =>
      rw [skipped] at read notBrace
      have other : first ≠ '{' := fun brace => notBrace others (by rw [brace])
      have read' := local_fixed flags width read apart
      rw [List.cons_append] at read'
      simp [numbered, Flags.skip_append skipped apart, other, read', numbers]

theorem local_propertyName (flags : Flags) : Local (propertyName flags) := by
  intro text name rest h tail apart
  rw [propertyName] at h
  split at h
  · cases h
  · next c others skipped =>
    split at h
    · next brace =>
      simp [propertyName, Flags.skip_append skipped apart, brace, local_braced _ _ h apart]
    · next notBrace =>
      split at h
      · cases h
      · next notBackslash =>
        cases h
        simp [propertyName, Flags.skip_append skipped apart, notBrace, notBackslash]

theorem local_property (flags : Flags) (negated : Bool) : Local (property flags negated) := by
  intro text atom rest h tail apart
  obtain ⟨⟨name, more⟩, read, h⟩ := Option.bind_eq_some_iff.mp h
  obtain ⟨s, found, same⟩ := Option.bind_eq_some_iff.mp h
  cases same
  simp [property, local_propertyName flags read apart, found]

theorem local_edgeName (flags : Flags) : Local (edgeName flags) := by
  intro text name rest h tail apart
  obtain ⟨⟨name', more⟩, read, h⟩ := Option.bind_eq_some_iff.mp h
  simp only at h
  split at h
  · next letters =>
    cases h
    simp only [edgeName, local_braced _ _ read apart, Option.bind_eq_bind, Option.bind_some]
    rw [if_pos letters]
    rfl
  · cases h

/-- What stands apart begins no name of an edge. -/
theorem edge_apart (flags : Flags) {tail : List Char} (apart : Apart tail) :
    edge flags tail = some (.look (.wordEdge (!flags.unicode)), tail) := by
  cases apart with
  | nothing => rfl
  | dollar rest => rfl
  | plus rest => rfl
  | @count digit rest decimal =>
    have notLetter : (digit.isAlpha || digit = '-') = false := by
      rw [isAlpha_of_isDecimal decimal, Bool.false_or, decide_eq_false_iff_not]
      exact ne_of_isDecimal decimal (by decide)
    simp only [edge, Flags.skip_of_isDecimal flags decimal]
    rw [if_neg (by rw [notLetter]; decide)]

theorem local_edge (flags : Flags) : Local (edge flags) := by
  intro text atom rest h tail apart
  cases text with
  | nil =>
    cases h
    exact edge_apart flags apart
  | cons first text =>
    unfold edge at h
    simp only at h
    split at h
    · next inner same =>
      cases same
      split at h
      · cases h
      · next c others skipped =>
        have skipped' := Flags.skip_append skipped apart
        split at h
        · next letter =>
          obtain ⟨⟨name, more⟩, read, h⟩ := Option.bind_eq_some_iff.mp h
          obtain ⟨look, known, same⟩ := Option.bind_eq_some_iff.mp h
          cases same
          simp [edge, skipped', letter, local_edgeName flags read apart, known]
        · next notLetter =>
          cases h
          simp [edge, skipped', notLetter]
    · next notBrace =>
      cases h
      have other : first ≠ '{' := fun brace => notBrace text (by rw [brace])
      simp [edge, other]

theorem local_read? (flags : Flags) : Local (read? flags) := by
  intro text atom rest h tail apart
  cases text with
  | nil => cases h
  | cons c text =>
    simp only [List.cons_append, read?] at h ⊢
    split at h
    · exact local_numbered flags 2 h apart
    · exact local_numbered flags 4 h apart
    · exact local_numbered flags 8 h apart
    · exact local_property flags false h apart
    · exact local_property flags true h apart
    · exact local_edge flags h apart
    · obtain ⟨short, known, same⟩ := Option.map_eq_some_iff.mp h
      cases same
      simp [known]

end Escape

end PatternSearch.Pattern
