import PatternSearch.Pattern.Flags
import PatternSearch.Proofs.Text.Digits

/-!
# Text behind

More text is written behind the text of a pattern: a dollar sign, or something that repeats. It
cannot go on with what is read before it, so it is left to read, unless a comment takes it in up to
the end of the line.
-/

namespace PatternSearch.Pattern

open Text

/-- Text that cannot go on with what stands before it: no text at all, or one that begins with a
dollar sign, a plus sign or a count in braces. -/
inductive Apart : List Char → Prop
  | nothing : Apart []
  | dollar (rest : List Char) : Apart ('$' :: rest)
  | plus (rest : List Char) : Apart ('+' :: rest)
  | count {digit : Char} (rest : List Char) (decimal : isDecimal digit = true) :
    Apart ('{' :: digit :: rest)

/-- The character that it begins with, if any. -/
theorem Apart.cases_head {tail : List Char} (h : Apart tail) :
    tail = [] ∨ ∃ c rest, tail = c :: rest ∧ (c = '$' ∨ c = '+' ∨ c = '{') := by
  cases h with
  | nothing => exact Or.inl rfl
  | dollar rest => exact Or.inr ⟨_, rest, rfl, Or.inl rfl⟩
  | plus rest => exact Or.inr ⟨_, rest, rfl, Or.inr (Or.inl rfl)⟩
  | count rest decimal => exact Or.inr ⟨_, _, rfl, Or.inr (Or.inr rfl)⟩

/-- Every other character is none that it begins with. -/
theorem Apart.ne_cons {tail : List Char} (h : Apart tail) {c : Char} (notDollar : c ≠ '$')
    (notPlus : c ≠ '+') (notBrace : c ≠ '{') (rest : List Char) : tail ≠ c :: rest := by
  rintro rfl
  cases h with
  | dollar => exact notDollar rfl
  | plus => exact notPlus rfl
  | count => exact notBrace rfl

/-- A reader whose result stays the same when such text is written behind. -/
def Local {α : Type} (read : List Char → Option (α × List Char)) : Prop :=
  ∀ {text x rest}, read text = some (x, rest) → ∀ {tail}, Apart tail →
    read (text ++ tail) = some (x, rest ++ tail)

/-- A comment is open at the end of the text, so that what is written behind counts from the end of
its line. -/
def InComment {α : Type} (read : List Char → α) (text : List Char) : Prop :=
  ∀ {tail tail'}, Apart tail → Apart tail' → Flags.dropSpace true tail = Flags.dropSpace true tail' →
    read (text ++ tail) = read (text ++ tail')

theorem InComment.comp {α β : Type} {read : List Char → α} {text : List Char}
    (h : InComment read text) (f : α → β) : InComment (fun text => f (read text)) text := by
  intro tail tail' apart apart' same
  exact congrArg f (h apart apart' same)

namespace Flags

theorem dropSpace_apart {tail : List Char} (apart : Apart tail) : dropSpace false tail = tail := by
  rcases apart.cases_head with rfl | ⟨c, rest, rfl, rfl | rfl | rfl⟩
  · rfl
  · rfl
  · rfl
  · rfl

/-- Behind what is left, text is left; behind an open comment it goes on in the comment. -/
theorem dropSpace_append (inComment : Bool) (text : List Char) :
    (∀ {tail}, Apart tail →
      dropSpace inComment (text ++ tail) = dropSpace inComment text ++ tail) ∨
    dropSpace inComment text = [] ∧
      ∀ tail, dropSpace inComment (text ++ tail) = dropSpace true tail := by
  induction text generalizing inComment with
  | nil =>
    cases inComment with
    | true => exact Or.inr ⟨rfl, fun _ => rfl⟩
    | false => exact Or.inl dropSpace_apart
  | cons c rest ih =>
    cases inComment with
    | true => exact ih _
    | false =>
      simp only [dropSpace, List.cons_append]
      split
      · exact ih false
      · split
        · exact ih true
        · exact Or.inl fun _ => rfl

theorem dropSpace_dropSpace (inComment : Bool) (text : List Char) :
    dropSpace false (dropSpace inComment text) = dropSpace inComment text := by
  induction text generalizing inComment with
  | nil => cases inComment <;> rfl
  | cons c rest ih =>
    cases inComment with
    | true => exact ih _
    | false =>
      by_cases blank : isBlank c = true
      · simp only [dropSpace, blank, if_true]
        exact ih false
      · by_cases mark : c = '#'
        · subst mark
          exact ih true
        · simp [dropSpace, blank, mark]

/-- Nothing is left to skip. -/
theorem skip_skip (flags : Flags) (text : List Char) :
    flags.skip (flags.skip text) = flags.skip text := by
  by_cases spaced : flags.spaced = true
  · simp only [skip, spaced, if_true]
    exact dropSpace_dropSpace false text
  · simp [skip, spaced]

theorem skip_append_or (flags : Flags) (text : List Char) :
    (∀ {tail}, Apart tail → flags.skip (text ++ tail) = flags.skip text ++ tail) ∨
      flags.skip text = [] ∧ InComment flags.skip text := by
  unfold InComment skip
  split
  · rcases dropSpace_append false text with behind | ⟨nothing, taken⟩
    · exact Or.inl behind
    · refine Or.inr ⟨nothing, ?_⟩
      intro tail tail' _ _ same
      rw [taken, taken, same]
  · exact Or.inl fun _ => rfl

theorem skip_append {flags : Flags} {text rest tail : List Char} {c : Char}
    (h : flags.skip text = c :: rest) (apart : Apart tail) :
    flags.skip (text ++ tail) = c :: (rest ++ tail) := by
  rcases flags.skip_append_or text with behind | ⟨nothing, -⟩
  · rw [behind apart, h, List.cons_append]
  · rw [nothing] at h
    cases h

theorem skip_apart (flags : Flags) {tail : List Char} (apart : Apart tail) :
    flags.skip tail = tail := by
  rw [skip]
  split
  · exact dropSpace_apart apart
  · rfl

theorem skip_cons (flags : Flags) {c : Char} (notBlank : isBlank c = false) (notMark : c ≠ '#')
    (rest : List Char) : flags.skip (c :: rest) = c :: rest := by
  rw [skip, dropSpace, notBlank, if_neg notMark]
  simp

theorem skip_of_isDecimal (flags : Flags) {digit : Char} (decimal : isDecimal digit = true)
    (rest : List Char) : flags.skip (digit :: rest) = digit :: rest :=
  flags.skip_cons (isBlank_of_isDecimal decimal)
    (ne_of_isDecimal decimal (show isDecimal '#' = false by decide)) rest

@[simp] theorem skip_nil (flags : Flags) : flags.skip [] = [] := flags.skip_apart .nothing

end Flags

theorem Flags.length_dropSpace_le (inComment : Bool) (text : List Char) :
    (dropSpace inComment text).length ≤ text.length := by
  induction text generalizing inComment with
  | nil => cases inComment <;> exact Nat.le_refl 0
  | cons c rest ih =>
    cases inComment with
    | true => exact Nat.le_succ_of_le (ih _)
    | false =>
      rw [dropSpace]
      split
      · exact Nat.le_succ_of_le (ih false)
      · split
        · exact Nat.le_succ_of_le (ih true)
        · exact Nat.le_refl _

theorem Flags.length_skip_le (flags : Flags) (text : List Char) :
    (flags.skip text).length ≤ text.length := by
  rw [skip]
  split
  · exact length_dropSpace_le false text
  · exact Nat.le_refl _

/-- A part that ends at a mark ends there with more text behind as well. -/
theorem takeWhile_append_of_cons {mark c : Char} {text rest : List Char}
    (h : text.dropWhile (· != mark) = c :: rest) (tail : List Char) :
    (text ++ tail).dropWhile (· != mark) = c :: (rest ++ tail) ∧
      (text ++ tail).takeWhile (· != mark) = text.takeWhile (· != mark) := by
  induction text with
  | nil => cases h
  | cons d text ih =>
    by_cases found : d = mark
    · subst found
      simp only [List.dropWhile_cons, bne_self_eq_false, Bool.false_eq_true, if_false] at h
      cases h
      simp
    · simp only [List.dropWhile_cons, bne_iff_ne, ne_eq, found, not_false_eq_true, if_true] at h
      simp [found, ih h]

theorem dropWhile_isBlank_append (text : List Char) {tail : List Char} (apart : Apart tail) :
    (text ++ tail).dropWhile isBlank = text.dropWhile isBlank ++ tail := by
  induction text with
  | nil =>
    rcases apart.cases_head with rfl | ⟨c, rest, rfl, rfl | rfl | rfl⟩
    · rfl
    · rfl
    · rfl
    · rfl
  | cons c text ih =>
    by_cases blank : isBlank c = true
    · simpa [blank] using ih
    · simp [blank]

/-- The next character counts where blanks are skipped, and it is none of them. -/
theorem dropWhile_isBlank_of_head? {text : List Char} {c : Char} (h : text.head? = some c)
    (notBlank : isBlank c = false) : text.dropWhile isBlank = text := by
  cases text with
  | nil => cases h
  | cons d text =>
    obtain rfl : d = c := by simpa using h
    simp [notBlank]

end PatternSearch.Pattern
