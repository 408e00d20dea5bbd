import PatternSearch.Document.Skip

/-!
# Texts are read back

A character is written as it is, by a short escape, or by its UTF-16 unit; each is read back and
skipped. So a text is read back from what is written for it, and skipped.
-/

namespace PatternSearch.Document

open Text

/-- The result is `a`, with a cursor before `rest`. -/
def Gives {α : Type} (result : Except Fault (α × Cursor)) (a : α) (rest : List Char) : Prop :=
  ∃ offset, result = .ok (a, ⟨rest, offset⟩)

/-- The result is a cursor before `rest`. -/
def Leaves (result : Except Fault Cursor) (rest : List Char) : Prop :=
  ∃ offset, result = .ok ⟨rest, offset⟩

theorem Gives.map {α β : Type} {result : Except Fault (α × Cursor)} {a : α} {rest : List Char}
    (h : Gives result a rest) (f : α → β) :
    Gives (result.map fun (a, cursor) => (f a, cursor)) (f a) rest := by
  obtain ⟨offset, rfl⟩ := h
  exact ⟨offset, rfl⟩

theorem Gives.bind {α β : Type} {result : Except Fault (α × Cursor)} {a : α} {b : β}
    {rest rest' : List Char} {next : α × Cursor → Except Fault (β × Cursor)}
    (h : Gives result a rest) (more : ∀ offset, Gives (next (a, ⟨rest, offset⟩)) b rest') :
    Gives (result >>= next) b rest' := by
  obtain ⟨offset, rfl⟩ := h
  exact more offset

theorem Leaves.bind {β : Type} {result : Except Fault Cursor} {b : β} {rest rest' : List Char}
    {next : Cursor → Except Fault (β × Cursor)} (h : Leaves result rest)
    (more : ∀ offset, Gives (next ⟨rest, offset⟩) b rest') : Gives (result >>= next) b rest' := by
  obtain ⟨offset, rfl⟩ := h
  exact more offset

/-- What may be written for a character. -/
inductive Escape (c : Char) : List Char → Prop
  | short {e : Char} (code : shortEscape? e = some c) (other : e ≠ 'u') : Escape c ['\\', e]
  | unit {x₁ x₂ x₃ x₄ : Char} (code : hexNumber? [x₁, x₂, x₃, x₄] = some c.toNat)
      (control : c.toNat < 0x20) : Escape c ['\\', 'u', x₁, x₂, x₃, x₄]
  | plain (quote : c ≠ '"') (backslash : c ≠ '\\') (visible : ¬c.toNat < 0x20) : Escape c [c]

/-- The first of the four digits are zeros. -/
theorem hexNumber?_control {n : Nat} (control : n < 0x20) : ∃ x₁ x₂ x₃ x₄ : Char,
    hexNumber? [x₁, x₂, x₃, x₄] = some n ∧
    (if n < 0x10 then ['\\', 'u', '0', '0', '0'] ++ lowerHex n
      else ['\\', 'u', '0', '0'] ++ lowerHex n) = ['\\', 'u', x₁, x₂, x₃, x₄] := by
  refine ⟨'0', '0', Nat.digitChar (n / 16), Nat.digitChar (n % 16), ?_⟩
  revert n
  decide

theorem escape_escaped (c : Char) : Escape c (escaped c) := by
  unfold escaped
  split
  case h_8 quote backslash _ _ _ _ _ =>
    by_cases control : c.toNat < 0x20
    · obtain ⟨x₁, x₂, x₃, x₄, code, same⟩ := hexNumber?_control control
      rw [if_pos control, same]
      exact .unit code control
    · rw [if_neg (by omega), if_neg control]
      exact .plain quote backslash control
  all_goals exact .short rfl (by decide)

namespace Escape

variable {c : Char} {code : List Char}

theorem ne_nil (h : Escape c code) : code ≠ [] := by
  cases h <;> exact List.cons_ne_nil _ _

theorem gives_textChar (h : Escape c code) (rest : List Char) (offset : Nat) :
    Gives (textChar ⟨code ++ rest, offset⟩) (some c) rest := by
  cases h with
  | @short e code other =>
    refine ⟨offset + '\\'.utf8Size + e.utf8Size, ?_⟩
    simp [textChar, escape, Cursor.past, other, code, Except.map]
  | unit code control =>
    have low : ¬0xDC00 ≤ c.toNat ∧ c.toNat < 0xD800 := by omega
    refine ⟨offset + '\\'.utf8Size + 'u'.utf8Size + 4, ?_⟩
    simp [textChar, escape, unitEscape, fourHex, Cursor.past, code, Except.map, low,
      bind, Except.bind, pure, Except.pure]
  | plain quote backslash visible =>
    refine ⟨offset + c.utf8Size, ?_⟩
    simp [textChar, Cursor.past, quote, backslash, visible]

/-- A character that is skipped takes one step. -/
theorem exists_skipTextFrom_eq (h : Escape c code) (fuel : Nat) (rest : List Char) (offset : Nat) :
    ∃ offset', skipTextFrom (fuel + 1) ⟨code ++ rest, offset⟩ =
      skipTextFrom fuel ⟨rest, offset'⟩ := by
  cases h with
  | @short e code other =>
    refine ⟨offset + '\\'.utf8Size + e.utf8Size, ?_⟩
    simp [skipTextFrom, skipEscape, Cursor.past, other, code, Except.bind]
  | unit code control =>
    refine ⟨offset + '\\'.utf8Size + 'u'.utf8Size + 4, ?_⟩
    simp [skipTextFrom, skipEscape, fourHex, Cursor.past, code, Except.map, Except.bind]
  | plain quote backslash visible =>
    refine ⟨offset + c.utf8Size, ?_⟩
    simp [skipTextFrom, Cursor.past, quote, backslash, visible]

end Escape

/-- There is enough fuel to read a text: each character is written with one at least. -/
theorem length_lt_escaped (text rest : List Char) :
    text.length < (text.flatMap escaped ++ rest).length + 1 := by
  induction text with
  | nil => exact Nat.succ_pos _
  | cons c text ih =>
    have some := List.length_pos_iff.mpr (escape_escaped c).ne_nil
    simp only [List.flatMap_cons, List.length_append, List.length_cons] at ih ⊢
    omega

theorem gives_textFrom (text rest : List Char) {fuel : Nat} (enough : text.length < fuel)
    (offset : Nat) : Gives (textFrom fuel ⟨text.flatMap escaped ++ '"' :: rest, offset⟩) text rest := by
  induction text generalizing fuel offset with
  | nil =>
    obtain ⟨fuel, rfl⟩ := Nat.exists_eq_succ_of_ne_zero (Nat.ne_zero_of_lt enough)
    exact ⟨_, rfl⟩
  | cons c text ih =>
    obtain ⟨fuel, rfl⟩ := Nat.exists_eq_succ_of_ne_zero (Nat.ne_zero_of_lt enough)
    simp only [List.flatMap_cons, List.append_assoc, textFrom]
    refine ((escape_escaped c).gives_textChar _ offset).bind fun behind => ?_
    exact (ih (Nat.lt_of_succ_lt_succ enough) behind).bind fun last => ⟨last, rfl⟩

/-- A text is read back, whatever stands behind it. -/
theorem gives_readText (s : String) (rest : List Char) (offset : Nat) :
    Gives (readText ⟨s.toList.flatMap escaped ++ '"' :: rest, offset⟩) s rest := by
  have read := gives_textFrom s.toList rest (length_lt_escaped s.toList ('"' :: rest)) offset
  have made := read.map String.ofList
  rwa [String.ofList_toList] at made

theorem leaves_skipTextFrom (text rest : List Char) {fuel : Nat} (enough : text.length < fuel)
    (offset : Nat) :
    Leaves (skipTextFrom fuel ⟨text.flatMap escaped ++ '"' :: rest, offset⟩) rest := by
  induction text generalizing fuel offset with
  | nil =>
    obtain ⟨fuel, rfl⟩ := Nat.exists_eq_succ_of_ne_zero (Nat.ne_zero_of_lt enough)
    exact ⟨_, rfl⟩
  | cons c text ih =>
    obtain ⟨fuel, rfl⟩ := Nat.exists_eq_succ_of_ne_zero (Nat.ne_zero_of_lt enough)
    obtain ⟨behind, step⟩ := (escape_escaped c).exists_skipTextFrom_eq fuel
      (text.flatMap escaped ++ '"' :: rest) offset
    simpa [step] using ih (Nat.lt_of_succ_lt_succ enough) behind

theorem leaves_skipText (s : String) (rest : List Char) (offset : Nat) :
    Leaves (skipText ⟨s.toList.flatMap escaped ++ '"' :: rest, offset⟩) rest :=
  leaves_skipTextFrom s.toList rest (length_lt_escaped s.toList ('"' :: rest)) offset

end PatternSearch.Document
