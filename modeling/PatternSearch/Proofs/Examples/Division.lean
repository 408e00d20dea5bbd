import Mathlib.Data.List.Forall2
import PatternSearch.Proofs.Examples.Columns
import PatternSearch.Proofs.Text.Boundary

/-!
# Lines divided into columns

Every line is written in exactly one way as columns without blanks and gaps of blanks in turns, where
only the first and the last column may be empty. These are the columns that are read from it. A reader
that counts bytes along the line, column by column and gap by gap, cuts at their ends and never inside a
character.
-/

namespace PatternSearch

open Text

/-! ## Columns and gaps in turns -/

/-- A column, and more columns with the gaps before them. A column behind a gap is empty only at the end
of the line. -/
inductive Alternates : List Char → List (List Char × List Char) → Prop
  | last {column : List Char} (unbroken : ∀ c ∈ column, isBlank c = false) : Alternates column []
  | cons {column gap next : List Char} {more : List (List Char × List Char)}
      (unbroken : ∀ c ∈ column, isBlank c = false) (nonempty : gap ≠ [])
      (blank : ∀ c ∈ gap, isBlank c = true) (inner : next = [] → more = [])
      (later : Alternates next more) : Alternates column ((gap, next) :: more)

/-- The text of a column and of those behind it. -/
def spell (column : List Char) (more : List (List Char × List Char)) : List Char :=
  column ++ more.flatMap fun (gap, next) => gap ++ next

/-- A line in its columns and gaps. -/
structure Division where
  first : List Char
  more : List (List Char × List Char)
  alternates : Alternates first more

namespace Division

def text (division : Division) : List Char := spell division.first division.more

/-- The column behind the gap of a line with one gap. -/
def second? (division : Division) : Option (List Char) :=
  match division.more with
  | [(_, column)] => some column
  | _ => none

end Division

variable {column column' gap next rest word : List Char}
variable {more more' : List (List Char × List Char)}

theorem spell_cons : spell column ((gap, next) :: more) = column ++ (gap ++ spell next more) := by
  simp only [spell, List.flatMap_cons, List.append_assoc]

theorem Alternates.unbroken (h : Alternates column more) : ∀ c ∈ column, isBlank c = false := by
  cases h with
  | last unbroken => exact unbroken
  | cons unbroken _ _ _ _ => exact unbroken

/-- Behind a gap there is no further blank. -/
theorem Alternates.begins (h : Alternates next more) (inner : next = [] → more = []) :
    ∀ c ∈ (spell next more).head?, isBlank c = false := by
  intro c first
  cases next with
  | nil =>
    rw [inner rfl] at first
    cases first
  | cons d next =>
    cases first
    exact h.unbroken c List.mem_cons_self

theorem takeWhile_gap (blank : ∀ c ∈ gap, isBlank c = true)
    (begins : ∀ c ∈ rest.head?, isBlank c = false) : (gap ++ rest).takeWhile isBlank = gap := by
  rw [List.takeWhile_append_of_pos blank]
  cases rest with
  | nil => simp
  | cons c rest => simp [begins c rfl]

/-! ## One division for each line -/

theorem columns_spell (h : Alternates column more) :
    columns (spell column more) = column :: more.map Prod.snd := by
  induction h with
  | last unbroken => simpa [spell] using columns_of_unbroken unbroken
  | cons unbroken nonempty blank inner later ih =>
    simp only [spell_cons, columns_append_gap unbroken nonempty blank (later.begins inner), ih,
      List.map_cons]

theorem spell_inj (h : Alternates column more) (h' : Alternates column' more')
    (same : spell column more = spell column' more') : column = column' ∧ more = more' := by
  induction h generalizing column' more' with
  | last unbroken =>
    have read := congrArg columns same
    rw [columns_spell (.last unbroken), columns_spell h'] at read
    obtain ⟨first, none⟩ := List.cons.inj read
    exact ⟨first, (List.map_eq_nil_iff.mp none.symm).symm⟩
  | cons unbroken nonempty blank inner later ih =>
    have read := congrArg columns same
    rw [columns_spell (.cons unbroken nonempty blank inner later), columns_spell h'] at read
    obtain ⟨rfl, others⟩ := List.cons.inj read
    cases h' with
    | last _ => cases others
    | cons _ _ blank' inner' later' =>
      -- Both gaps are all the blanks behind the first column.
      simp only [spell_cons, List.append_cancel_left_eq] at same
      have gaps := congrArg (List.takeWhile isBlank) same
      rw [takeWhile_gap blank (later.begins inner), takeWhile_gap blank' (later'.begins inner')] at gaps
      subst gaps
      obtain ⟨rfl, rfl⟩ := ih later' (List.append_cancel_left same)
      exact ⟨rfl, rfl⟩

theorem exists_spell (line : List Char) : ∃ column more, Alternates column more ∧
    spell column more = line := by
  induction line with
  | nil => exact ⟨[], [], .last (by simp), rfl⟩
  | cons c line ih =>
    obtain ⟨column, more, h, rfl⟩ := ih
    cases first : isBlank c with
    | false =>
      have unbroken : ∀ d ∈ c :: column, isBlank d = false :=
        List.forall_mem_cons.mpr ⟨first, h.unbroken⟩
      cases h with
      | last _ => exact ⟨c :: column, [], .last unbroken, rfl⟩
      | cons _ nonempty blank inner later =>
        exact ⟨c :: column, _, .cons unbroken nonempty blank inner later, rfl⟩
    | true =>
      have blank : ∀ d ∈ [c], isBlank d = true := List.forall_mem_singleton.mpr first
      cases h with
      | last unbroken =>
        exact ⟨[], [([c], column)], .cons (by simp) (by simp) blank (fun _ => rfl) (.last unbroken),
          by simp [spell]⟩
      | @cons _ gap next rest unbroken nonempty blank' inner later =>
        by_cases empty : column = []
        · -- The line began with a gap, which gets longer.
          subst empty
          exact ⟨[], (c :: gap, next) :: rest, .cons unbroken (by simp)
            (List.forall_mem_cons.mpr ⟨first, blank'⟩) inner later, by simp [spell]⟩
        · exact ⟨[], ([c], column) :: (gap, next) :: rest, .cons (by simp) (by simp) blank
            (fun none => absurd none empty) (.cons unbroken nonempty blank' inner later),
            by simp [spell]⟩

theorem Division.text_bijective : Function.Bijective Division.text := by
  constructor
  · rintro ⟨column, more, h⟩ ⟨column', more', h'⟩ same
    obtain ⟨rfl, rfl⟩ := spell_inj h h' same
    rfl
  · intro line
    obtain ⟨column, more, h, text⟩ := exists_spell line
    exact ⟨⟨column, more, h⟩, text⟩

theorem Division.unbroken_first (division : Division) :
    ∀ c ∈ division.first, isBlank c = false :=
  division.alternates.unbroken

theorem Division.unbroken_second {division : Division} {column : List Char}
    (second : division.second? = some column) : ∀ c ∈ column, isBlank c = false := by
  obtain ⟨first, more, h⟩ := division
  cases h with
  | last _ => cases second
  | cons _ _ _ _ later =>
    cases later with
    | last unbroken =>
      cases second
      exact unbroken
    | cons _ _ _ _ _ => cases second

/-! ## Offsets -/

/-- The byte offsets of the ends of each column, for a column that begins at `start` and is read up to
`offset`; `inGap` says that the last character was a blank. The first blank behind a column ends it, and
with every blank the beginning of the next column moves on. -/
def spansFrom (inGap : Bool) (start offset : Nat) : List Char → List (Nat × Nat)
  | [] => [(start, offset)]
  | c :: rest =>
    let next := offset + c.utf8Size
    if isBlank c then
      if inGap then spansFrom true next next rest
      else (start, offset) :: spansFrom true next next rest
    else spansFrom false start next rest

def spans (line : List Char) : List (Nat × Nat) := spansFrom false 0 0 line

theorem spansFrom_append_of_unbroken {start offset : Nat}
    (unbroken : ∀ c ∈ word, isBlank c = false) : spansFrom false start offset (word ++ rest) =
      spansFrom false start (offset + byteWidth word) rest := by
  induction word generalizing offset with
  | nil => rfl
  | cons c word ih =>
    rw [List.forall_mem_cons] at unbroken
    simp only [List.cons_append, spansFrom, unbroken.1, Bool.false_eq_true, if_false,
      ih unbroken.2, byteWidth_cons, Nat.add_assoc]

theorem spansFrom_append_of_blank {offset : Nat} (blank : ∀ c ∈ gap, isBlank c = true) :
    spansFrom true offset offset (gap ++ rest) =
      spansFrom true (offset + byteWidth gap) (offset + byteWidth gap) rest := by
  induction gap generalizing offset with
  | nil => rfl
  | cons c gap ih =>
    rw [List.forall_mem_cons] at blank
    simp only [List.cons_append, spansFrom, blank.1, if_true, ih blank.2, byteWidth_cons,
      Nat.add_assoc]

theorem spansFrom_append_gap {start offset : Nat} (nonempty : gap ≠ [])
    (blank : ∀ c ∈ gap, isBlank c = true) (begins : ∀ c ∈ rest.head?, isBlank c = false) :
    spansFrom false start offset (gap ++ rest) = (start, offset) ::
      spansFrom false (offset + byteWidth gap) (offset + byteWidth gap) rest := by
  have reset (offset : Nat) : spansFrom true offset offset rest = spansFrom false offset offset rest := by
    cases rest with
    | nil => rfl
    | cons c rest =>
      have first : isBlank c = false := begins c rfl
      simp only [spansFrom, first, Bool.false_eq_true, if_false]
  obtain ⟨c, gap, rfl⟩ := List.exists_cons_of_ne_nil nonempty
  rw [List.forall_mem_cons] at blank
  simp only [List.cons_append, spansFrom, blank.1, if_true, Bool.false_eq_true, if_false,
    spansFrom_append_of_blank blank.2, reset, byteWidth_cons, Nat.add_assoc]

/-- The offsets cut out the columns, whatever stands before them. -/
theorem isSlice_spansFrom (h : Alternates column more) (before : List Char) :
    List.Forall₂ (IsSlice (before ++ spell column more))
      (spansFrom false (byteWidth before) (byteWidth before) (spell column more))
      (column :: more.map Prod.snd) := by
  induction h generalizing before with
  | @last column unbroken =>
    have ends := @spansFrom_append_of_unbroken [] column (byteWidth before) (byteWidth before) unbroken
    rw [spansFrom] at ends
    simp only [spell, List.flatMap_nil, List.map_nil, ends]
    exact .cons (isSlice_byteWidth before column []) .nil
  | @cons column gap next more unbroken nonempty blank inner later ih =>
    have others := ih (before ++ (column ++ gap))
    simp only [byteWidth_append, List.append_assoc, ← Nat.add_assoc] at others
    simp only [spell_cons, spansFrom_append_of_unbroken unbroken,
      spansFrom_append_gap nonempty blank (later.begins inner), List.map_cons]
    exact .cons (isSlice_byteWidth before column (gap ++ spell next more)) others

end PatternSearch
