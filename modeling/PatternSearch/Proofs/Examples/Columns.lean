import Mathlib.Data.List.Induction
import PatternSearch.Examples

/-!
# Columns of a line

A run of blanks ends a column, however long the run is, and the next column begins behind it. A text
without a blank is one column, and blanks at the end of a line have an empty column behind them.
-/

namespace PatternSearch

open Text

variable {inGap : Bool} {column word line gap rest : List Char} {c : Char}

theorem columnsFrom_cons (h : isBlank c = false) :
    columnsFrom inGap column (c :: rest) = columnsFrom false (c :: column) rest := by
  rw [columnsFrom, h, if_neg Bool.false_ne_true]

theorem columnsFrom_append_of_unbroken (unbroken : ∀ c ∈ word, isBlank c = false) :
    columnsFrom false column (word ++ rest) = columnsFrom false (word.reverse ++ column) rest := by
  induction word generalizing column with
  | nil => rfl
  | cons c word ih =>
    rw [List.forall_mem_cons] at unbroken
    rw [List.cons_append, columnsFrom_cons unbroken.1, ih unbroken.2, List.reverse_cons,
      List.append_assoc]
    rfl

/-- Inside a gap, more blanks change nothing. -/
theorem columnsFrom_append_of_blank (blank : ∀ c ∈ gap, isBlank c = true) :
    columnsFrom true column (gap ++ rest) = columnsFrom true column rest := by
  induction gap with
  | nil => rfl
  | cons c gap ih =>
    rw [List.forall_mem_cons] at blank
    rw [List.cons_append, columnsFrom, blank.1, if_pos rfl, if_pos rfl, ih blank.2]

/-- It makes no difference that a gap came before what is no blank. -/
theorem columnsFrom_of_head? (begins : ∀ c ∈ rest.head?, isBlank c = false) :
    columnsFrom true column rest = columnsFrom false column rest := by
  cases rest with
  | nil => rfl
  | cons c rest =>
    have first : isBlank c = false := begins c rfl
    rw [columnsFrom_cons first, columnsFrom_cons first]

theorem columns_of_unbroken (unbroken : ∀ c ∈ word, isBlank c = false) : columns word = [word] := by
  have whole := @columnsFrom_append_of_unbroken [] word [] unbroken
  rw [List.append_nil, List.append_nil] at whole
  rw [columns, whole, columnsFrom, List.reverse_reverse]

/-- The first column, before the first gap. It may be empty, and so may all that follows. -/
theorem columns_append_gap (unbroken : ∀ c ∈ word, isBlank c = false) (nonempty : gap ≠ [])
    (blank : ∀ c ∈ gap, isBlank c = true) (begins : ∀ c ∈ rest.head?, isBlank c = false) :
    columns (word ++ (gap ++ rest)) = word :: columns rest := by
  obtain ⟨c, gap, rfl⟩ := List.exists_cons_of_ne_nil nonempty
  rw [List.forall_mem_cons] at blank
  rw [columns, columnsFrom_append_of_unbroken unbroken, List.append_nil, List.cons_append,
    columnsFrom, blank.1, if_pos rfl, if_neg Bool.false_ne_true, List.reverse_reverse,
    columnsFrom_append_of_blank blank.2, columnsFrom_of_head? begins]
  rfl

theorem columns_ne_nil (line : List Char) : columns line ≠ [] := by
  have begun (inGap : Bool) (column : List Char) : columnsFrom inGap column line ≠ [] := by
    induction line generalizing inGap column with
    | nil => exact List.cons_ne_nil _ _
    | cons c line ih =>
      rw [columnsFrom]
      split
      · split
        · exact ih true column
        · exact List.cons_ne_nil _ _
      · exact ih false (c :: column)
  exact begun false []

/-! ## Blanks at the end -/

theorem getD_getLast?_cons {α : Type} (p : α → Bool) (a : α) (as : List α) (before : Bool) :
    ((a :: as).getLast?.map p).getD before = (as.getLast?.map p).getD (p a) := by
  rw [List.getLast?_cons]
  cases as.getLast? <;> rfl

theorem columnsFrom_append_trailing (nonempty : gap ≠ []) (blank : ∀ c ∈ gap, isBlank c = true) :
    columnsFrom inGap column (line ++ gap) = columnsFrom inGap column line ++
      if (line.getLast?.map isBlank).getD inGap then [] else [[]] := by
  induction line generalizing inGap column with
  | nil =>
    cases inGap with
    | true => simpa using @columnsFrom_append_of_blank column gap [] blank
    | false =>
      obtain ⟨c, gap, rfl⟩ := List.exists_cons_of_ne_nil nonempty
      rw [List.forall_mem_cons] at blank
      have more := @columnsFrom_append_of_blank [] gap [] blank.2
      rw [List.append_nil] at more
      simp [columnsFrom, blank.1, more]
  | cons c line ih =>
    rw [getD_getLast?_cons, List.cons_append]
    cases first : isBlank c with
    | false => rw [columnsFrom_cons first, columnsFrom_cons first, ih]
    | true => cases inGap <;> simp [columnsFrom, first, ih]

/-- Blanks at the end add an empty column, unless there are blanks at the end already. -/
theorem columns_append_trailing (nonempty : gap ≠ []) (blank : ∀ c ∈ gap, isBlank c = true) :
    columns (line ++ gap) = columns line ++ if line.getLast?.any isBlank then [] else [[]] := by
  rw [columns, columnsFrom_append_trailing nonempty blank]
  cases line.getLast? <;> rfl

theorem getLast?_columns_append (nonempty : gap ≠ []) (blank : ∀ c ∈ gap, isBlank c = true) :
    (columns (line ++ gap)).getLast? = some [] := by
  induction line using List.reverseRecOn generalizing gap with
  | nil =>
    rw [columns_append_trailing nonempty blank]
    rfl
  | append_singleton line c ih =>
    rw [columns_append_trailing nonempty blank, List.getLast?_concat]
    cases last : isBlank c with
    | false => simp [last]
    | true => simpa [last] using ih (List.cons_ne_nil c []) (by simpa using last)

/-- The first column is there whether or not blanks come at the end. -/
theorem head?_columns_append (nonempty : gap ≠ []) (blank : ∀ c ∈ gap, isBlank c = true) :
    (columns (line ++ gap)).head? = (columns line).head? := by
  obtain ⟨first, more, split⟩ := List.exists_cons_of_ne_nil (columns_ne_nil line)
  simp [columns_append_trailing nonempty blank, split]

end PatternSearch
