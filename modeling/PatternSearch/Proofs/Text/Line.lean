import PatternSearch.Text.Line

/-!
# Lines of a text

A text is taken apart at its first line feed: what stands before it is the first line, but for a
carriage return at its end, and the other lines are those of what stands behind it.
-/

namespace PatternSearch.Text

theorem dropReturn_of_head? {line : List Char} (h : line.head? ≠ some '\r') :
    dropReturn line = line := by
  cases line with
  | nil => rfl
  | cons c line =>
    rw [dropReturn.eq_def]
    split
    · next same =>
      cases same
      exact absurd rfl h
    · rfl

theorem linesFrom_append {line text : List Char} (single : '\n' ∉ text) (rest : List Char) :
    linesFrom line (text ++ rest) = linesFrom (text.reverse ++ line) rest := by
  induction text generalizing line with
  | nil => rfl
  | cons c text ih =>
    have other : c ≠ '\n' := by
      rintro rfl
      exact single List.mem_cons_self
    have later : '\n' ∉ text := fun mem => single (List.mem_cons_of_mem c mem)
    rw [List.cons_append, linesFrom, if_neg other, ih later, List.reverse_cons, List.append_assoc]
    rfl

theorem lines_append_feed {line : List Char} (single : '\n' ∉ line) (rest : List Char) :
    lines (line ++ '\n' :: rest) = (dropReturn line.reverse).reverse :: lines rest := by
  rw [lines, linesFrom_append single, List.append_nil, linesFrom, if_pos rfl]
  rfl

/-- The lines up to a line feed, and the lines behind it. -/
theorem linesFrom_append_feed (line text rest : List Char) :
    linesFrom line (text ++ '\n' :: rest) = linesFrom line (text ++ ['\n']) ++ lines rest := by
  induction text generalizing line with
  | nil => rfl
  | cons c text ih =>
    simp only [List.cons_append, linesFrom]
    split
    · rw [ih, List.cons_append]
    · exact ih (c :: line)

/-- What stands behind the last line feed is a line, unless nothing stands there. -/
theorem lines_of_single {line : List Char} (single : '\n' ∉ line) :
    lines line = if line.isEmpty then [] else [line] := by
  have whole := @linesFrom_append [] line single []
  rw [List.append_nil, List.append_nil] at whole
  rw [lines, whole, linesFrom, List.isEmpty_reverse, List.reverse_reverse]

end PatternSearch.Text
