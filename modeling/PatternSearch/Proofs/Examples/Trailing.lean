import PatternSearch.Proofs.Examples.Rows

/-!
# Blanks at the end of a line

Blanks that are put at the end of a line stand in a column of their own, an empty one. No example is
read from it, but a line whose last column is empty has no negative example any more: two columns have
become three. So these blanks take away the negative example of a line that has one, and change nothing
else. They do no harm if they are a single carriage return that becomes part of the line end.
-/

namespace PatternSearch.Examples

open Text

variable {line gap : List Char}

theorem positive_ofLine (line : List Char) :
    (ofLine line).positive = ((columns line).head?.map ofColumn).getD [] := by
  rw [ofLine]
  split
  · next pair => simp [pair]
  · next first _ _ more => simp [more]
  · next none => simp [none]

theorem positive_ofLine_append (nonempty : gap ≠ []) (blank : ∀ c ∈ gap, isBlank c = true) :
    (ofLine (line ++ gap)).positive = (ofLine line).positive := by
  rw [positive_ofLine, positive_ofLine, head?_columns_append nonempty blank]

/-- No negative example is read from a line with blanks at its end. -/
theorem negative_ofLine_append (nonempty : gap ≠ []) (blank : ∀ c ∈ gap, isBlank c = true) :
    (ofLine (line ++ gap)).negative = [] := by
  have last := @getLast?_columns_append line gap nonempty blank
  rw [ofLine]
  split
  · next positive negative pair =>
    rw [pair] at last
    cases last
    rfl
  · rfl
  · rfl

/-! ## A line in a text -/

theorem append_eq (a b : Examples) : a ++ b = ⟨a.positive ++ b.positive, a.negative ++ b.negative⟩ :=
  rfl

theorem ofLines_append (before after : List (List Char)) :
    ofLines (before ++ after) = ofLines before ++ ofLines after := by
  simp only [ofLines, List.flatMap_append]
  rfl

/-- The end of a line in a text, with the lines before it and what follows. The last line may have no
end. -/
structure Place where
  before : List Char
  line : List Char
  after : Option (LineEnd × List Char)
  closed : before = [] ∨ before.getLast? = some '\n'
  single : '\n' ∉ line

namespace Place

variable (place : Place)

def text : String :=
  String.ofList (place.before ++ (place.line ++
    match place.after with
    | none => []
    | some (lineEnd, rest) => lineEnd.chars ++ rest))

/-- Puts blanks at the end of the line. -/
def pad (gap : Gap) : Place where
  before := place.before
  line := place.line ++ gap.chars
  after := place.after
  closed := place.closed
  single := by simpa using ⟨place.single, gap.single⟩

/-- What is read of the line. -/
def content : List Char :=
  match place.after with
  | none => place.line
  | some (lineEnd, _) => lineEnd.kept place.line

theorem lines_before_append (rest : List Char) :
    lines (place.before ++ rest) = lines place.before ++ lines rest := by
  rcases place.closed with none | last
  · rw [none]
    rfl
  · obtain ⟨front, split⟩ := List.getLast?_eq_some_iff.mp last
    rw [split, List.append_assoc]
    exact linesFrom_append_feed [] front rest

/-- The examples of the other lines, before and after. -/
def around : Examples × Examples :=
  (ofLines (lines place.before),
    match place.after with
    | none => {}
    | some (_, rest) => ofLines (lines rest))

theorem parse_text :
    parse place.text = place.around.1 ++ (ofLine place.content ++ place.around.2) := by
  rw [parse, text, String.toList_ofList, lines_before_append, ofLines_append, around, content]
  cases place.after with
  | none => rw [List.append_nil, ofLines_lines_of_single place.single]; rfl
  | some pair => rw [lines_append_lineEnd place.single]; rfl

/-- The line ends in a line feed alone. -/
def Fed : Prop := ∃ rest, place.after = some (LineEnd.feed, rest)

/-- All that stands in the line is read of it, except for a carriage return before a line feed. -/
theorem content_cases :
    place.content = place.line ∧ (place.Fed → place.line.getLast? ≠ some '\r') ∨
      place.Fed ∧ place.line = place.content ++ ['\r'] := by
  rw [content, Fed]
  split
  · next open' => simp [open']
  · next lineEnd rest ended =>
    cases lineEnd with
    | returnFeed => simp [ended, LineEnd.kept]
    | feed =>
      by_cases last : place.line.getLast? = some '\r'
      · obtain ⟨front, split⟩ := List.getLast?_eq_some_iff.mp last
        simp [ended, split, LineEnd.kept, dropReturn]
      · simp [last, @LineEnd.kept_eq .feed place.line fun _ => last]

/-- The blanks are a carriage return, and it becomes part of the line end. -/
def Absorbs (gap : Gap) : Prop :=
  gap.chars = ['\r'] ∧ place.Fed ∧ place.line.getLast? ≠ some '\r'

/-- Of the blanks that are put at the end of a line, all are read but a last carriage return before a
line feed. -/
theorem content_pad_cases (gap : Gap) :
    (place.pad gap).content = place.line ++ gap.chars ∧
        (place.Fed → gap.chars.getLast? ≠ some '\r') ∨
      place.Fed ∧ ∃ front, gap.chars = front ++ ['\r'] ∧
        (place.pad gap).content = place.line ++ front := by
  have last : (place.pad gap).line.getLast? = gap.chars.getLast? := by
    rw [pad, List.getLast?_append, List.getLast?_eq_some_getLast gap.nonempty]
    rfl
  rcases (place.pad gap).content_cases with ⟨whole, free⟩ | ⟨fed, split⟩
  · exact Or.inl ⟨whole, last ▸ free⟩
  · have ends : gap.chars.getLast? = some '\r' := by simpa [← last] using congrArg List.getLast? split
    obtain ⟨front, chars⟩ := List.getLast?_eq_some_iff.mp ends
    refine Or.inr ⟨fed, front, chars, ?_⟩
    simpa [pad, chars, ← List.append_assoc, eq_comm] using split

/-- A padded line is read with blanks at its end, unless they are a carriage return that becomes part
of the line end. -/
theorem content_pad (gap : Gap) : place.Absorbs gap ∧ (place.pad gap).content = place.content ∨
    ¬place.Absorbs gap ∧ ∃ blanks, blanks ≠ [] ∧ (∀ c ∈ blanks, isBlank c = true) ∧
      (place.pad gap).content = place.content ++ blanks := by
  rcases place.content_cases with ⟨whole, free⟩ | ⟨-, split⟩
  · rw [whole]
    rcases place.content_pad_cases gap with ⟨padded, last⟩ | ⟨fed, front, chars, padded⟩
    · refine Or.inr ⟨?_, gap.chars, gap.nonempty, gap.blank, padded⟩
      rintro ⟨alone, fed, -⟩
      exact last fed (by rw [alone]; rfl)
    · by_cases none : front = []
      · subst none
        exact Or.inl ⟨⟨chars, fed, free fed⟩, by rw [padded, List.append_nil]⟩
      · refine Or.inr ⟨?_, front, none, fun c mem => gap.blank c (by simp [chars, mem]), padded⟩
        rintro ⟨alone, -, -⟩
        simp [chars, none] at alone
  · -- The line has a carriage return at its end, which comes back into it with the first blank.
    obtain ⟨blanks, blank, padded⟩ : ∃ blanks, (∀ c ∈ blanks, isBlank c = true) ∧
        (place.pad gap).content = place.line ++ blanks := by
      rcases place.content_pad_cases gap with ⟨padded, -⟩ | ⟨-, front, chars, padded⟩
      · exact ⟨gap.chars, gap.blank, padded⟩
      · exact ⟨front, fun c mem => gap.blank c (by simp [chars, mem]), padded⟩
    refine Or.inr ⟨?_, '\r' :: blanks, List.cons_ne_nil _ _, ?_, ?_⟩
    · rintro ⟨-, -, last⟩
      simp [split] at last
    · exact List.forall_mem_cons.mpr ⟨by decide, blank⟩
    · rw [padded, split, List.append_assoc]
      rfl

/-- Blanks at the end of a line change nothing exactly if the line has no negative example, or if they
are a carriage return that becomes part of the line end. They never change a positive example. -/
theorem parse_pad_eq_iff (gap : Gap) :
    (parse (place.pad gap).text).positive = (parse place.text).positive ∧
      (parse (place.pad gap).text = parse place.text ↔
        (ofLine place.content).negative = [] ∨ place.Absorbs gap) := by
  have around : (place.pad gap).around = place.around := rfl
  rw [parse_text, parse_text, around]
  rcases place.content_pad gap with ⟨absorbs, same⟩ | ⟨kept, blanks, nonempty, blank, padded⟩
  · simp [same, absorbs]
  · have positive := @positive_ofLine_append place.content blanks nonempty blank
    have negative := @negative_ofLine_append place.content blanks nonempty blank
    rw [padded]
    simp [append_eq, kept, positive, negative]

/-- A blank that nobody sees takes away a negative example, from a line with two columns and from one
that begins with a blank. -/
theorem parse_pad_loses :
    ∃ (both indented : Place) (gap : Gap),
      both.text = "1 x\n" ∧ (both.pad gap).text = "1 x \n" ∧
      parse both.text = ⟨["1"], ["x"]⟩ ∧ parse (both.pad gap).text = ⟨["1"], []⟩ ∧
      indented.text = "1\n\tx" ∧ (indented.pad gap).text = "1\n\tx " ∧
      parse indented.text = ⟨["1"], ["x"]⟩ ∧ parse (indented.pad gap).text = ⟨["1"], []⟩ := by
  let both : Place := ⟨[], "1 x".toList, some (.feed, []), Or.inl rfl, by decide⟩
  let indented : Place := ⟨"1\n".toList, "\tx".toList, none, Or.inr (by decide), by decide⟩
  let gap : Gap := ⟨[' '], by decide, by simp [isBlank], by decide⟩
  exact ⟨both, indented, gap, by decide⟩

end Place

end PatternSearch.Examples
