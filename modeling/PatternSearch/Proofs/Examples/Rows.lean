import PatternSearch.Proofs.Examples.Columns
import PatternSearch.Proofs.Text.Line

/-!
# Rows of examples

Examples can be written down in rows, with a positive and a negative one side by side or one of them
alone, and are read back as they are. What stands in a column is not empty and has no blank; columns
are put apart by any blanks but line feeds. Lines with more columns, or with a blank at their end, are
no rows, and nothing is said of them here.
-/

namespace PatternSearch.Examples

open Text

/-! ## Writing -/

/-- A text that can stand in a column. -/
structure Word where
  text : String
  nonempty : text.toList ≠ []
  unbroken : ∀ c ∈ text.toList, isBlank c = false

/-- What can stand between two columns. -/
structure Gap where
  chars : List Char
  nonempty : chars ≠ []
  blank : ∀ c ∈ chars, isBlank c = true
  single : '\n' ∉ chars

inductive LineEnd where
  | feed
  | returnFeed

def LineEnd.chars : LineEnd → List Char
  | feed => ['\n']
  | returnFeed => ['\r', '\n']

/-- A row has up to two examples. There is a gap before a negative one, even if it is alone. -/
structure Row where
  positive : Option Word
  negative : Option (Gap × Word)
  lineEnd : LineEnd

/-- A column that is empty if there is nothing to write. -/
def column : Option Word → List Char
  | none => []
  | some word => word.text.toList

/-- The text of a row, but for the end of its line. -/
def Row.content (row : Row) : List Char :=
  match row.negative with
  | none => column row.positive
  | some (gap, word) => column row.positive ++ (gap.chars ++ word.text.toList)

/-- Rows one below the other. The end of the last line is left out, unless the text is closed. -/
def write (closed : Bool) : List Row → List Char
  | [] => []
  | row :: rest =>
    row.content ++ ((if rest.isEmpty && !closed then [] else row.lineEnd.chars) ++ write closed rest)

/-- The examples of some rows, in their order. -/
def ofRows (rows : List Row) : Examples :=
  ⟨rows.filterMap fun row => row.positive.map (·.text),
    rows.filterMap fun row => row.negative.map (·.2.text)⟩

/-! ## Columns of a row -/

theorem column_unbroken (word : Option Word) : ∀ c ∈ column word, isBlank c = false := by
  cases word with
  | none =>
    intro c mem
    cases mem
  | some word => exact word.unbroken

theorem ofColumn_text (word : Word) : ofColumn word.text.toList = [word.text] := by
  rw [ofColumn, List.isEmpty_eq_false_iff.mpr word.nonempty, if_neg Bool.false_ne_true,
    String.ofList_toList]

theorem ofColumn_column (word : Option Word) :
    ofColumn (column word) = (word.map (·.text)).toList := by
  cases word with
  | none => rfl
  | some word => exact ofColumn_text word

theorem Word.head?_unbroken (word : Word) : ∀ c ∈ word.text.toList.head?, isBlank c = false :=
  fun c first => word.unbroken c (List.mem_of_mem_head? first)

theorem Row.ofLine_content (row : Row) : ofLine row.content =
    ⟨(row.positive.map (·.text)).toList, (row.negative.map (·.2.text)).toList⟩ := by
  cases negative : row.negative with
  | none =>
    rw [content, negative, ofLine, columns_of_unbroken (column_unbroken row.positive)]
    change Examples.mk (ofColumn (column row.positive)) [] = _
    rw [ofColumn_column]
    rfl
  | some pair =>
    obtain ⟨gap, word⟩ := pair
    have two : columns row.content = [column row.positive, word.text.toList] := by
      rw [content, negative, columns_append_gap (column_unbroken row.positive) gap.nonempty gap.blank
        word.head?_unbroken, columns_of_unbroken word.unbroken]
    rw [ofLine, two]
    change Examples.mk (ofColumn (column row.positive)) (ofColumn word.text.toList) = _
    rw [ofColumn_column, ofColumn_text]
    rfl

/-! ## Lines of rows -/

theorem feed_not_mem_of_unbroken {text : List Char} (unbroken : ∀ c ∈ text, isBlank c = false) :
    '\n' ∉ text := by
  intro mem
  cases unbroken '\n' mem

/-- A row has no line feed but in its line end. -/
theorem Row.feed_not_mem_content (row : Row) : '\n' ∉ row.content := by
  have first := feed_not_mem_of_unbroken (column_unbroken row.positive)
  rw [content]
  split
  · exact first
  · next gap word _ =>
    have second := feed_not_mem_of_unbroken word.unbroken
    simp only [List.mem_append, not_or]
    exact ⟨first, gap.single, second⟩

/-- No blank is at the end of a row, so a carriage return that is there belongs to the line end. -/
theorem Row.getLast?_content (row : Row) : ∀ c ∈ row.content.getLast?, isBlank c = false := by
  intro c last
  rw [content] at last
  split at last
  · exact column_unbroken row.positive c (List.mem_of_mem_getLast? last)
  · next gap word _ =>
    rw [← List.append_assoc, List.getLast?_append, List.getLast?_eq_some_getLast word.nonempty] at last
    cases last
    exact word.unbroken _ (List.getLast_mem word.nonempty)

/-- What is read of a line that has this end: a carriage return before a line feed is not. -/
def LineEnd.kept : LineEnd → List Char → List Char
  | feed, line => (dropReturn line.reverse).reverse
  | returnFeed, line => line

theorem lines_append_lineEnd {line : List Char} (single : '\n' ∉ line) (lineEnd : LineEnd)
    (rest : List Char) : lines (line ++ (lineEnd.chars ++ rest)) = lineEnd.kept line :: lines rest := by
  cases lineEnd with
  | feed => exact lines_append_feed single rest
  | returnFeed =>
    have taken := @lines_append_feed (line ++ ['\r']) (by simpa using single) rest
    simpa [dropReturn, LineEnd.chars, LineEnd.kept] using taken

theorem LineEnd.kept_eq {lineEnd : LineEnd} {line : List Char}
    (whole : lineEnd = .feed → line.getLast? ≠ some '\r') : lineEnd.kept line = line := by
  cases lineEnd with
  | feed =>
    have ends : line.reverse.head? ≠ some '\r' := by simpa using whole rfl
    simp [kept, dropReturn_of_head? ends]
  | returnFeed => rfl

theorem lines_content_append (row : Row) (rest : List Char) :
    lines (row.content ++ (row.lineEnd.chars ++ rest)) = row.content :: lines rest := by
  have whole : row.content.getLast? ≠ some '\r' := by
    intro last
    cases row.getLast?_content '\r' last
  rw [lines_append_lineEnd row.feed_not_mem_content, LineEnd.kept_eq fun _ => whole]

/-- The last line may be missing if nothing stands in it, but then there is nothing to read from it. -/
theorem ofLines_lines_of_single {line : List Char} (single : '\n' ∉ line) :
    ofLines (lines line) = ofLines [line] := by
  rw [lines_of_single single]
  split
  · next empty =>
    rw [List.isEmpty_iff.mp empty]
    rfl
  · rfl

theorem ofLines_lines_content (row : Row) : ofLines (lines row.content) = ofLines [row.content] :=
  ofLines_lines_of_single row.feed_not_mem_content

theorem ofLines_cons (line : List Char) (rest : List (List Char)) :
    ofLines (line :: rest) = ofLine line ++ ofLines rest := rfl

theorem ofRows_cons (row : Row) (rest : List Row) :
    ofRows (row :: rest) = ofLine row.content ++ ofRows rest := by
  rw [row.ofLine_content, ofRows, ofRows, List.filterMap_cons, List.filterMap_cons]
  cases row.positive <;> cases row.negative <;> rfl

/-- Reading gives back the examples of the rows, whatever the gaps and line ends are. -/
theorem parse_write (closed : Bool) (rows : List Row) :
    parse (String.ofList (write closed rows)) = ofRows rows := by
  rw [parse, String.toList_ofList]
  induction rows with
  | nil => rfl
  | cons row rest ih =>
    rw [write]
    split
    · next last =>
      obtain rfl : rest = [] := by
        simpa using (Bool.and_eq_true_iff.mp last).1
      rw [write, List.append_nil, List.append_nil, ofLines_lines_content, ofLines_cons, ofRows_cons]
      rfl
    · rw [lines_content_append, ofLines_cons, ofRows_cons, ih]

/-- A carriage return and a wide blank between two columns, a row without examples, and a negative
example in an open last line. -/
theorem parse_write_uneven : ∃ rows : List Row,
    String.ofList (write false rows) = "12\r\u3000x\r\n\n\té" ∧
      ofRows rows = ⟨["12"], ["x", "é"]⟩ ∧ parse "12\r\u3000x\r\n\n\té" = ofRows rows := by
  let digits : Word := ⟨"12", by decide, by simp [isBlank]⟩
  let letter : Word := ⟨"x", by decide, by simp [isBlank]⟩
  let accented : Word := ⟨"é", by decide, by simp [isBlank]⟩
  let wide : Gap := ⟨['\r', '\u3000'], by decide, by simp [isBlank], by decide⟩
  let tab : Gap := ⟨['\t'], by decide, by simp [isBlank], by decide⟩
  let rows : List Row :=
    [⟨some digits, some (wide, letter), .returnFeed⟩, ⟨none, none, .feed⟩,
      ⟨none, some (tab, accented), .feed⟩]
  have text : String.ofList (write false rows) = "12\r\u3000x\r\n\n\té" := by decide
  refine ⟨rows, text, rfl, ?_⟩
  rw [← text, parse_write false rows]

end PatternSearch.Examples
