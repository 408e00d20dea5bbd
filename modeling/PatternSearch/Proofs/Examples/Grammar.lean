import PatternSearch.Proofs.Examples.Division
import PatternSearch.Proofs.Examples.Trailing

/-!
# The grammar of example files

A text is its lines with their ends, and a line is its columns with the gaps between them, both in exactly
one way. The first column of each line is a positive example and the second one of a line with two columns
is a negative one, unless they are empty. Nothing else is read, and no character is ever cut.
-/

namespace PatternSearch.Examples

open Text

/-! ## Lines -/

/-- The lines of a text. A line feed ends a line, and a carriage return before it belongs to the line end;
what stands behind the last line feed is the last line, even if it is empty. -/
inductive IsLines : List Char → List (List Char) → Prop
  | last {line : List Char} (single : '\n' ∉ line) : IsLines line [line]
  | cons {line rest : List Char} {found : List (List Char)} (lineEnd : LineEnd) (single : '\n' ∉ line)
      (whole : lineEnd = .feed → line.getLast? ≠ some '\r') (later : IsLines rest found) :
      IsLines (line ++ (lineEnd.chars ++ rest)) (line :: found)

variable {text line : List Char} {found found' : List (List Char)}

/-- Reading leaves out the last line if it is empty. -/
theorem IsLines.eq_lines (h : IsLines text found) :
    found = lines text ++ if text.getLast?.all (· = '\n') then [[]] else [] := by
  induction h with
  | @last line single =>
    rw [lines_of_single single]
    cases ends : line.getLast? with
    | none => simp [List.getLast?_eq_none_iff.mp ends]
    | some c =>
      have other : c ≠ '\n' := by
        rintro rfl
        exact single (List.mem_of_getLast? ends)
      have nonempty : line ≠ [] := by
        rintro rfl
        cases ends
      simp [nonempty, other]
  | @cons line rest found lineEnd single whole later ih =>
    have ends : (line ++ (lineEnd.chars ++ rest)).getLast?.all (· = '\n') =
        rest.getLast?.all (· = '\n') := by
      cases lineEnd <;> cases last : rest.getLast? <;>
        simp [LineEnd.chars, List.getLast?_append, List.getLast?_cons, last]
    rw [ends, lines_append_lineEnd single, LineEnd.kept_eq whole, List.cons_append, ← ih]

theorem IsLines.unique (h : IsLines text found) (h' : IsLines text found') : found = found' :=
  h.eq_lines.trans h'.eq_lines.symm

/-- By the first line feed, and the carriage return before it. -/
theorem exists_isLines (text : List Char) : ∃ found, IsLines text found := by
  induction length : text.length using Nat.strongRecOn generalizing text with
  | ind n ih =>
    by_cases feed : '\n' ∈ text
    · obtain ⟨before, rest, rfl, single⟩ := List.eq_append_cons_of_mem feed
      have shorter : rest.length < n := by
        rw [← length, List.length_append, List.length_cons]
        omega
      obtain ⟨found, later⟩ := ih rest.length shorter rest rfl
      by_cases ends : before.getLast? = some '\r'
      · obtain ⟨line, rfl⟩ := List.getLast?_eq_some_iff.mp ends
        have single' : '\n' ∉ line := fun mem => single (List.mem_append_left _ mem)
        refine ⟨line :: found, ?_⟩
        simpa [LineEnd.chars] using IsLines.cons .returnFeed single' (by simp) later
      · exact ⟨before :: found, .cons .feed single (fun _ => ends) later⟩
    · exact ⟨[text], .last feed⟩

theorem IsLines.ofLines_eq (h : IsLines text found) : ofLines found = ofLines (lines text) := by
  rw [h.eq_lines, ofLines_append]
  split
  · simp [append_eq, ofLines, ofLine, columns, columnsFrom, ofColumn]
  · simp [append_eq, ofLines]

/-! ## Columns -/

theorem ofLine_text (division : Division) : ofLine division.text =
    ⟨ofColumn division.first, division.second?.toList.flatMap ofColumn⟩ := by
  obtain ⟨first, more, h⟩ := division
  simp only [ofLine, Division.text, Division.second?, columns_spell h]
  cases more with
  | nil => rfl
  | cons pair more =>
    cases more with
    | nil => simp
    | cons _ _ => rfl

theorem flatMap_ofColumn (found : List (List Char)) :
    found.flatMap ofColumn = (found.filter (· ≠ [])).map String.ofList := by
  induction found with
  | nil => rfl
  | cons column found ih =>
    cases column with
    | nil => simpa [ofColumn] using ih
    | cons c column => simpa [ofColumn] using ih

theorem positive_ofLines (divisions : List Division) :
    (ofLines (divisions.map Division.text)).positive =
      ((divisions.map Division.first).filter (· ≠ [])).map String.ofList := by
  simp only [← flatMap_ofColumn, ofLines, List.flatMap_map, ofLine_text]

theorem negative_ofLines (divisions : List Division) :
    (ofLines (divisions.map Division.text)).negative =
      ((divisions.filterMap Division.second?).filter (· ≠ [])).map String.ofList := by
  simp only [← flatMap_ofColumn, ofLines, List.flatMap_map, ofLine_text]
  induction divisions with
  | nil => rfl
  | cons division rest ih =>
    cases second : division.second? with
    | none => simpa [second] using ih
    | some column => simpa [second] using ih

/-- The examples that are read from columns without blanks. -/
theorem unbroken_of_mem {columns : List (List Char)} {entry : String}
    (unbroken : ∀ column ∈ columns, ∀ c ∈ column, isBlank c = false)
    (mem : entry ∈ (columns.filter (· ≠ [])).map String.ofList) :
    entry ≠ "" ∧ ∀ c ∈ entry.toList, isBlank c = false := by
  obtain ⟨column, kept, rfl⟩ := List.mem_map.mp mem
  obtain ⟨inside, nonempty⟩ := List.mem_filter.mp kept
  constructor
  · simpa using nonempty
  · simpa using unbroken column inside

/-- What is read from a text, by its only division into lines, columns and gaps; and where the columns of
any line are cut out. -/
theorem parse_grammar (text : String) :
    Function.Bijective Division.text ∧
    (∃ divisions : List Division,
      (∀ other, IsLines text.toList (other.map Division.text) ↔ other = divisions) ∧
      (parse text).positive = ((divisions.map Division.first).filter (· ≠ [])).map String.ofList ∧
      (parse text).negative =
        ((divisions.filterMap Division.second?).filter (· ≠ [])).map String.ofList) ∧
    (∀ entry ∈ (parse text).positive ++ (parse text).negative,
      entry ≠ "" ∧ ∀ c ∈ entry.toList, isBlank c = false) ∧
    ∀ line, List.Forall₂ (IsSlice line) (spans line) (columns line) := by
  obtain ⟨found, isLines⟩ := exists_isLines text.toList
  obtain ⟨divisions, rfl⟩ := Division.text_bijective.surjective.list_map found
  have read : parse text = ofLines (divisions.map Division.text) := isLines.ofLines_eq.symm
  have positive := positive_ofLines divisions
  have negative := negative_ofLines divisions
  rw [← read] at positive negative
  refine ⟨Division.text_bijective, ⟨divisions, ?_, positive, negative⟩, ?_, ?_⟩
  · intro other
    constructor
    · intro isLines'
      exact Division.text_bijective.injective.list_map (isLines'.unique isLines)
    · rintro rfl
      exact isLines
  · intro entry mem
    rw [positive, negative] at mem
    rcases List.mem_append.mp mem with first | second
    · refine unbroken_of_mem ?_ first
      intro column inside
      obtain ⟨division, -, rfl⟩ := List.mem_map.mp inside
      exact division.unbroken_first
    · refine unbroken_of_mem ?_ second
      intro column inside
      obtain ⟨division, -, second⟩ := List.mem_filterMap.mp inside
      exact Division.unbroken_second second
  · intro line
    obtain ⟨division, rfl⟩ := Division.text_bijective.surjective line
    have slices := isSlice_spansFrom division.alternates []
    rw [← columns_spell division.alternates] at slices
    exact slices

/-- A wide gap behind a letter of two bytes, a negative example alone, and a line with three columns. -/
theorem parse_grammar_wide :
    let text := "é\u3000x\r\n 𝒫\na b c"
    parse text = ⟨["é", "a"], ["x", "𝒫"]⟩ ∧
      (∃ divisions : List Division, IsLines text.toList (divisions.map Division.text) ∧
        ((divisions.map Division.first).filter (· ≠ [])).map String.ofList = ["é", "a"] ∧
        ((divisions.filterMap Division.second?).filter (· ≠ [])).map String.ofList = ["x", "𝒫"]) ∧
      ("𝒫" ≠ "" ∧ ∀ c ∈ "𝒫".toList, isBlank c = false) ∧
      List.Forall₂ (IsSlice "é\u3000x".toList) [(0, 2), (5, 6)] [['é'], ['x']] := by
  intro text
  have read : parse text = ⟨["é", "a"], ["x", "𝒫"]⟩ := by decide
  obtain ⟨-, ⟨divisions, only, positive, negative⟩, unbroken, slices⟩ := parse_grammar text
  rw [read] at positive negative unbroken
  exact ⟨read, ⟨divisions, (only divisions).mpr rfl, positive.symm, negative.symm⟩,
    unbroken "𝒫" (by decide), slices "é\u3000x".toList⟩

end PatternSearch.Examples
