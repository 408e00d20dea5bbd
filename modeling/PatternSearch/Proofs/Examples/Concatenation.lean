import PatternSearch.Proofs.Examples.Grammar

/-!
# Files put together

Two texts with a line feed between them have the lines of the first one and then those of the second one,
and so their examples. Only a carriage return at the end of the first text would be lost: it becomes part
of the line end. Nor does it matter whether lines end in a line feed alone or with a carriage return before
it, as long as no other carriage return is in the text.
-/

namespace PatternSearch.Examples

open Text

variable {text first second : List Char} {found found' : List (List Char)}

/-- The lines of the first text come before those of the second one. Its last line now has an end, whether
it had characters or not. -/
theorem IsLines.append_feed (h : IsLines first found) (h' : IsLines second found')
    (whole : first.getLast? ≠ some '\r') : IsLines (first ++ '\n' :: second) (found ++ found') := by
  induction h with
  | last single => exact .cons .feed single (fun _ => whole) h'
  | @cons line rest found lineEnd single whole' _ ih =>
    have later : rest.getLast? ≠ some '\r' := by
      intro last
      apply whole
      rw [List.getLast?_append, List.getLast?_append, last]
      rfl
    have joined := IsLines.cons lineEnd single whole' (ih later)
    simpa using joined

/-- A carriage return before each line feed. -/
def withReturns (text : List Char) : List Char :=
  text.flatMap fun c => if c = '\n' then ['\r', '\n'] else [c]

theorem withReturns_append (first second : List Char) :
    withReturns (first ++ second) = withReturns first ++ withReturns second :=
  List.flatMap_append

theorem withReturns_of_single {line : List Char} (single : '\n' ∉ line) : withReturns line = line := by
  induction line with
  | nil => rfl
  | cons c line ih =>
    have other : c ≠ '\n' := by
      rintro rfl
      exact single List.mem_cons_self
    have later : '\n' ∉ line := fun mem => single (List.mem_cons_of_mem c mem)
    rw [withReturns, List.flatMap_cons, if_neg other]
    exact congrArg (c :: ·) (ih later)

/-- Every line keeps what stands in it and gets the other line end. -/
theorem IsLines.withReturns (h : IsLines text found) (plain : '\r' ∉ text) :
    IsLines (withReturns text) found := by
  induction h with
  | last single =>
    rw [withReturns_of_single single]
    exact .last single
  | @cons line rest found lineEnd single _ _ ih =>
    simp only [List.mem_append, not_or] at plain
    obtain ⟨-, ended, later⟩ := plain
    cases lineEnd with
    | returnFeed => exact absurd List.mem_cons_self ended
    | feed =>
      rw [withReturns_append, withReturns_append, withReturns_of_single single]
      exact .cons .returnFeed single (fun same => by cases same) (ih later)

theorem parse_append_feed (first second : String) (whole : first.toList.getLast? ≠ some '\r') :
    parse (first ++ "\n" ++ second) = parse first ++ parse second := by
  obtain ⟨found, lines⟩ := exists_isLines first.toList
  obtain ⟨found', lines'⟩ := exists_isLines second.toList
  have joined := (lines.append_feed lines' whole).ofLines_eq
  have text : (first ++ "\n" ++ second).toList = first.toList ++ '\n' :: second.toList := by
    simp
  rw [parse, text, ← joined, ofLines_append, lines.ofLines_eq, lines'.ofLines_eq]
  rfl

theorem parse_withReturns (text : String) (plain : '\r' ∉ text.toList) :
    parse (String.ofList (withReturns text.toList)) = parse text := by
  obtain ⟨found, lines⟩ := exists_isLines text.toList
  rw [parse, String.toList_ofList, ← (lines.withReturns plain).ofLines_eq, lines.ofLines_eq]
  rfl

/-- Examples of two texts with a line feed between them, and of a text with the other line ends. -/
theorem parse_join :
    (∀ first second : String, first.toList.getLast? ≠ some '\r' →
      (parse (first ++ "\n" ++ second)).positive = (parse first).positive ++ (parse second).positive ∧
      (parse (first ++ "\n" ++ second)).negative = (parse first).negative ++ (parse second).negative) ∧
    ∀ text : String, '\r' ∉ text.toList →
      parse (String.ofList (withReturns text.toList)) = parse text := by
  refine ⟨fun first second whole => ?_, parse_withReturns⟩
  rw [parse_append_feed first second whole]
  exact ⟨rfl, rfl⟩

/-- The first text has two line ends at its end, and an empty line at the seam. -/
theorem parse_join_closed :
    let first := "1 x\r\n\n"
    let second := "\té\n2 y"
    first.toList.getLast? ≠ some '\r' ∧
      (parse "1 x\r\n\n\n\té\n2 y").positive = ["1"] ++ ["2"] ∧
      (parse "1 x\r\n\n\n\té\n2 y").negative = ["x"] ++ ["é", "y"] ∧
      '\r' ∉ second.toList ∧ parse "\té\r\n2 y" = ⟨["2"], ["é", "y"]⟩ := by
  intro first second
  have whole : first.toList.getLast? ≠ some '\r' := by decide
  have plain : '\r' ∉ second.toList := by decide
  have firstRead : parse first = ⟨["1"], ["x"]⟩ := by decide
  have secondRead : parse second = ⟨["2"], ["é", "y"]⟩ := by decide
  have text : first ++ "\n" ++ second = "1 x\r\n\n\n\té\n2 y" := by decide
  have text' : String.ofList (withReturns second.toList) = "\té\r\n2 y" := by decide
  obtain ⟨positive, negative⟩ := parse_join.1 first second whole
  have ended := parse_join.2 second plain
  rw [text, firstRead, secondRead] at positive negative
  rw [text', secondRead] at ended
  exact ⟨whole, positive, negative, plain, ended⟩

/-- A carriage return at the end of a text is a blank, and before a line feed it is none. -/
example : parse "1 x\r" = ⟨["1"], []⟩ ∧ parse "1 x\r\n" = ⟨["1"], ["x"]⟩ := by decide

end PatternSearch.Examples
