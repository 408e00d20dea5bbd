/-! # Splitting a text at a mark -/
namespace PatternSearch.Text

/-- The parts of a text between the marks in it; one part more than there are marks. -/
def splitOn (mark : Char) : List Char → List (List Char)
  | [] => [[]]
  | c :: rest =>
    if c = mark then [] :: splitOn mark rest
    else match splitOn mark rest with
      | part :: parts => (c :: part) :: parts
      | [] => [[c]]

example : splitOn ',' ",ab,".toList = [[], ['a', 'b'], []] := by decide

end PatternSearch.Text
