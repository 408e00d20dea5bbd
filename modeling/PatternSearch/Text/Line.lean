/-! # Lines of a text

A line feed ends a line, and one carriage return just before it belongs to the line end. What
stands after the last line feed is a line of its own unless it is empty; a carriage return at the
very end of the text stays. -/
namespace PatternSearch.Text

/-- Drop one carriage return, on a line held backwards. -/
def dropReturn : List Char → List Char
  | '\r' :: rest => rest
  | line => line

/-- Lines of the remaining text, after the part of the current line in `line` (backwards). -/
def linesFrom (line : List Char) : List Char → List (List Char)
  | [] => if line.isEmpty then [] else [line.reverse]
  | c :: rest =>
    if c = '\n' then (dropReturn line).reverse :: linesFrom [] rest
    else linesFrom (c :: line) rest

def lines (text : List Char) : List (List Char) := linesFrom [] text

example : lines "a\r\n\nb\r".toList = ["a".toList, [], "b\r".toList] := by decide
example : lines "".toList = [] ∧ lines "\n".toList = [[]] := by decide

end PatternSearch.Text
