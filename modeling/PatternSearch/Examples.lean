import PatternSearch.Text.Blank
import PatternSearch.Text.Line
/-! # Examples

Positive examples are texts that a pattern has to match as a whole, negative examples are texts that
it must not match. A file of examples has up to two columns, a positive example and a negative one;
a line that starts with a blank has a negative example alone. -/
namespace PatternSearch
open Text

structure Examples where
  positive : List String := []
  negative : List String := []
  deriving DecidableEq, Inhabited

/-- The columns of a line after `column`, which is held backwards; `inGap` says that the last
character was a blank. A blank at either end of the line makes an empty column there. -/
def columnsFrom (inGap : Bool) (column : List Char) : List Char → List (List Char)
  | [] => [column.reverse]
  | c :: rest =>
    if isBlank c then
      if inGap then columnsFrom true column rest
      else column.reverse :: columnsFrom true [] rest
    else columnsFrom false (c :: column) rest

def columns (line : List Char) : List (List Char) := columnsFrom false [] line

namespace Examples

/-- An example, unless its column is empty. -/
def ofColumn (column : List Char) : List String :=
  if column.isEmpty then [] else [String.ofList column]

/-- What a line adds. With any number of columns but two, only the first one counts. -/
def ofLine (line : List Char) : Examples :=
  match columns line with
  | [positive, negative] => ⟨ofColumn positive, ofColumn negative⟩
  | positive :: _ => ⟨ofColumn positive, []⟩
  | [] => {}

def append (a b : Examples) : Examples := ⟨a.positive ++ b.positive, a.negative ++ b.negative⟩

instance : Append Examples := ⟨append⟩

def ofLines (lines : List (List Char)) : Examples :=
  ⟨lines.flatMap fun line => (ofLine line).positive, lines.flatMap fun line => (ofLine line).negative⟩

def parse (text : String) : Examples := ofLines (lines text.toList)

def count (examples : Examples) : Nat := examples.positive.length + examples.negative.length

def isEmpty (examples : Examples) : Bool := examples.positive.isEmpty && examples.negative.isEmpty

/-- The score of a pattern that matches every positive example and no negative one. -/
def goal (examples : Examples) : Int := examples.positive.length

example : parse "a b\n c\nd e f\ng \n" = ⟨["a", "d", "g"], ["b", "c"]⟩ := by decide

end Examples

end PatternSearch
