import PatternSearch.Unicode.Category
import PatternSearch.Unicode.Property
import PatternSearch.Unicode.ShapeTable
/-! # What a character looks like

Names of groups and quoted text tell letters and printable characters from others. They know the
newest characters, which the properties of patterns do not. -/
namespace PatternSearch.Unicode

def alphabeticTable : SpanTable := .ofLines alphabeticLines
def newestTable : SpanTable := .ofLines newestLines
def newestLetterTable : SpanTable := .ofLines newestLetterLines
def newestNumberTable : SpanTable := .ofLines newestNumberLines
def extenderTable : SpanTable := .ofLines extenderLines

def isLetter (c : Char) : Bool := alphabeticTable.contains c || newestLetterTable.contains c

def isNumber (c : Char) : Bool :=
  Category.numbers.contains (category c) || newestNumberTable.contains c

/-- The character joins the one before it. -/
def isExtender (c : Char) : Bool := extenderTable.contains c

/-- Letters that leave no mark: they fill a place in a Hangul syllable. -/
def isFiller (c : Char) : Bool :=
  c == '\u115F' || c == '\u1160' || c == '\u3164' || c == '\uFFA0'

/-- The character has a shape of its own on a page: not a filler, a control, a separator or a code
point without meaning. The plain space counts as printable. -/
def isPrintable (c : Char) : Bool :=
  c == ' ' || newestTable.contains c ||
    !(isFiller c || (Category.others ++ Category.separators).contains (category c))

end PatternSearch.Unicode
