import PatternSearch.Text.Blank
import PatternSearch.Unicode.Category
import PatternSearch.Unicode.LetterTable
import PatternSearch.Unicode.ScriptTable
/-! # Properties of characters

The sets that a pattern may name, and their lookup by a written name. General categories and scripts
are all here. Of the properties that a character has or lacks there are Alphabetic, Uppercase, Lowercase
and White_Space. The others, such as Emoji, Math, Cased and XID_Start, are not covered, nor are Age,
Script_Extensions and the break properties of graphemes, words and sentences: a pattern that names
one of them is refused here, as one that names no property is. -/
namespace PatternSearch.Unicode

def asciiSet : CharSet := .span '\x00' '\x7F'
def alphabeticSet : CharSet := .ofCodePoints (spansOfLines alphabeticLines)
def blankSet : CharSet := .ofSpans
  [('\t', '\r'), (' ', ' '), ('\u0085', '\u0085'), ('\u00A0', '\u00A0'), ('\u1680', '\u1680'),
   ('\u2000', '\u200A'), ('\u2028', '\u2029'), ('\u202F', '\u202F'), ('\u205F', '\u205F'),
   ('\u3000', '\u3000')]

/-- Decimal digits of every script. -/
def digitSet : CharSet := Category.set [.nd]

/-- Letters, marks, decimal digits, connectors and the two joiners. -/
def wordSet : CharSet :=
  ((Category.set (Category.marks ++ [.nd, .pc])).union alphabeticSet).union
    (.span '\u200C' '\u200D')

def asciiWordSet : CharSet := .ofSpans [('0', '9'), ('A', 'Z'), ('_', '_'), ('a', 'z')]

/-- The word characters, for quick search. -/
def wordTable : SpanTable := (wordSet.spans.map fun span => (span.lo.toNat, span.hi.toNat)).toArray

def isAsciiWord (c : Char) : Bool := asciiWordSet.contains c

def isWord (c : Char) : Bool :=
  if c.toNat < 0x80 then isAsciiWord c else wordTable.contains c

example : ['\t', '\u0085', '\u2005', '\u3000'].all blankSet.contains = true ∧
    (blankSet.spans.all fun span => Text.isBlank span.lo && Text.isBlank span.hi) = true := by decide

namespace Property

/-- Names are compared in lower case, without separators and without a leading `is`. -/
def plainName (name : List Char) : String :=
  let tail := match name with
    | a :: b :: rest => if a.toLower = 'i' && b.toLower = 's' then rest else name
    | _ => name
  let kept := (tail.filter fun c => !(c = ' ' || c = '_' || c = '-') && c.toNat < 0x80).map
    Char.toLower
  if tail.length < name.length && kept == ['c'] then "isc" else String.ofList kept

/-- The characters of some general categories. -/
def ofCategoryName? (name : String) : Option CharSet :=
  match name with
  | "any" => some .everything
  | "assigned" => some (Category.set (Category.all.filter (· ≠ .cn)))
  | "ascii" => some asciiSet
  | _ => (Category.named? name).map Category.set

def ofScriptName? (name : String) : Option CharSet :=
  (scriptRows.find? fun row => row.names.contains name).map fun row =>
    .ofCodePoints (spansOfLines row.lines)

/-- The property written with a single name, as in `\p{Greek}`. Names outside the tables, such as
`Emoji`, `Math`, `Cased` and `XID_Start`, have none. -/
def named? (name : List Char) : Option CharSet :=
  let name := plainName name
  match name with
  | "alphabetic" | "alpha" => some alphabeticSet
  | "uppercase" | "upper" => some (.ofCodePoints (spansOfLines uppercaseLines))
  | "lowercase" | "lower" => some (.ofCodePoints (spansOfLines lowercaseLines))
  | "whitespace" | "wspace" | "space" => some blankSet
  | _ => (ofCategoryName? name).orElse fun _ => ofScriptName? name

/-- The property written with a kind and a value, as in `\p{Script=Greek}`. The kinds `Age`,
`Script_Extensions`, `Grapheme_Cluster_Break`, `Word_Break` and `Sentence_Break` are not covered. -/
def valued? (kind value : List Char) : Option CharSet :=
  match plainName kind with
  | "generalcategory" | "gc" => ofCategoryName? (plainName value)
  | "script" | "sc" => ofScriptName? (plainName value)
  | _ => none

end Property

end PatternSearch.Unicode
