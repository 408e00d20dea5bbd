import PatternSearch.Unicode.CategoryTable
import PatternSearch.Unicode.CharSet
import PatternSearch.Unicode.Spans
/-! # General categories of characters -/
namespace PatternSearch.Unicode

inductive Category where
  | lu | ll | lt | lm | lo
  | mn | mc | me
  | nd | nl | no
  | pc | pd | ps | pe | pi | pf | po
  | sm | sc | sk | so
  | zs | zl | zp
  | cc | cf | cs | co | cn
  deriving DecidableEq, Inhabited

namespace Category

/-- The two-letter code of each category, with its long names in lower case. -/
def names : Category → List String
  | .lu => ["lu", "uppercaseletter"]
  | .ll => ["ll", "lowercaseletter"]
  | .lt => ["lt", "titlecaseletter"]
  | .lm => ["lm", "modifierletter"]
  | .lo => ["lo", "otherletter"]
  | .mn => ["mn", "nonspacingmark"]
  | .mc => ["mc", "spacingmark"]
  | .me => ["me", "enclosingmark"]
  | .nd => ["nd", "decimalnumber", "digit"]
  | .nl => ["nl", "letternumber"]
  | .no => ["no", "othernumber"]
  | .pc => ["pc", "connectorpunctuation"]
  | .pd => ["pd", "dashpunctuation"]
  | .ps => ["ps", "openpunctuation"]
  | .pe => ["pe", "closepunctuation"]
  | .pi => ["pi", "initialpunctuation"]
  | .pf => ["pf", "finalpunctuation"]
  | .po => ["po", "otherpunctuation"]
  | .sm => ["sm", "mathsymbol"]
  | .sc => ["sc", "currencysymbol"]
  | .sk => ["sk", "modifiersymbol"]
  | .so => ["so", "othersymbol"]
  | .zs => ["zs", "spaceseparator"]
  | .zl => ["zl", "lineseparator"]
  | .zp => ["zp", "paragraphseparator"]
  | .cc => ["cc", "control", "cntrl"]
  | .cf => ["cf", "format"]
  | .cs => ["cs", "surrogate"]
  | .co => ["co", "privateuse"]
  | .cn => ["cn", "unassigned"]

def letters : List Category := [.lu, .ll, .lt, .lm, .lo]
def marks : List Category := [.mn, .mc, .me]
def numbers : List Category := [.nd, .nl, .no]
def punctuation : List Category := [.pc, .pd, .ps, .pe, .pi, .pf, .po]
def symbols : List Category := [.sm, .sc, .sk, .so]
def separators : List Category := [.zs, .zl, .zp]
def others : List Category := [.cc, .cf, .cs, .co, .cn]

def all : List Category :=
  letters ++ marks ++ numbers ++ punctuation ++ symbols ++ separators ++ others

/-- Names of unions of categories. -/
def groups : List (List String × List Category) :=
  [(["l", "letter"], letters), (["lc", "casedletter"], [.lu, .ll, .lt]),
   (["m", "mark", "combiningmark"], marks), (["n", "number"], numbers),
   (["p", "punctuation", "punct"], punctuation), (["s", "symbol"], symbols),
   (["z", "separator"], separators), (["c", "other"], others)]

/-- The categories that a name in lower case stands for. No character is a surrogate. -/
def named? (name : String) : Option (List Category) :=
  match groups.find? fun group => group.1.contains name with
  | some group => some group.2
  | none =>
    (all.find? fun category => category.names.contains name && category != .cs).map ([·])

def ofCode (code : List Char) : Category :=
  let name := String.ofList (code.map Char.toLower)
  (all.find? fun category => category.names.contains name).getD .cn

/-- An entry of the table: the code point where the category starts. -/
def entryOfWord (chars : List Char) : Nat × Category :=
  let digits := chars.takeWhile fun c => !('A' ≤ c && c ≤ 'Z')
  (hexOf digits, ofCode (chars.drop digits.length))

def table : Array (Nat × Category) := ((words categoryLines).map entryOfWord).toArray

/-- The entry with the greatest start up to `n` among those in the window. -/
def search (table : Array (Nat × Category)) (n lo hi : Nat) (bound : hi ≤ table.size)
    (best : Category) : Category :=
  if h : lo < hi then
    let mid := lo + (hi - lo) / 2
    have : mid < table.size := by omega
    if n < table[mid].1 then search table n lo mid (by omega) best
    else search table n (mid + 1) hi bound table[mid].2
  else best
termination_by hi - lo

/-- The spans of code points with a category of their own each. -/
def runs : List (Nat × Nat × Category) :=
  let starts := table.toList
  starts.zipWith (fun (first, category) next => (first, next - 1, category))
    ((starts.drop 1).map (·.1) ++ [0x110000])

/-- All characters of some categories. -/
def set (members : List Category) : CharSet :=
  .ofCodePoints <| runs.filterMap fun (first, last, category) =>
    if members.contains category then some (first, last) else none

end Category

def category (c : Char) : Category :=
  Category.search Category.table c.toNat 0 Category.table.size (Nat.le_refl _) .cn

end PatternSearch.Unicode
