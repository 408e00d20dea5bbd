import PatternSearch.Text.Digits
import PatternSearch.Text.Split
/-! # Spans of code points

A table is written as words such as `30-39` or `5f`, in hexadecimal and ascending order, and is
searched by halving. -/
namespace PatternSearch.Unicode

def hexOf (digits : List Char) : Nat := (Text.hexNumber? digits).getD 0

def words (lines : List String) : List (List Char) :=
  lines.flatMap fun line => Text.splitOn ' ' line.toList

/-- The span that a word stands for, both ends included. -/
def spanOfWord (word : List Char) : Nat × Nat :=
  match Text.splitOn '-' word with
  | [lo, hi] => (hexOf lo, hexOf hi)
  | _ => (hexOf word, hexOf word)

def spansOfLines (lines : List String) : List (Nat × Nat) := (words lines).map spanOfWord

abbrev SpanTable := Array (Nat × Nat)

namespace SpanTable

def ofLines (lines : List String) : SpanTable := (spansOfLines lines).toArray

def search (table : SpanTable) (n lo hi : Nat) (bound : hi ≤ table.size) : Bool :=
  if h : lo < hi then
    let mid := lo + (hi - lo) / 2
    have : mid < table.size := by omega
    if n < table[mid].1 then search table n lo mid (by omega)
    else if table[mid].2 < n then search table n (mid + 1) hi bound
    else true
  else false
termination_by hi - lo

def contains (table : SpanTable) (c : Char) : Bool :=
  search table c.toNat 0 table.size (Nat.le_refl _)

end SpanTable

end PatternSearch.Unicode
