import PatternSearch.Unicode.CharSet
import PatternSearch.Unicode.FoldTable
import PatternSearch.Unicode.Spans
/-! # Simple case folding

Two characters differ in case only if they fold to the same character. -/
namespace PatternSearch.Unicode

/-- Every `step`-th character from `lo` to `hi` folds to the one `shift` further on. -/
structure FoldRule where
  lo : Nat
  hi : Nat
  step : Nat
  shift : Int

namespace FoldRule

/-- Reads a word such as `41-5a/1+32`. -/
def ofWord (chars : List Char) : FoldRule :=
  let lo := chars.takeWhile (· ≠ '-')
  let rest := chars.drop (lo.length + 1)
  let hi := rest.takeWhile (· ≠ '/')
  let rest := rest.drop (hi.length + 1)
  let step := rest.takeWhile Text.isDecimal
  let amount := (Text.decimalNumber (rest.drop (step.length + 1)) : Int)
  { lo := hexOf lo, hi := hexOf hi
    step := Text.decimalNumber step
    shift := if rest[step.length]? = some '-' then -amount else amount }

def covers (rule : FoldRule) (n : Nat) : Bool :=
  rule.lo ≤ n && n ≤ rule.hi && (n - rule.lo) % rule.step == 0

/-- The characters that the rule folds, each with what it folds to. -/
def pairs (rule : FoldRule) : List (Char × Char) :=
  (List.range ((rule.hi - rule.lo) / rule.step + 1)).map fun k =>
    let n := rule.lo + k * rule.step
    (Char.ofNat n, Char.ofNat (n + rule.shift).toNat)

end FoldRule

def foldRules : List FoldRule := (words foldLines).map FoldRule.ofWord

def fold (c : Char) : Char :=
  match foldRules.find? (·.covers c.toNat) with
  | some rule => Char.ofNat (c.toNat + rule.shift).toNat
  | none => c

/-- All characters that fold to the same character as `c`. -/
def foldOrbit (c : Char) : List Char :=
  let target := fold c
  target :: foldRules.filterMap fun rule =>
    let n := ((target.toNat : Int) - rule.shift).toNat
    if rule.covers n then some (Char.ofNat n) else none

/-- The characters that have another case, each with all characters that differ from it in case
alone. -/
def caseMates : List (Char × List Char) :=
  let pairs := foldRules.flatMap FoldRule.pairs
  pairs.flatMap fun (source, target) =>
    [(source, foldOrbit source), (target, foldOrbit target)]

/-- The other case of a letter of ASCII. -/
def otherCase (c : Char) : Char := if c.isUpper then c.toLower else c.toUpper

namespace CharSet

/-- The set with what differs from a member in case alone. -/
def folded (s : CharSet) : CharSet :=
  let mates := (caseMates.filter fun (c, _) => s.contains c).flatMap (·.2)
  s.insertAll ((mates.filter (!s.contains ·)).map .single)

/-- As `folded`, for the letters of ASCII alone. -/
def foldedAscii (s : CharSet) : CharSet :=
  let mates := ("ABCDEFGHIJKLMNOPQRSTUVWXYZabcdefghijklmnopqrstuvwxyz".toList.filter
    s.contains).map otherCase
  s.insertAll (mates.map .single)

end CharSet

end PatternSearch.Unicode
