import PatternSearch.Text.Width
/-! # Fragments

A pattern is put together from fragments, pieces of text that are written one after the other. The
first plus sign of a fragment, unless it stands at the very start, is taken for a repetition that
can be pinned to an exact count. -/
namespace PatternSearch

structure Fragment where
  source : String
  deriving DecidableEq, Inhabited

namespace Fragment

def isEmpty (fragment : Fragment) : Bool := fragment.source.toList.isEmpty

/-- The text before and after the repetition. -/
def parts? (fragment : Fragment) : Option (List Char × List Char) :=
  match fragment.source.toList.takeWhile (· != '+'), fragment.source.toList.dropWhile (· != '+') with
  | c :: before, _ :: after => some (c :: before, after)
  | _, _ => none

/-- Byte offset of the repetition. -/
def marker? (fragment : Fragment) : Option Nat :=
  fragment.parts?.map fun (before, _) => Text.byteWidth before

/-- A count in braces. -/
def exactly (count : Nat) : List Char := '{' :: Nat.toDigits 10 count ++ ['}']

/-- The fragment with an exact count in place of the repetition. -/
def pin? (fragment : Fragment) (count : Nat) : Option Fragment :=
  fragment.parts?.map fun (before, after) => ⟨String.ofList (before ++ exactly count ++ after)⟩

/-- Fragments written one after the other. -/
def join (fragments : List Fragment) : String :=
  String.ofList (fragments.flatMap (·.source.toList))

/-- Pins one repetition after the other, with the counts 0, 1, 2 and so on, until none is left. A
fragment has no more repetitions than characters. -/
def chain (fragment : Fragment) : List Fragment :=
  go (fragment.source.length + 1) 0 fragment
where
  go : (fuel count : Nat) → Fragment → List Fragment
    | 0, _, _ => []
    | fuel + 1, count, fragment =>
      match fragment.pin? count with
      | none => []
      | some next => next :: go fuel (count + 1) next

example : (Fragment.mk "a+b+").pin? 12 = some ⟨"a\x7b12\x7db+"⟩ := by decide
example : (Fragment.mk "é+").marker? = some 2 ∧ (Fragment.mk "+a+").marker? = none := by decide

end Fragment

end PatternSearch
