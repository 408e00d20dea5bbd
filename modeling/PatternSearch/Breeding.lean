import PatternSearch.Settings
/-! # Seeding and breeding

The first generation tries every selection from the seeds. A sequence of fragments has children that
are extended by one fragment, and children in which one repetition is pinned to a count. -/
namespace PatternSearch

/-- Every selection from a list, in its order: all of it first, nothing last, and those with the last
member before those without it. -/
def selections {α : Type} (items : List α) : List (List α) :=
  items.foldl (fun found item => found.map (· ++ [item]) ++ found) [[]]

/-- The ways to breed children. -/
structure Breeding where
  extensions : List Fragment
  maxCount : Nat
  deriving DecidableEq

def Settings.breeding (settings : Settings) : Breeding :=
  ⟨settings.extensions, settings.maxCount⟩

namespace Breeding

def extended (breeding : Breeding) (parent : List Fragment) : List (List Fragment) :=
  breeding.extensions.map fun fragment => parent ++ [fragment]

/-- The fragment with its repetition pinned to each count. -/
def pinned (breeding : Breeding) (fragment : Fragment) : List Fragment :=
  (List.range (breeding.maxCount + 1)).filterMap fragment.pin?

/-- One repetition is pinned at a time, from the first to the last. -/
def pin (breeding : Breeding) : List Fragment → List (List Fragment)
  | [] => []
  | fragment :: rest =>
    (breeding.pinned fragment).map (· :: rest) ++ (breeding.pin rest).map (fragment :: ·)

def children (breeding : Breeding) (parent : List Fragment) : List (List Fragment) :=
  breeding.extended parent ++ breeding.pin parent

end Breeding

example : selections [1, 2] = [[1, 2], [2], [1], []] := by decide

end PatternSearch
