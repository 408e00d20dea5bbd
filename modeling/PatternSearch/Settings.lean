import PatternSearch.Fragment
/-! # Settings of a search

The vocabularies of fragments span what a search looks at, and the numbers bound its work. -/
namespace PatternSearch

structure Settings where
  /-- The first patterns are put together from these. -/
  seeds : List Fragment := [⟨"\\d+"⟩, ⟨"\\w+"⟩]
  /-- A pattern that is kept is extended by these. -/
  extensions : List Fragment := [⟨"[-]"⟩, ⟨"\\d+"⟩]
  /-- The largest count that a repetition is pinned to. -/
  maxCount : Nat := 3
  maxGenerations : Nat := 10
  /-- How many patterns of a generation are kept. -/
  keep : Nat := 5
  deriving DecidableEq, Inhabited

/-- The two vocabularies. -/
inductive Vocabulary where
  | seed
  | extension
  deriving DecidableEq

def Vocabulary.name : Vocabulary → String
  | seed => "seed"
  | extension => "extension"

/-- What can be wrong with settings. -/
inductive Defect where
  | noGenerations
  | noSurvivors
  | tooManySeeds (count : Nat)
  | countTooLarge (count : Nat)
  | emptyFragment (vocabulary : Vocabulary) (index : Nat)
  deriving DecidableEq

namespace Settings

/-- The first generation has a candidate for every subset of the seeds. -/
def maxSeeds : Nat := 16

def maxMaxCount : Nat := 64

def emptyIn? (vocabulary : Vocabulary) (fragments : List Fragment) : Option Defect :=
  (fragments.findIdx? (·.isEmpty)).map (.emptyFragment vocabulary)

/-- The first defect, in the order of the checks. -/
def defect? (settings : Settings) : Option Defect :=
  if settings.maxGenerations = 0 then some .noGenerations
  else if settings.keep = 0 then some .noSurvivors
  else if maxSeeds < settings.seeds.length then some (.tooManySeeds settings.seeds.length)
  else if maxMaxCount < settings.maxCount then some (.countTooLarge settings.maxCount)
  else (emptyIn? .seed settings.seeds).or (emptyIn? .extension settings.extensions)

end Settings

def Defect.message : Defect → String
  | noGenerations => "Generation budget must be at least 1"
  | noSurvivors => "Survivor count must be at least 1"
  | tooManySeeds count =>
    s!"Seed vocabulary has {count} fragments, at most {Settings.maxSeeds} are allowed"
  | countTooLarge count =>
    s!"Specialization bound {count} exceeds the maximum of {Settings.maxMaxCount}"
  | emptyFragment vocabulary index =>
    s!"Fragment {index} of the {vocabulary.name} vocabulary is empty"

example : ({ seeds := [⟨"a"⟩, ⟨""⟩] } : Settings).defect? = some (.emptyFragment .seed 1) := by
  decide

end PatternSearch
