import PatternSearch.Candidate
import PatternSearch.Event
/-! # Reports and outcomes

What a search tells: a report on each candidate that it scored, and the outcome at its end. -/
namespace PatternSearch

structure Report where
  generation : Nat
  candidate : Nat
  score : Int
  raw : Binary64
  pattern : String
  deriving DecidableEq

def Candidate.report (c : Candidate) (generation : Nat) : Report :=
  ⟨generation, c.id, c.score, c.raw, c.wholeSource⟩

/-- A candidate without its compiled pattern. -/
structure Snapshot where
  id : Nat
  generation : Nat
  parent : Option Nat
  fragments : List Fragment
  score : Int
  raw : Binary64
  pattern : String
  deriving DecidableEq

def Candidate.snapshot (c : Candidate) : Snapshot :=
  ⟨c.id, c.generation, c.parent, c.fragments, c.score, c.raw, c.wholeSource⟩

/-- Counts of a search. A search keeps no clock; whoever runs it may fill in the seconds. -/
structure Tally where
  generations : Nat := 0
  evaluations : Nat := 0
  failures : Nat := 0
  seconds : Binary64 := .zero
  deriving DecidableEq

structure Outcome where
  ending : Ending
  best : Snapshot
  tally : Tally
  deriving DecidableEq

def Outcome.isSolved (outcome : Outcome) : Bool := outcome.ending == .solved

end PatternSearch
