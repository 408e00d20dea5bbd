import PatternSearch.Fragment
import PatternSearch.Number.Binary64
import PatternSearch.Pattern
/-! # Candidates

A candidate is a sequence of fragments with its place in the search and, once it is evaluated, its
score and its pattern. -/
namespace PatternSearch

structure Candidate where
  id : Nat
  fragments : List Fragment
  generation : Nat
  parent : Option Nat := none
  /-- The score as a whole number, and before rounding. -/
  score : Int := 0
  raw : Binary64 := .zero
  /-- The pattern that a text has to match as a whole; known once the candidate is evaluated. -/
  whole : Option Pattern := none
  deriving DecidableEq

/-- The text of the pattern that matches whole texts: the text of the fragments between the signs for
the start and the end. -/
def anchored (body : String) : String := String.ofList ('^' :: body.toList ++ ['$'])

namespace Candidate

def body (c : Candidate) : String := Fragment.join c.fragments

def isEvaluated (c : Candidate) : Bool := c.whole.isSome

/-- Text of the pattern for whole texts. -/
def wholeSource (c : Candidate) : String :=
  match c.whole with
  | some pattern => pattern.source
  | none => anchored c.body

/-- Generations are counted in 64 bits: zero follows on the last one. -/
def nextGeneration (generation : Nat) : Nat := (generation + 1) % UInt64.size

/-- A new candidate of the next generation. -/
def child (parent : Candidate) (id : Nat) (fragments : List Fragment) : Candidate :=
  { id, fragments, generation := nextGeneration parent.generation, parent := some parent.id }

end Candidate

end PatternSearch
