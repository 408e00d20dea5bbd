import PatternSearch.Candidate
/-! # Ranking

Candidates with higher scores come first, and candidates with equal scores keep their order. -/
namespace PatternSearch

def ranked (candidates : List Candidate) : List Candidate :=
  candidates.mergeSort fun a b => b.score ≤ a.score

/-- The first candidates of the ranking. -/
def selected (candidates : List Candidate) (count : Nat) : List Candidate :=
  (ranked candidates).take count

/-- The better of two candidates; the first one if their scores are equal. -/
def better (a b : Candidate) : Candidate := if a.score < b.score then b else a

/-- The earliest candidate with the highest score. -/
def best? : List Candidate → Option Candidate
  | [] => none
  | first :: rest => some (rest.foldl better first)

end PatternSearch
