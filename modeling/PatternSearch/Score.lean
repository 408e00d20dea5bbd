import PatternSearch.Candidate
import PatternSearch.Event
import PatternSearch.Examples
/-! # Scores

A candidate earns one for a positive example that its pattern matches as a whole, and a share of one
for the part of it that it matches otherwise. It loses one for each negative example that it matches
as a whole. The sum is rounded to a whole number. -/
namespace PatternSearch
open Text

/-- The two patterns of a sequence of fragments: one for whole texts and one for parts of them. -/
structure Matcher where
  whole : Pattern
  part : Pattern
  deriving DecidableEq

namespace Matcher

def compile (fragments : List Fragment) : Except Rejection Matcher := do
  let body := Fragment.join fragments
  let part ← Pattern.compile body
  let whole ← Pattern.compile (anchored body)
  return { whole, part }

/-- The pattern that is refused, for fragments that are not accepted: the one for parts is read
first. -/
def refused (fragments : List Fragment) : String :=
  let body := Fragment.join fragments
  match Pattern.compile body with
  | .error _ => body
  | .ok _ => anchored body

/-- Accepted fragments have two accepted patterns. -/
theorem compiled_of_compile {fragments : List Fragment} {m : Matcher}
    (h : compile fragments = .ok m) :
    Pattern.compile (Fragment.join fragments) = .ok m.part ∧
      Pattern.compile (anchored (Fragment.join fragments)) = .ok m.whole := by
  simp only [compile, bind, Except.bind] at h
  split at h
  · cases h
  · next part compiled =>
    split at h
    · cases h
    · next whole compiled' =>
      cases h
      exact ⟨compiled, compiled'⟩

/-- The pattern that is said to be refused is refused, and for the same reason. -/
theorem compile_refused {fragments : List Fragment} {rejection : Rejection}
    (h : compile fragments = .error rejection) :
    Pattern.compile (refused fragments) = .error rejection := by
  simp only [compile, bind, Except.bind] at h
  split at h
  · next failed =>
    cases h
    simp only [refused, failed]
  · next part compiled =>
    split at h
    · next failed =>
      cases h
      simp only [refused, compiled, failed]
    · cases h

/-- What a positive example earns. The first match in it counts, in units of UTF-16. -/
def credit (m : Matcher) (text : String) : Binary64 :=
  if m.whole.isMatch text then .ofNat 1
  else
    let width := unitWidth text.toList
    if width = 0 then .zero
    else match m.part.find text with
      | some found => .ofNat (unitWidth found.taken) / .ofNat width
      | none => .zero

/-- What a negative example costs. -/
def penalty (m : Matcher) (text : String) : Binary64 :=
  if m.whole.isMatch text then -.ofNat 1 else .zero

/-- Credits and penalties are added up apart, each from left to right. -/
def score (m : Matcher) (examples : Examples) : Binary64 :=
  Binary64.sum (examples.positive.map m.credit) + Binary64.sum (examples.negative.map m.penalty)

/-- One event for each negative example that is matched. -/
def failures (m : Matcher) (examples : Examples) : List Event :=
  (examples.negative.filter m.whole.isMatch).map (.matchedFailure m.whole.source)

end Matcher

namespace Candidate

/-- The candidate with the score and the pattern of a matcher. -/
def scoredBy (c : Candidate) (m : Matcher) (examples : Examples) : Candidate :=
  let raw := m.score examples
  { c with score := raw.roundHalfUp, raw, whole := some m.whole }

def evaluate (c : Candidate) (examples : Examples) : Except Rejection Candidate :=
  (Matcher.compile c.fragments).map fun m => c.scoredBy m examples

/-- What evaluating a candidate comes to: the scored candidate, if its patterns are accepted, and
what happened on the way. -/
def judge (c : Candidate) (examples : Examples) : Option Candidate × List Event :=
  match Matcher.compile c.fragments with
  | .ok m => (some (c.scoredBy m examples), m.failures examples)
  | .error rejection =>
    (none, [.dropped c.wholeSource (Matcher.refused c.fragments) rejection])

end Candidate

/-- What evaluating a population comes to. -/
structure Evaluation where
  /-- The scored candidates, in the order of the population. -/
  survivors : List Candidate
  /-- How many candidates were dropped. -/
  failures : Nat
  events : List Event
  deriving DecidableEq

def evaluateAll (examples : Examples) (population : List Candidate) : Evaluation :=
  let verdicts := population.map (·.judge examples)
  { survivors := verdicts.filterMap (·.1)
    failures := verdicts.countP (·.1.isNone)
    events := verdicts.flatMap (·.2) }

end PatternSearch
