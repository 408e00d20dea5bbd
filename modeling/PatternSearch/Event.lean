import PatternSearch.Pattern
import PatternSearch.Text.Quoted
/-! # Events

What happens during a search is recorded as events. Each has a level, belongs to a part of the
program and reads as one message. The words for the refusal of a pattern are not the program's own:
they come from the library that reads patterns, and are given from outside. -/
namespace PatternSearch

inductive Level where
  | error
  | warn
  | info
  | debug
  | trace
  deriving DecidableEq, Ord

namespace Level

def name : Level → String
  | error => "ERROR"
  | warn => "WARN"
  | info => "INFO"
  | debug => "DEBUG"
  | trace => "TRACE"

/-- Coarse levels come first. -/
def rank : Level → Nat
  | error => 1
  | warn => 2
  | info => 3
  | debug => 4
  | trace => 5

end Level

/-- Why a search ends with a result. -/
inductive Ending where
  | solved
  | timedOut
  deriving DecidableEq

def Ending.name : Ending → String
  | solved => "Solved"
  | timedOut => "TimedOut"

/-- The words for the refusal of a pattern, given the text of the pattern. -/
abbrev Wording := String → Rejection → String

inductive Event where
  | noExamples (path : String)
  /-- A candidate was dropped because one of its patterns was refused. -/
  | dropped (source refused : String) (rejection : Rejection)
  /-- A pattern matched a negative example. -/
  | matchedFailure (source text : String)
  | scored (score : Int) (source : String)
  | summary (generation candidates : Nat) (score perfect : Int) (source : String)
  | promoted (survivors children : Nat)
  | stopped (ending : Ending) (generations : Nat) (source : String)
  deriving DecidableEq

namespace Event

def level : Event → Level
  | noExamples _ | dropped .. => .warn
  | summary .. | stopped .. => .info
  | matchedFailure .. | scored .. | promoted .. => .debug

/-- The part of the program that an event belongs to. -/
def target : Event → String
  | noExamples _ => "regex_synth"
  | dropped .. | matchedFailure .. => "regex_synth::search::fitness"
  | scored .. | summary .. | promoted .. | stopped .. => "regex_synth::search::engine"

/-- The text of an event. Without a wording, a message about a refusal stops where its words would
begin. -/
def message (event : Event) (wording : Option Wording := none) : String :=
  match event with
  | noExamples path => s!"No examples found in {path}"
  | dropped source refused rejection =>
    match wording with
    | some words => s!"Dropping candidate {source}: {words refused rejection}"
    | none => s!"Dropping candidate {source}"
  | matchedFailure source text => s!"Matched failure {source} on {Text.quoted text}"
  | scored score source => s!"{score} {source}"
  | summary generation candidates score perfect source =>
    s!"Generation {generation}: {candidates} candidates, best score {score}/{perfect} ({source})"
  | promoted survivors children =>
    s!"Promoted {survivors} survivors into {children} candidates"
  | stopped ending generations source =>
    s!"Search stopped ({ending.name}) after {generations} generations: {source}"

end Event

end PatternSearch
