import PatternSearch.Event
import PatternSearch.Pattern
import PatternSearch.Text.Split
/-! # Filters for events

A filter says which events are shown. It is written as directives with commas between them: a level
for everything, a part of the program, or a part and a level with an equals sign. After a slash a
pattern may follow that the message has to match. -/
namespace PatternSearch
open Text

/-- The coarsest levels up to a rank are shown, for targets that start with a name. -/
structure Directive where
  target : Option String
  rank : Nat
  deriving DecidableEq

structure LogFilter where
  directives : List Directive := [⟨none, Level.error.rank⟩]
  message : Option Pattern := none
  deriving DecidableEq

namespace LogFilter

def trim (text : List Char) : List Char :=
  ((text.dropWhile isBlank).reverse.dropWhile isBlank).reverse

/-- The rank of a level by its name, in either case. -/
def rank? (name : List Char) : Option Nat :=
  match String.ofList (name.map Char.toUpper) with
  | "OFF" => some 0
  | "ERROR" => some Level.error.rank
  | "WARN" => some Level.warn.rank
  | "INFO" => some Level.info.rank
  | "DEBUG" => some Level.debug.rank
  | "TRACE" => some Level.trace.rank
  | _ => none

/-- A complaint about a part of the text that is left out. -/
def invalid (text : List Char) : String := s!"invalid logging spec '{String.ofList text}'"

/-- The directive that a text without blanks at its ends stands for. -/
def directive? (text : List Char) : Except String Directive :=
  let everything (target : List Char) : Directive := ⟨some (String.ofList target), Level.trace.rank⟩
  match splitOn '=' text with
  | [one] =>
    match rank? one with
    | some rank => .ok ⟨none, rank⟩
    | none => .ok (everything one)
  | [target, level] =>
    let level := trim level
    if level.isEmpty then .ok (everything target)
    else match rank? level with
      | some rank => .ok ⟨some (String.ofList target), rank⟩
      | none => .error (invalid level)
  | _ => .error (invalid text)

/-- A later directive for the same target takes the place of the earlier one. -/
def insert (directives : List Directive) (directive : Directive) : List Directive :=
  if directives.any (·.target == directive.target) then
    directives.map fun d => if d.target == directive.target then directive else d
  else directives ++ [directive]

/-- The directives, and complaints about what is left out. -/
def directivesOf (text : List Char) : List Directive × List String :=
  let parts := ((splitOn ',' text).map trim).filter (!·.isEmpty)
  parts.foldl (fun (directives, complaints) part =>
    match directive? part with
    | .ok directive => (insert directives directive, complaints)
    | .error complaint => (directives, complaints ++ [complaint])) ([], [])

/-- A filter with the directives, or with the usual one if there are none. -/
def ofDirectives (directives : List Directive) : LogFilter :=
  if directives.isEmpty then {} else { directives }

/-- Reads a filter, with complaints about what is left out. -/
def parse (text : String) : LogFilter × List String :=
  match splitOn '/' text.toList with
  | [directives] =>
    let (directives, complaints) := directivesOf directives
    (ofDirectives directives, complaints)
  | [directives, pattern] =>
    let (directives, complaints) := directivesOf directives
    let filter := ofDirectives directives
    match Pattern.compile (String.ofList pattern) with
    | .ok message => ({ filter with message := some message }, complaints)
    | .error _ => (filter, complaints ++ ["invalid regex filter"])
  | _ => ({}, [s!"invalid logging spec '{text}' (too many '/'s)"])

/-- How closely a directive fits; a longer name fits more closely. -/
def Directive.fit? (directive : Directive) (target : String) : Option Nat :=
  match directive.target with
  | none => some 0
  | some name =>
    if name.toList.isPrefixOf target.toList then some name.utf8ByteSize else none

/-- The rank up to which a target is shown: that of the directive that fits most closely, the last
one of several. -/
def rankFor (filter : LogFilter) (target : String) : Nat :=
  (filter.directives.foldl (fun best directive =>
    match Directive.fit? directive target with
    | none => best
    | some fit => if best.1 ≤ fit then (fit, directive.rank) else best) (0, 0)).2

def shows (filter : LogFilter) (wording : Option Wording) (event : Event) : Bool :=
  event.level.rank ≤ filter.rankFor event.target &&
    filter.message.all (·.isMatch (event.message wording))

example : (parse "a=info, debug").1.rankFor "a::b" = 3 ∧ (parse "a=info, debug").1.rankFor "c" = 4 := by
  decide

end LogFilter

end PatternSearch
