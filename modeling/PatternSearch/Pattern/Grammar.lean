import PatternSearch.Pattern.Token
/-! # The grammar of patterns

A quantifier binds to the part just before it, parts in sequence bind closer than the branches of a
choice, and a group is a part. -/
namespace PatternSearch.Pattern

/-- A part of a sequence, and how deep its syntax nests. -/
structure Part where
  regex : Regex
  depth : Nat
  repeatable : Bool := true

/-- What is read of a group: its number if it has one, the branches before the last bar and the
parts after it, each list with the last one first. -/
structure Level where
  number : Option Nat := none
  branches : List Part := []
  parts : List Part := []

namespace Level

/-- One node of syntax over several parts; a single part needs none. -/
def nest (join : List Regex → Regex) (parts : List Part) : Part :=
  { regex := join (parts.map (·.regex))
    depth := (parts.map (·.depth)).foldl max 0 + (if 2 ≤ parts.length then 1 else 0) }

def branch (level : Level) : Part := nest .sequence level.parts.reverse

def finish (level : Level) : Part := nest .choice (level.branch :: level.branches).reverse

/-- The group as a part of the one around it. -/
def close (level : Level) : Part :=
  let part := level.finish
  let regex := match level.number with
    | some number => .group number part.regex
    | none => part.regex
  ⟨regex, part.depth + 1, true⟩

def push (level : Level) (part : Part) : Level := { level with parts := part :: level.parts }

def split (level : Level) : Level :=
  { level with branches := level.branch :: level.branches, parts := [] }

/-- Repeats the last part. -/
def quantify? (level : Level) (least : Nat) (extra : Option Nat) (greedy : Bool) :
    Option Level :=
  match level.parts with
  | [] => none
  | part :: parts =>
    if part.repeatable then
      some { level with
        parts := ⟨.repeated least extra greedy part.regex, part.depth + 1, true⟩ :: parts }
    else none

end Level

/-- Reads tokens into the innermost group; `outer` holds the groups around it, the nearest first. -/
def assemble (level : Level) (outer : List Level) : List Token → Option Part
  | [] => if outer.isEmpty then some level.finish else none
  | .atom r depth :: rest => assemble (level.push ⟨r, depth, true⟩) outer rest
  | .directive :: rest => assemble (level.push ⟨.empty, 0, false⟩) outer rest
  | .quantifier least extra greedy :: rest =>
    match level.quantify? least extra greedy with
    | none => none
    | some level => assemble level outer rest
  | .bar :: rest => assemble level.split outer rest
  | .opening number :: rest => assemble { number } (level :: outer) rest
  | .closing :: rest =>
    match outer with
    | [] => none
    | up :: outer => assemble (up.push level.close) outer rest

/-- How deep the syntax of a pattern may nest. -/
def maxDepth : Nat := 250

/-- The expression that a pattern denotes; `none` for malformed patterns. -/
def Regex.parse? (source : List Char) : Option Regex := do
  let part ← assemble {} [] (← Token.scan? source)
  if part.depth ≤ maxDepth then return part.regex else none

example : Regex.parse? "a|b*?".toList =
    some (.alt (.text ['a']) (.rep 0 none false (.text ['b']))) := by decide
example : Regex.parse? "x(?:a*b|a*c)".toList = some
    (.cat (.text ['x']) (.cat (.rep 0 none true (.text ['a'])) (.set (.span 'b' 'c') false))) := by
  decide
example : Regex.parse? "(".toList = none ∧ Regex.parse? "a**".toList ≠ none ∧
    Regex.parse? "*a".toList = none := by decide

end PatternSearch.Pattern
