import PatternSearch.Pattern.Look
/-! # Regular expressions

The core form of a pattern: texts, sets of characters, conditions on the place, sequence, choice in
order of preference and repetition. Flags are resolved, and of the groups only those with a number
remain. Expressions are built in a normal form by `ofSet`, `sequence`, `choice` and `repeated`; what
the branches of a choice begin with alike is taken out in front, which decides preferences inside it
before those of the choice. -/
namespace PatternSearch.Pattern
open Unicode

/-- In a choice the first branch is preferred; a greedy repetition prefers one more round, any
other one prefers to stop. -/
inductive Regex where
  | empty
  /-- Characters in sequence, one at least. -/
  | text (chars : List Char)
  /-- A set that is `ascii` was written without Unicode and is told from one that was not. -/
  | set (s : CharSet) (ascii : Bool)
  | look (l : Look)
  | cat (a b : Regex)
  | alt (a b : Regex)
  /-- At least `least` rounds, then at most `extra` more; `none` sets no bound. -/
  | rep (least : Nat) (extra : Option Nat) (greedy : Bool) (body : Regex)
  /-- Groups with different numbers are different, even around the same expression. -/
  | group (number : Nat) (body : Regex)
  deriving DecidableEq

namespace Regex

/-- Matches nothing, not even the empty text. -/
def never : Regex := set .nothing true

/-- No match takes a character. -/
def isZeroWidth : Regex → Bool
  | empty | look _ => true
  | text _ | set .. => false
  | cat a b | alt a b => a.isZeroWidth && b.isZeroWidth
  | rep _ _ _ body | group _ body => body.isZeroWidth

/-- The fewest characters that a match takes, if the conditions on the place allow; `none` where
some part can never match. -/
def leastLength : Regex → Option Nat
  | empty | look _ => some 0
  | text chars => some chars.length
  | set s _ => if s = .nothing then none else some 1
  | cat a b => do return (← a.leastLength) + (← b.leastLength)
  | alt a b => do return min (← a.leastLength) (← b.leastLength)
  | rep least _ _ body => body.leastLength.map (least * ·)
  | group _ body => body.leastLength

/-- Every match is known to take a character. -/
def takesSome (r : Regex) : Bool := r.leastLength.any (0 < ·)

/-- One character of a set. -/
def ofSet (s : CharSet) (ascii : Bool) : Regex :=
  if s = .nothing then never
  else match s.only? with
    | some c => text [c]
    | none => set s ascii

/-- A repetition. No round counts beyond the first where rounds take no character, and zero rounds
or exactly one are no repetition. -/
def repeated (least : Nat) (extra : Option Nat) (greedy : Bool) (body : Regex) : Regex :=
  let flat := body.isZeroWidth
  let most := if flat then some (match extra with
    | some n => min (least + n) 1
    | none => 1) else extra.map (least + ·)
  let least := if flat then min least 1 else least
  match least, most with
  | 0, some 0 => empty
  | 1, some 1 => body
  | least, most => rep least (most.map (· - least)) greedy body

/-- The parts of a sequence. -/
def parts : Regex → List Regex
  | empty => []
  | cat a b => a :: b.parts
  | r => [r]

/-- The branches of a choice. -/
def branches : Regex → List Regex
  | alt a b => a :: b.branches
  | r => [r]

def ofParts : List Regex → Regex
  | [] => empty
  | [r] => r
  | r :: rest => cat r (ofParts rest)

def ofBranches : List Regex → Regex
  | [] => never
  | [r] => r
  | r :: rest => alt r (ofBranches rest)

/-- Texts that follow each other become one. -/
def joinTexts : List Regex → List Regex
  | [] => []
  | r :: rest =>
    match r, joinTexts rest with
    | text a, text b :: rest => text (a ++ b) :: rest
    | r, rest => r :: rest

def sequence (rs : List Regex) : Regex := ofParts (joinTexts (rs.flatMap parts))

/-- The character that a text of length one stands for. -/
def char? : Regex → Option Char
  | text [c] => some c
  | _ => none

def set? : Regex → Option CharSet
  | set s _ => some s
  | _ => none

/-- A choice among single characters, or among sets, as one set. -/
def asSet? (branches : List Regex) : Option Regex :=
  match branches.mapM char?, branches.mapM set? with
  | some chars, _ => some (ofSet (chars.foldl (fun s c => (CharSet.single c).union s) .nothing) false)
  | none, some sets => some (ofSet (sets.foldl (fun s t => t.union s) .nothing) false)
  | none, none => none

/-- What both lists begin with. -/
def commonStart : List Regex → List Regex → List Regex
  | a :: as, b :: bs => if a = b then a :: commonStart as bs else []
  | _, _ => []

/-- The parts that all branches begin with, if each of them is a sequence. -/
def sharedStart (branches : List Regex) : List Regex :=
  match branches.map parts with
  | first :: rest =>
    if (first :: rest).all (2 ≤ ·.length) then rest.foldl commonStart first else []
  | [] => []

/-- Number of nodes. -/
def size : Regex → Nat
  | empty | text _ | set .. | look _ => 1
  | cat a b | alt a b => a.size + b.size + 1
  | rep _ _ _ body | group _ body => body.size + 1

/-- A choice; each part taken out in front leaves a smaller one. -/
def choiceFrom : (fuel : Nat) → List Regex → Regex
  | 0, rs => ofBranches rs
  | fuel + 1, rs =>
    match rs.flatMap branches with
    | [r] => r
    | rs =>
      match asSet? rs with
      | some r => r
      | none =>
        let start := sharedStart rs
        if start.isEmpty then ofBranches rs
        else
          let rest := rs.map fun r => sequence (r.parts.drop start.length)
          sequence (start ++ [choiceFrom fuel rest])

/-- The total size of the branches bounds what can be taken out of them. -/
def choice (rs : List Regex) : Regex := choiceFrom (rs.foldr (·.size + ·) 1) rs

example : choice [text ['a'], text ['b']] = set (.span 'a' 'b') false := by decide
example : let dots := rep 0 none true (set .everything false)
    choice [sequence [dots, text ['a']], sequence [dots, text ['b']]] =
      cat dots (set (.span 'a' 'b') false) := by decide
example : sequence [text ['a'], empty, sequence [text ['b'], text ['c']]] = text ['a', 'b', 'c'] := by
  decide

end Regex

end PatternSearch.Pattern
