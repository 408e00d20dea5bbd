import PatternSearch.Pattern.Machine.Layout
import PatternSearch.Pattern.Regex
/-! # The size of an expression

The space that the machines for an expression take, one that reads texts forwards and one that reads
them backwards. -/
namespace PatternSearch.Pattern.Machine
open Unicode

/-- Where an expression stands in a choice: not in one, as the second branch, behind which the fork
for all branches is laid out, or as a later branch. The first branch stands alone. -/
inductive Standing where
  | alone
  | second (branches : Nat)
  | later

namespace Layout

/-- What is laid out behind a branch. -/
def behind : Standing → Layout Unit
  | .second branches => do
    fork branches
    plain
  | _ => pure ()

/-- The texts that an expression chooses among, if it does nothing else. -/
def wordsOf? : Regex → Option (List (List Char))
  | .text chars => some [chars]
  | .alt (.text chars) b => (wordsOf? b).map (chars :: ·)
  | _ => none

/-- The rounds of a repetition; `body` lays out one round, and `takesSome` says that each round
takes a character. -/
def rounds (body : Layout Unit) (takesSome : Bool) : (least : Nat) → (extra : Option Nat) →
    Layout Unit
  | 0, none =>
    if takesSome then do
      fork 2
      body
    else do
      body
      fork 2
      fork 2
      plain
  | least, none => do
    times body least
    fork 2
  | least, some 0 => times body least
  | 0, some 1 => do
    fork 2
    body
    plain
  | least, some extra => do
    if least = 0 then plain else times body least
    plain
    times (do
      fork 2
      body) extra

def expression (backward : Bool) (standing : Standing) : Regex → Layout Unit
  | .alt a b =>
    match standing with
    | .alone =>
      match wordsOf? (.alt a b) with
      | some texts => words backward texts
      | none => do
        expression backward .alone a
        expression backward (.second (Regex.alt a b).branches.length) b
    | standing => do
      expression backward .alone a
      behind standing
      expression backward .later b
  | .empty => do
    plain
    behind standing
  | .look _ => do
    plain
    behind standing
  | .text chars => do
    states (chars.flatMap bytesOf).length
    behind standing
  | .set s ascii => do
    set backward s ascii
    behind standing
  | .cat a b => do
    if backward then do
      expression backward .alone b
      expression backward .alone a
    else do
      expression backward .alone a
      expression backward .alone b
    behind standing
  | .rep least extra _ body => do
    rounds (expression backward .alone body) body.takesSome least extra
    behind standing
  | .group _ body => do
    if backward then expression backward .alone body
    else do
      plain
      expression backward .alone body
      plain
    behind standing

end Layout

/-- Every match starts, or ends if `atEnd`, with a condition. -/
def isBound (l : Look) (atEnd : Bool) : Regex → Bool
  | .look m => m == l
  | .empty | .text _ | .set .. => false
  | .cat a b =>
    if atEnd then isBound l atEnd b || (b.isZeroWidth && isBound l atEnd a)
    else isBound l atEnd a || (a.isZeroWidth && isBound l atEnd b)
  | .alt a b => isBound l atEnd a && isBound l atEnd b
  | .rep least _ _ body => 0 < least && isBound l atEnd body
  | .group _ body => isBound l atEnd body

/-- A machine that need not begin where the text does skips any bytes first. -/
def whole (backward : Bool) (r : Regex) : Layout Unit := do
  if isBound (if backward then .textEnd else .textStart) backward r then Layout.plain
  else do
    Layout.fork 2
    Layout.plain
    discard <| Layout.branching 1
  Layout.expression backward .alone (if backward then r else .group 0 r)
  Layout.plain

/-- More space than either machine takes for an expression, found without laying it out. -/
def bound : Regex → Nat
  | .empty | .look _ => 32
  | .text chars => 32 * (chars.flatMap bytesOf).length
  | .set s ascii =>
    if ascii || s.isAscii then 64 + 8 * s.spans.length
    else 96 + 160 * (ByteSequence.ofSet s).length
  | .cat a b => bound a + bound b
  | .alt a b => bound a + bound b + 72
  | .rep least extra _ body => (max least 1 + extra.getD 0) * (bound body + 40) + 112
  | .group _ body => bound body + 64

/-- Neither machine takes more than the limit. The bound decides for all but large expressions. -/
def fits (r : Regex) : Bool :=
  bound r + 256 ≤ maxSize ||
    (((whole false r).run {}).isSome && ((whole true r).run {}).isSome)

example : ((whole false (.text ['a', 'é'])).run {}).map (·.2.size) = some 304 := by decide

end PatternSearch.Pattern.Machine
