import PatternSearch.Pattern.Machine.Memo
import PatternSearch.Unicode.Bytes
/-! # The space that a machine takes

A machine reads texts byte by byte. Its states are numbered in the order in which they are laid
out, and only their number and the space that they take are kept. A machine that grows too large is
given up at once. -/
namespace PatternSearch.Pattern.Machine
open Unicode

/-- Every state takes a fixed space; what it holds besides is `extra`. -/
structure Space where
  states : Nat := 0
  extra : Nat := 0

/-- Space in bytes. -/
def Space.size (space : Space) : Nat := 32 * space.states + space.extra

/-- Ten mebibytes. -/
def maxSize : Nat := 10 * (1 <<< 20)

abbrev Layout := StateT Space Option

namespace Layout

/-- Adds states that hold nothing besides. -/
def states (n : Nat) : Layout Unit := fun space =>
  let space := { space with states := space.states + n }
  if maxSize < space.size then none else some ((), space)

/-- Adds a state and returns its number. -/
def state (extra : Nat) : Layout Nat := fun space =>
  let number := space.states
  let space := ⟨space.states + 1, space.extra + extra⟩
  if maxSize < space.size then none else some (number, space)

/-- A state without a choice. -/
def plain : Layout Unit := states 1

/-- A state that chooses among others; a link to each takes a word. -/
def fork (ways : Nat) : Layout Unit := do discard <| state (4 * ways)

/-- A state that reads a byte and goes where its span leads. -/
def branching (spans : Nat) : Layout Nat := state (8 * spans)

def times (layout : Layout Unit) : Nat → Layout Unit
  | 0 => pure ()
  | n + 1 => do
    layout
    times layout n

end Layout

/-! ## Sets -/

/-- A layout in which states are found again. -/
abbrev Shared := StateT Memo Layout

namespace Shared

/-- The state known by a key, or a new one. -/
def state (key : List Nat) (extra : Nat) : Shared Nat := do
  match (← get).get? key with
  | some number => return number
  | none =>
    let number ← Layout.state extra
    modify (·.insert key number)
    return number

/-- Sequences that start with the same span, one after the other, are taken together: each span
comes with what follows it. -/
def grouped : List ByteSequence → List (ByteSpan × List ByteSequence)
  | [] => []
  | [] :: rest => grouped rest
  | (first :: tail) :: rest =>
    match grouped rest with
    | (next, tails) :: groups =>
      if next = first then (first, tail :: tails) :: groups
      else (first, [tail]) :: (next, tails) :: groups
    | [] => [(first, [tail])]

/-- The state that reads some sequences of at most `length` bytes, after the states that follow
it; a sequence that is read to its end leads to the state `target`. -/
def node (target : Nat) : (length : Nat) → List ByteSequence → Shared Nat
  | 0, _ => pure target
  | length + 1, sequences => do
    let arcs ← (grouped sequences).mapM fun (span, tails) => do
      let next ← if tails = [[]] then pure target else node target length tails
      return [span.1, span.2, next]
    state arcs.flatten (8 * arcs.length)

/-- The states that read a sequence backwards, from its last byte to its first one; `next` is the
state after the byte before. -/
def chain (next : Nat) : ByteSequence → Shared Unit
  | [] => pure ()
  | (lo, hi) :: rest => do chain (← state [next, lo, hi] 0) rest

end Shared

namespace Layout

/-- How many states are kept in memory while a set is laid out. -/
def memory (backward : Bool) : Nat := if backward then 1000 else 10000

/-- Sets of ASCII read a single byte. Any other set shares states among its sequences: forwards
those that the same ends follow, backwards those that the same starts precede. -/
def set (backward : Bool) (s : CharSet) (ascii : Bool) : Layout Unit :=
  if ascii || s.isAscii then do
    plain
    discard <| branching s.spans.length
  else
    let sequences := ByteSequence.ofSet s
    let shared : Shared Unit :=
      if backward then do
        fork sequences.length
        let last ← Layout.state 0
        sequences.forM (Shared.chain last)
      else do
        let target ← Layout.state 0
        discard <| Shared.node target 4 sequences
    do discard <| shared.run (.ofSize (memory backward))

/-! ## Words -/

/-- The ways out of a place where words branch, each with the words that go on there. -/
abbrev Ways := List (Nat × List (List Nat))

/-- Adds a word to the way that its first byte takes. -/
def addWay (byte : Nat) (word : List Nat) : Ways → Ways
  | [] => [(byte, [word])]
  | (other, words) :: ways =>
    if other = byte then (other, words ++ [word]) :: ways
    else (other, words) :: addWay byte word ways

/-- The ways of words in order of preference. A word that ends here parts the ways before it from
those after it. -/
def stretches (ways : Ways) : List (List Nat) → List Ways
  | [] => [ways]
  | [] :: words => ways :: stretches [] words
  | (byte :: word) :: words => stretches (addWay byte word ways) words

/-- A word that ends where one ended before any went on adds nothing. -/
def dropRepeated : List (List Nat) → List (List Nat)
  | [] :: words => [] :: words.dropWhile List.isEmpty
  | words => words

/-- The states for words of at most `length` bytes that begin alike and branch here. -/
def branches : (length : Nat) → List (List Nat) → Layout Unit
  | 0, _ => pure ()
  | length + 1, words => do
    let stretches := stretches [] (dropRepeated words)
    stretches.forM fun ways => do
      ways.forM fun (_, words) =>
        if words.all List.isEmpty then pure () else branches length words
      match ways with
      | [] => pure ()
      | [_] => plain
      | ways => discard <| branching ways.length
    let choices := (stretches.filter (!·.isEmpty)).length + (stretches.length - 1)
    if choices = 1 then pure () else fork choices

/-- A choice among texts reads what they begin with alike only once. -/
def words (backward : Bool) (texts : List (List Char)) : Layout Unit := do
  let words := texts.map fun chars =>
    let bytes := chars.flatMap bytesOf
    if backward then bytes.reverse else bytes
  plain
  branches (words.foldl (fun n word => max n word.length) 0 + 1) words

end Layout

end PatternSearch.Pattern.Machine
