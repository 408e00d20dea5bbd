import PatternSearch.Pattern.Regex
/-! # Steps of a match

An expression as numbered steps, each of which names the steps that may follow. Steps are added from
the end of the expression to its start, so that what follows a step is known when it is added; only
the rounds of a repetition without bound lead back. -/
namespace PatternSearch.Pattern
open Unicode

inductive Step where
  | take (s : CharSet) (next : Nat)
  | check (l : Look) (next : Nat)
  /-- The first way is preferred. -/
  | fork (first second : Nat)
  | done
  deriving DecidableEq

structure Program where
  steps : Array Step
  start : Nat

namespace Program

/-- The steps so far. -/
abbrev Build := StateM (Array Step)

/-- Adds a step and returns its number. -/
def add (step : Step) : Build Nat := fun steps => (steps.size, steps.push step)

/-- A greedy repetition prefers one more round, any other one prefers what follows. -/
def choose (greedy : Bool) (round next : Nat) : Step :=
  if greedy then .fork round next else .fork next round

/-- `n` rounds; `body` adds one round before a step and returns the first step of the round. -/
def rounds (body : Nat → Build Nat) : (n : Nat) → (next : Nat) → Build Nat
  | 0, next => pure next
  | n + 1, next => do body (← rounds body n next)

/-- At most `n` rounds, each of which may be the last one. -/
def upTo (body : Nat → Build Nat) (greedy : Bool) : (n : Nat) → (next : Nat) → Build Nat
  | 0, next => pure next
  | n + 1, next => do
    let round ← body (← upTo body greedy n next)
    add (choose greedy round next)

/-- One round that may be repeated. Returns its first step, and the step that decides after each
round. -/
def loop (body : Nat → Build Nat) (greedy : Bool) (next : Nat) : Build (Nat × Nat) := do
  let decision ← add (.fork next next)
  let round ← body decision
  modify (·.setIfInBounds decision (choose greedy round next))
  return (round, decision)

/-- Any number of rounds. If each of them takes a character, the place before the first round is
like one between two rounds. -/
def star (body : Nat → Build Nat) (takesSome greedy : Bool) (next : Nat) : Build Nat := do
  let (round, decision) ← loop body greedy next
  if takesSome then return decision else add (choose greedy round next)

/-- Adds an expression before a step and returns its first step. -/
def build : Regex → (next : Nat) → Build Nat
  | .empty, next => pure next
  | .text chars, next => chars.foldrM (fun c next => add (.take (.single c) next)) next
  | .set s _, next => add (.take s next)
  | .look l, next => add (.check l next)
  | .cat a b, next => do build a (← build b next)
  | .alt a b, next => do
    let second ← build b next
    let first ← build a next
    add (.fork first second)
  | .rep least (some extra) greedy body, next => do
    rounds (build body) least (← upTo (build body) greedy extra next)
  | .rep 0 none greedy body, next => star (build body) body.takesSome greedy next
  | .rep (least + 1) none greedy body, next => do
    let (round, _) ← loop (build body) greedy next
    rounds (build body) least round
  | .group _ body, next => build body next

def ofRegex (r : Regex) : Program :=
  let (start, steps) := (add .done >>= build r) #[]
  ⟨steps, start⟩

example : (ofRegex (.rep 1 none true (.text ['a']))).steps.toList =
    [.done, .fork 2 0, .take (.single 'a') 1] := by decide

end Program

end PatternSearch.Pattern
