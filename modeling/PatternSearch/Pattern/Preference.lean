import PatternSearch.Pattern.Program
import PatternSearch.Pattern.Reach
/-! # The preferred match

Of the matches in a text the one that begins first counts, and of those the one that choices and
repetitions prefer. Threads go through the steps of a program side by side, the most preferred one
first, and a thread that comes to a step where another one came by at the same place is dropped: it
can only end where the earlier one ends. -/
namespace PatternSearch.Pattern

/-- One way through a program: the step to go on with, and the place where the match began. -/
structure Thread where
  step : Nat
  origin : Nat

/-- What is known of one place: for each step the last place, counted from one, where a thread came
to it; the threads that go on after the next character, the least preferred one first; and where a
match began that ends here. What comes after that is of less preference and is not looked at. -/
structure Sweep where
  seen : Array Nat
  going : List Thread := []
  ended : Option Nat := none

namespace Program

/-- Goes on with the threads of a place, one step at a time. -/
def advance (program : Program) (place : Nat) (before after : Option Char) : (fuel : Nat) →
    List Thread → Sweep → Sweep
  | 0, _, sweep => sweep
  | _, [], sweep => sweep
  | fuel + 1, ⟨step, origin⟩ :: threads, ⟨seen, going, ended⟩ =>
    if seen[step]? = some (place + 1) then
      advance program place before after fuel threads ⟨seen, going, ended⟩
    else
      let seen := seen.setIfInBounds step (place + 1)
      match program.steps[step]? with
      | some .done => ⟨seen, going, some origin⟩
      | some (.fork first second) =>
        advance program place before after fuel
          (⟨first, origin⟩ :: ⟨second, origin⟩ :: threads) ⟨seen, going, ended⟩
      | some (.check l next) =>
        let threads := if l.holds before after then ⟨next, origin⟩ :: threads else threads
        advance program place before after fuel threads ⟨seen, going, ended⟩
      | some (.take s next) =>
        let going := if after.any s.contains then ⟨next, origin⟩ :: going else going
        advance program place before after fuel threads ⟨seen, going, ended⟩
      | none => advance program place before after fuel threads ⟨seen, going, ended⟩

/-- All threads at a place. At a step that was not seen at most two threads replace one, and at all
others one ends, which bounds the fuel. -/
def sweep (program : Program) (place : Nat) (before after : Option Char) (seen : Array Nat)
    (threads : List Thread) : Sweep :=
  advance program place before after (threads.length + 2 * program.steps.size) threads { seen }

/-- Where the preferred match begins and ends, in the text from a place on. While no match is known,
one may begin at every place, with less preference than those that began before; `best` is the match
known so far. -/
def follow (program : Program) (place : Nat) (before : Option Char) (threads : List Thread)
    (best : Option (Nat × Nat)) (seen : Array Nat) : List Char → Option (Nat × Nat)
  | [] =>
    let threads := if best.isNone then threads ++ [⟨program.start, place⟩] else threads
    ((program.sweep place before none seen threads).ended.map (·, place)).or best
  | c :: text =>
    let threads := if best.isNone then threads ++ [⟨program.start, place⟩] else threads
    let ⟨seen, going, ended⟩ := program.sweep place before (some c) seen threads
    let best := (ended.map (·, place)).or best
    if going.isEmpty && best.isSome then best
    else program.follow (place + 1) (some c) going.reverse best seen text

end Program

namespace Regex

/-- A match in a text: what stands before it, and what it takes. -/
structure Found where
  skipped : List Char
  taken : List Char
  deriving DecidableEq

/-- The preferred match in a text. It is only looked for where there is one. -/
def find (r : Regex) (text : List Char) : Option Found :=
  if r.isMatch text then
    let program := Program.ofRegex r
    (program.follow 0 none [] none (.replicate program.steps.size 0) text).map
      fun (first, last) => ⟨text.take first, (text.drop first).take (last - first)⟩
  else none

example : find (.rep 1 none false (.text ['a'])) "baa".toList = some ⟨['b'], ['a']⟩ := by decide
example : find (.rep 0 none true (.alt .empty (.text ['a']))) ['a'] = some ⟨[], []⟩ := by decide

end Regex

end PatternSearch.Pattern
