import PatternSearch.Pattern.Regex
/-! # Where a match can end

The places of a text are the gaps around its characters, numbered from zero. From the places where a
match may begin, `reach` computes the places where it may end, for all of them at once. Sets of
places are kept as lists, in descending order and without repetition: rounds of a repetition lead
on, so that new places come at the front. -/
namespace PatternSearch.Pattern

/-- The character before a place. -/
def before (text : Array Char) : Nat → Option Char
  | 0 => none
  | i + 1 => text[i]?

namespace Places

/-- All places of a text. -/
def all (text : Array Char) : List Nat := (List.range (text.size + 1)).reverse

/-- The members of either list, in order if both are. -/
def union : List Nat → List Nat → List Nat
  | [], b => b
  | i :: a, b =>
    let rest := b.dropWhile (i < ·)
    b.takeWhile (i < ·) ++ i :: union a (if rest.head? = some i then rest.tail else rest)

/-- The members of the first list that are not in the second one, if both are in order. -/
def minus : List Nat → List Nat → List Nat
  | [], _ => []
  | i :: a, b =>
    let rest := b.dropWhile (i < ·)
    if rest.head? = some i then minus a rest else i :: minus a rest

/-- Past the next character, where it is one of the asked for. -/
def past (asked : Char → Bool) (text : Array Char) (places : List Nat) : List Nat :=
  (places.filter fun i => text[i]?.any asked).map (· + 1)

/-- The places where a condition holds. -/
def keep (l : Look) (text : Array Char) (places : List Nat) : List Nat :=
  places.filter fun i => l.holds (before text i) text[i]?

/-- `n` rounds of `step`. -/
def rounds (step : List Nat → List Nat) : (n : Nat) → List Nat → List Nat
  | 0, places => places
  | n + 1, places => if places.isEmpty then [] else rounds step n (step places)

/-- At most `n` more rounds of `step`. Of the places found so far, only those of the last round are
looked at again. -/
def upTo (step : List Nat → List Nat) : (n : Nat) → (found last : List Nat) → List Nat
  | 0, found, _ => found
  | n + 1, found, last =>
    let new := minus (step last) found
    if new.isEmpty then found else upTo step n (union new found) new

end Places

namespace Regex

/-- Where a match can end that begins at one of the places. A repetition without bound needs no more
rounds than there are places: every round that matters finds a new one. -/
def reach (source : Array Char) : Regex → List Nat → List Nat
  | empty, places => places
  | text chars, places => chars.foldl (fun places c => Places.past (· == c) source places) places
  | set s _, places => Places.past s.contains source places
  | look l, places => Places.keep l source places
  | cat a b, places => reach source b (reach source a places)
  | alt a b, places => Places.union (reach source a places) (reach source b places)
  | rep least extra _ body, places =>
    let start := Places.rounds (reach source body) least places
    Places.upTo (reach source body) (extra.getD (source.size + 1)) start start
  | group _ body, places => reach source body places

/-- Some part of the text matches. -/
def isMatch (r : Regex) (text : List Char) : Bool :=
  let source := text.toArray
  !(r.reach source (Places.all source)).isEmpty

/-- The text as a whole matches. -/
def isWhole (r : Regex) (text : List Char) : Bool :=
  let source := text.toArray
  (r.reach source [0]).contains source.size

example : isMatch (.rep 2 none true (.text ['a'])) "baab".toList = true := by decide
example : isWhole (.rep 2 none true (.text ['a'])) "aaab".toList = false := by decide

end Regex

end PatternSearch.Pattern
