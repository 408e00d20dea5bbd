import PatternSearch.Pattern.Escape
/-! # Sets in brackets

A set in brackets lists characters, spans and classes, may hold sets in brackets itself, and
combines lists by intersection, difference and symmetric difference, from left to right. -/
namespace PatternSearch.Pattern
open Text Unicode

namespace Bracket

/-- A set and how deep brackets, lists and operators nest in it. -/
structure Nested where
  set : CharSet
  depth : Nat := 0

inductive Operator where
  | inter
  | diff
  | symmDiff

def Operator.apply : Operator → CharSet → CharSet → CharSet
  | inter => .inter
  | diff => .diff
  | symmDiff => .symmDiff

/-- The members read so far, the last one first; an empty list denotes the empty set. -/
def gather : List Nested → Nested
  | [] => ⟨.nothing, 0⟩
  | [item] => item
  | item :: items =>
    ⟨items.foldl (fun s other => .union other.set s) item.set,
      (items.foldl (fun d other => max d other.depth) item.depth) + 1⟩

/-- An operator and its left operand, waiting for the right one. -/
abbrev Pending := Option (Operator × Nested)

/-- Operands grow with the case rule before they are combined. -/
def combine (flags : Flags) (pending : Pending) (right : Nested) : Nested :=
  match pending with
  | none => right
  | some (op, left) =>
    ⟨op.apply (flags.closeCase left.set) (flags.closeCase right.set),
      max left.depth right.depth + 1⟩

def close? (flags : Flags) (negated : Bool) (inner : Nested) : Option Nested :=
  (flags.turn? negated (flags.closeCase inner.set)).map (⟨·, inner.depth + 1⟩)

/-- Classes with a name between colons hold ASCII alone. -/
def namedSet? (name : List Char) : Option CharSet :=
  match String.ofList name with
  | "alnum" => some (.ofSpans [('0', '9'), ('A', 'Z'), ('a', 'z')])
  | "alpha" => some (.ofSpans [('A', 'Z'), ('a', 'z')])
  | "ascii" => some (.span '\x00' '\x7F')
  | "blank" => some (.ofSpans [('\t', '\t'), (' ', ' ')])
  | "cntrl" => some (.ofSpans [('\x00', '\x1F'), ('\x7F', '\x7F')])
  | "digit" => some (.span '0' '9')
  | "graph" => some (.span '!' '~')
  | "lower" => some (.span 'a' 'z')
  | "print" => some (.span ' ' '~')
  | "punct" => some (.ofSpans [('!', '/'), (':', '@'), ('[', '\x60'), ('{', '~')])
  | "space" => some (.ofSpans [('\t', '\r'), (' ', ' ')])
  | "upper" => some (.span 'A' 'Z')
  | "word" => some asciiWordSet
  | "xdigit" => some (.ofSpans [('0', '9'), ('A', 'F'), ('a', 'f')])
  | _ => none

/-- The class with the name up to a colon, and the text after `:]`. -/
def className? (text : List Char) : Option (CharSet × List Char) :=
  match text.dropWhile (· != ':') with
  | ':' :: ']' :: rest => (namedSet? (text.takeWhile (· != ':'))).map (·, rest)
  | _ => none

/-- A class with a name, after the opening bracket: whether it is turned around, the set, and the
text that is left. Anything else is a set in brackets. -/
def named? : List Char → Option (Bool × CharSet × List Char)
  | ':' :: '^' :: text => (className? text).map (true, ·)
  | ':' :: text => (className? text).map (false, ·)
  | _ => none

/-- Hyphens at the start stand for themselves. -/
def hyphens (flags : Flags) : (fuel : Nat) → List Char → List Nested × List Char
  | 0, text => ([], text)
  | fuel + 1, text =>
    match flags.skip text with
    | '-' :: rest =>
      let (items, rest) := hyphens flags fuel rest
      (⟨.single '-', 0⟩ :: items, rest)
    | text => ([], text)

/-- The members that stand first and would mean something else later on. -/
def first (flags : Flags) (text : List Char) : List Nested × List Char :=
  match hyphens flags text.length text with
  | ([], ']' :: rest) => ([⟨.single ']', 0⟩], rest)
  | found => found

/-- What follows an opening bracket: whether the set is turned around, and its first members. -/
def opening (flags : Flags) (text : List Char) : Bool × List Nested × List Char :=
  match flags.skip text with
  | '^' :: rest => (true, first flags rest)
  | text => (false, first flags text)

/-- One character, or an escape. -/
def unit? (flags : Flags) : List Char → Option (Atom × List Char)
  | [] => none
  | c :: rest => if c = '\\' then Escape.read? flags rest else some (.literal c false, rest)

/-- Without Unicode a set holds ASCII alone. -/
def literal? (flags : Flags) : Atom → Option Char
  | .literal c _ => if flags.unicode || c.toNat < 0x80 then some c else none
  | _ => none

def member? (flags : Flags) : Atom → Option CharSet
  | .set s => some s
  | .look _ => none
  | atom => (literal? flags atom).map .single

/-- The character that decides whether a hyphen, which stands just before, makes a span. -/
def peek (flags : Flags) (text : List Char) : Option Char :=
  if flags.spaced then
    match text.dropWhile isBlank with
    | '#' :: comment => (comment.dropWhile isBlank).head?.or text.head?
    | rest => rest.head?.or text.head?
  else text.head?

/-- A character, a class, or a span of characters. -/
def range? (flags : Flags) (text : List Char) : Option (CharSet × List Char) := do
  let (first, rest) ← unit? flags text
  match flags.skip rest with
  | [] => none
  | c :: after =>
    if c != '-' || peek flags after == some ']' || peek flags after == some '-' then
      return (← member? flags first, c :: after)
    else
      let (last, rest) ← unit? flags (flags.skip after)
      let lo ← literal? flags first
      let hi ← literal? flags last
      if lo ≤ hi then return (.span lo hi, rest) else none

def operator? : List Char → Option (Operator × List Char)
  | '&' :: '&' :: rest => some (.inter, rest)
  | '-' :: '-' :: rest => some (.diff, rest)
  | '~' :: '~' :: rest => some (.symmDiff, rest)
  | _ => none

/-- The members up to the closing bracket. -/
def members (flags : Flags) : (fuel : Nat) → Pending → List Nested → List Char →
    Option (Nested × List Char)
  | 0, _, _, _ => none
  | fuel + 1, pending, items, text =>
    match flags.skip text with
    | [] => none
    | ']' :: rest => some (combine flags pending (gather items), rest)
    | '[' :: rest =>
      match named? rest with
      | some (negated, s, rest) => do
        let s ← flags.turn? negated (flags.closeCase s)
        members flags fuel pending (⟨s, 0⟩ :: items) rest
      | none => do
        let (negated, first, rest) := opening flags rest
        let (inner, rest) ← members flags fuel none first rest
        members flags fuel pending ((← close? flags negated inner) :: items) rest
    | text =>
      match operator? text with
      | some (op, rest) =>
        members flags fuel (some (op, combine flags pending (gather items))) [] rest
      | none => do
        let (s, rest) ← range? flags text
        members flags fuel pending (⟨s, 0⟩ :: items) rest

/-- A set, after its opening bracket. -/
def read? (flags : Flags) (text : List Char) : Option (Nested × List Char) := do
  let (negated, first, rest) := opening flags text
  let (inner, rest) ← members flags (text.length + 1) none first rest
  return (← close? flags negated inner, rest)

example : (read? {} "a-c&&[^b]]d".toList).map (fun (n, rest) =>
    ("abcd".toList.filter n.set.contains, n.depth, rest)) = some (['a', 'c'], 3, ['d']) := by decide
example : (read? {} "]-]".toList).map (fun (n, _) => "]-a".toList.filter n.set.contains) =
    some [']', '-'] := by decide

end Bracket

end PatternSearch.Pattern
