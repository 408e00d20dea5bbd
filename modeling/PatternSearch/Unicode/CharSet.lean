/-! # Sets of characters

A set is the list of its spans, both ends included, in ascending order and with some code point
between any two of them. Every operation keeps to this form, so sets with the same members are
equal, but for spans that meet at the surrogates. -/
namespace PatternSearch.Unicode

/-- Characters from one to another, both included. -/
structure Span where
  lo : Char
  hi : Char
  le : lo ≤ hi
  deriving DecidableEq

namespace Span

def of? (lo hi : Char) : Option Span := if le : lo ≤ hi then some ⟨lo, hi, le⟩ else none

def single (c : Char) : Span := ⟨c, c, Char.le_refl c⟩

def contains (span : Span) (c : Char) : Bool := span.lo ≤ c && c ≤ span.hi

/-- The least span that takes in both. -/
def hull (a b : Span) : Span where
  lo := if b.lo < a.lo then b.lo else a.lo
  hi := if a.hi < b.hi then b.hi else a.hi
  le := by
    split
    · next below =>
      have lo_le : b.lo ≤ a.hi := Char.le_trans (UInt32.le_of_lt below) a.le
      split
      · exact b.le
      · exact lo_le
    · split
      · next above => exact Char.le_trans a.le (UInt32.le_of_lt above)
      · exact a.le

end Span

structure CharSet where
  spans : List Span
  deriving DecidableEq

namespace CharSet

def lastChar : Char := Char.ofNat 0x10FFFF

/-- The next character; the surrogates are none. -/
def succ? (c : Char) : Option Char :=
  if c = lastChar then none
  else if c.toNat = 0xD7FF then some (Char.ofNat 0xE000)
  else some (Char.ofNat (c.toNat + 1))

def pred? (c : Char) : Option Char :=
  if c.toNat = 0 then none
  else if c.toNat = 0xE000 then some (Char.ofNat 0xD7FF)
  else some (Char.ofNat (c.toNat - 1))

def nothing : CharSet := ⟨[]⟩
def everything : CharSet := ⟨[⟨'\x00', lastChar, by decide⟩]⟩
def span (lo hi : Char) : CharSet := ⟨(Span.of? lo hi).toList⟩
def single (c : Char) : CharSet := ⟨[.single c]⟩

def contains (s : CharSet) (c : Char) : Bool := s.spans.any (·.contains c)

/-- Some code point lies between the two. -/
def isApart (lo hi : Char) : Bool := lo.toNat + 1 < hi.toNat

/-- The spans with one more, which takes in those that it meets. -/
def insertSpan (span : Span) : List Span → List Span
  | [] => [span]
  | first :: rest =>
    if isApart span.hi first.lo then span :: first :: rest
    else if isApart first.hi span.lo then first :: insertSpan span rest
    else insertSpan (span.hull first) rest

def insertAll (spans : List Span) (s : CharSet) : CharSet := ⟨spans.foldr insertSpan s.spans⟩

/-- The set of some spans, each given by its ends. -/
def ofSpans (ends : List (Char × Char)) : CharSet :=
  nothing.insertAll (ends.filterMap fun (lo, hi) => Span.of? lo hi)

def union (a b : CharSet) : CharSet := b.insertAll a.spans

/-- The gaps between spans from a character on. -/
def gapsFrom (lo : Char) : List Span → List Span
  | [] => (Span.of? lo lastChar).toList
  | span :: rest =>
    ((pred? span.lo).bind (Span.of? lo)).toList ++ match succ? span.hi with
      | some lo => gapsFrom lo rest
      | none => []

def complement (s : CharSet) : CharSet := ⟨gapsFrom '\x00' s.spans⟩

def inter (a b : CharSet) : CharSet := (a.complement.union b.complement).complement

def diff (a b : CharSet) : CharSet := (a.complement.union b).complement

def symmDiff (a b : CharSet) : CharSet := (a.union b).diff (a.inter b)

/-- The only member, if there is just one. -/
def only? (s : CharSet) : Option Char :=
  match s.spans with
  | [span] => if span.lo = span.hi then some span.lo else none
  | _ => none

/-- No member is outside ASCII. -/
def isAscii (s : CharSet) : Bool := s.spans.all (·.hi.toNat < 0x80)

/-- The nearest character at or after a code point. -/
def charFrom (n : Nat) : Nat := if 0xD800 ≤ n ∧ n < 0xE000 then 0xE000 else n

/-- The nearest character at or before a code point. -/
def charUpTo (n : Nat) : Nat := if 0xD800 ≤ n ∧ n < 0xE000 then 0xD7FF else n

/-- Joins spans of code points where one follows on another. -/
def joined (spans : List (Nat × Nat)) : List (Nat × Nat) :=
  spans.foldr (fun (lo, hi) rest =>
    match rest with
    | (lo', hi') :: rest => if lo' ≤ hi + 1 then (lo, hi') :: rest else (lo, hi) :: (lo', hi') :: rest
    | [] => [(lo, hi)]) []

/-- The characters in ascending spans of code points. -/
def ofCodePoints (spans : List (Nat × Nat)) : CharSet :=
  ⟨(joined spans).filterMap fun (lo, hi) =>
    Span.of? (Char.ofNat (charFrom lo)) (Char.ofNat (charUpTo hi))⟩

example : ofSpans [('d', 'f'), ('a', 'c'), ('x', 'z')] = ofSpans [('a', 'f'), ('x', 'z')] := by
  decide
example : (single 'b').complement.complement = single 'b' := by decide
example : inter (span 'a' 'm') (span 'k' 'z') = span 'k' 'm' ∧
    diff (span 'a' 'c') (single 'b') = ofSpans [('a', 'a'), ('c', 'c')] ∧
    diff nothing everything = nothing := by decide

end CharSet

end PatternSearch.Unicode
