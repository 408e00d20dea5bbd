import PatternSearch.Unicode.CharSet
/-! # Characters as bytes

The UTF-8 forms of a span of characters, as sequences of spans of bytes: a form belongs to a
sequence if each of its bytes lies in the span at its place. -/
namespace PatternSearch.Unicode

/-- Both ends included. -/
abbrev ByteSpan := Nat × Nat

abbrev ByteSequence := List ByteSpan

def bytesOf (c : Char) : List Nat := (String.utf8EncodeChar c).map UInt8.toNat

namespace ByteSequence

/-- Cuts a span where one of its ends does not fall on a border between blocks; `units` are the
sizes of blocks, the smallest first. What remains in the middle is cut by the next size. -/
def blocks (lo hi : Nat) : (units : List Nat) → List (Nat × Nat)
  | [] => [(lo, hi)]
  | unit :: units =>
    if lo / unit = hi / unit then [(lo, hi)]
    else
      let first := (lo + unit - 1) / unit * unit
      let last := (hi + 1) / unit * unit
      (if lo < first then [(lo, first - 1)] else []) ++
        (if first < last then blocks first (last - 1) units else []) ++
        (if last ≤ hi then [(last, hi)] else [])

/-- The characters with forms of one, two, three, three and four bytes. -/
def bands : List (Nat × Nat) :=
  [(0, 0x7F), (0x80, 0x7FF), (0x800, 0xD7FF), (0xE000, 0xFFFF), (0x10000, 0x10FFFF)]

/-- Every byte but the first carries six bits; the forms of ASCII need no cut. -/
def cut (band : Nat × Nat) (lo hi : Nat) : List (Nat × Nat) :=
  let lo := max lo band.1
  let hi := min hi band.2
  if hi < lo then [] else if hi < 0x80 then [(lo, hi)] else blocks lo hi [0x40, 0x1000, 0x40000]

def ofBlock (block : Nat × Nat) : ByteSequence :=
  (bytesOf (Char.ofNat block.1)).zip (bytesOf (Char.ofNat block.2))

def ofSpan (span : Span) : List ByteSequence :=
  bands.flatMap fun band => (cut band span.lo.toNat span.hi.toNat).map ofBlock

/-- The forms of all members, in ascending order. -/
def ofSet (s : CharSet) : List ByteSequence := s.spans.flatMap ofSpan

example : ofSpan ⟨'a', 'z', by decide⟩ = [[(0x61, 0x7A)]] := by decide
example : ofSpan ⟨'\u07C5', '\u0900', by decide⟩ =
    [[(0xDF, 0xDF), (0x85, 0xBF)], [(0xE0, 0xE0), (0xA0, 0xA3), (0x80, 0xBF)],
     [(0xE0, 0xE0), (0xA4, 0xA4), (0x80, 0x80)]] := by decide

end ByteSequence

end PatternSearch.Unicode
