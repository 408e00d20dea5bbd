import PatternSearch.Number.Binary64
/-! # The shortest decimal of a number

Among the decimals that read back as a given number, one with the fewest digits is chosen, and of
those the one nearest to the number. -/
namespace PatternSearch

/-- The positive decimal `digits * 10 ^ exponent`. -/
structure Decimal where
  digits : Nat
  exponent : Int
  deriving DecidableEq

namespace Decimal

/-- The interval of reals that round to a number, in quarter steps. -/
structure Interval where
  low : Nat
  middle : Nat
  high : Nat
  closed : Bool

/-- Below a power of two the numbers lie twice as dense as above it. -/
def interval (steps : Nat) : Interval :=
  let gap := 1 <<< Binary64.spare steps
  let below := if steps = gap <<< 52 ∧ 1 < gap then gap else 2 * gap
  { low := 4 * steps - below, middle := 4 * steps, high := 4 * steps + 2 * gap
    closed := steps / gap % 2 == 0 }

/-- Whether `value / scale` quarter steps lie in the interval. -/
def Interval.holds (i : Interval) (value scale : Nat) : Bool :=
  if i.closed then i.low * scale ≤ value && value ≤ i.high * scale
  else i.low * scale < value && value < i.high * scale

/-- Quarter steps in one. -/
def quarterOne : Nat := 4 * Binary64.one

/-- The multiple of `10 ^ exponent` that lies in the interval, nearest to its middle. -/
def onGrid (i : Interval) (exponent : Int) : Option Nat :=
  let unit := if exponent < 0 then quarterOne else quarterOne * Nat.pow 10 exponent.toNat
  let scale := if exponent < 0 then Nat.pow 10 (-exponent).toNat else 1
  let below := i.middle * scale / unit
  let above := below + 1
  let rest := i.middle * scale - below * unit
  match i.holds (below * unit) scale, i.holds (above * unit) scale with
  | true, true =>
    if 2 * rest < unit then some below
    else if unit < 2 * rest then some above
    else some (if below % 2 = 0 then below else above)
  | true, false => some below
  | false, true => some above
  | false, false => none

/-- Decimal digits of a natural number, at least one. -/
def width (n : Nat) : Nat := (Nat.toDigits 10 n).length

/-- The exponent of the first digit of a number below one: it is reached after `fuel` tenfold
steps at the latest. -/
def leadingBelowOne (steps : Nat) : Nat → Int → Int
  | 0, e => e
  | fuel + 1, e => if Binary64.one ≤ steps then e else leadingBelowOne (10 * steps) fuel (e - 1)

/-- The exponent of the first decimal digit. -/
def leading (steps : Nat) : Int :=
  if Binary64.one ≤ steps then (width (steps / Binary64.one) : Int) - 1
  else leadingBelowOne steps 330 0

/-- The decimal expansion in full. -/
def exact (steps : Nat) : Decimal := ⟨steps * Nat.pow 5 1074, -1074⟩

/-- Try finer and finer grids, the first one with the unit `10 ^ exponent`. -/
def search (steps : Nat) : Nat → Int → Decimal
  | 0, _ => exact steps
  | fuel + 1, exponent =>
    match onGrid (interval steps) exponent with
    | some digits => ⟨digits, exponent⟩
    | none => search steps fuel (exponent - 1)

/-- Take trailing zeros into the exponent. -/
def trim : Nat → Decimal → Decimal
  | 0, d => d
  | fuel + 1, d =>
    if d.digits % 10 = 0 ∧ d.digits ≠ 0 then trim fuel ⟨d.digits / 10, d.exponent + 1⟩ else d

/-- The shortest decimal of a positive count of steps; seventeen digits always suffice. -/
def shortest (steps : Nat) : Decimal :=
  trim 20 (search steps 18 (leading steps))

example : shortest (2 ^ 1073) = ⟨5, -1⟩ ∧ shortest 1 = ⟨5, -324⟩ := by decide +kernel

end Decimal

end PatternSearch
