import PatternSearch.Number.Shortest
/-! # Written numbers

A finite number is written with the fewest digits that read back as it: with all its places between
`1e-5` and `1e16`, else with one digit before the point and an exponent. -/
namespace PatternSearch

namespace Decimal

/-- The exponents of the first digit between which a decimal is written with all its places. -/
def lowestPlain : Int := -5
def highestPlain : Int := 15

/-- A point after the first `places` digits; zeros fill up on either side. -/
def plain (digits : List Char) (places : Int) : List Char :=
  if places ≤ 0 then
    '0' :: '.' :: List.replicate (-places).toNat '0' ++ digits
  else
    let n := places.toNat
    let fraction := digits.drop n
    digits.take n ++ List.replicate (n - digits.length) '0' ++ '.' ::
      if fraction.isEmpty then ['0'] else fraction

def scientific (digits : List Char) (exponent : Int) : List Char :=
  let fraction := digits.drop 1
  digits.take 1 ++ (if fraction.isEmpty then [] else '.' :: fraction) ++
    'e' :: (if exponent < 0 then '-' else '+') :: Nat.toDigits 10 exponent.natAbs

def write (d : Decimal) : List Char :=
  let digits := Nat.toDigits 10 d.digits
  let first := d.exponent + digits.length - 1
  if lowestPlain ≤ first ∧ first ≤ highestPlain then plain digits (first + 1)
  else scientific digits first

end Decimal

namespace Binary64

/-- Digits and sign of a finite number; there is no such text for the others. -/
def written? : Binary64 → Option (List Char)
  | finite negative steps =>
    let text := if steps = 0 then ['0', '.', '0'] else (Decimal.shortest steps).write
    some (if negative then '-' :: text else text)
  | _ => none

example : (ofBits 0x3EE4F8B588E368F1).written? = some "0.00001".toList := by decide +kernel
example : (ofNat (10 ^ 16)).written? = some "1e+16".toList := by decide +kernel
example : (ofNat 150).written? = some "150.0".toList ∧ negZero.written? = some "-0.0".toList := by
  decide +kernel

end Binary64

end PatternSearch
