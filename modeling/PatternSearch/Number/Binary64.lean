/-! # Binary floating-point numbers of 64 bits

A finite number is a sign and a whole number of steps, a step being `2 ^ -1074`. At most 53 binary
digits of the count of steps are significant. Every operation computes the exact result as a
fraction of steps and rounds it to the nearest number, a tie going to the even one. -/
namespace PatternSearch

inductive Binary64 where
  | nan
  | infinite (negative : Bool)
  | finite (negative : Bool) (steps : Nat)
  deriving DecidableEq, Inhabited

namespace Binary64

/-- Steps in the number one. -/
def one : Nat := 1 <<< 1074

/-- Counts of steps from here on are infinite. -/
def overflow : Nat := 1 <<< 2098

/-- Binary digits of a count of steps that do not fit the significand. -/
def spare (steps : Nat) : Nat := steps.log2 - 52

/-- The whole number nearest to `num / den`, a tie going to the even one. -/
def divHalfEven (num den : Nat) : Nat :=
  let q := num / den
  match compare (2 * (num % den)) den with
  | .lt => q
  | .eq => q + q % 2
  | .gt => q + 1

/-- The representable count of steps nearest to `num / den`. -/
def nearestSteps (num den : Nat) : Nat :=
  let scale := 1 <<< spare (num / den)
  divHalfEven num (den * scale) * scale

def ofSteps (negative : Bool) (steps : Nat) : Binary64 :=
  if overflow ≤ steps then infinite negative else finite negative steps

/-- The number nearest to `num / den` steps. -/
def nearest (negative : Bool) (num den : Nat) : Binary64 :=
  ofSteps negative (nearestSteps num den)

def zero : Binary64 := finite false 0
def negZero : Binary64 := finite true 0

def ofNat (n : Nat) : Binary64 := nearest false (n * one) 1

def half : Binary64 := finite false (1 <<< 1073)

def neg : Binary64 → Binary64
  | nan => nan
  | infinite s => infinite (!s)
  | finite s a => finite (!s) a

/-- Opposite numbers add up to the positive zero. -/
def add : Binary64 → Binary64 → Binary64
  | nan, _ => nan
  | _, nan => nan
  | infinite s, infinite t => if s = t then infinite s else nan
  | infinite s, finite _ _ => infinite s
  | finite _ _, infinite t => infinite t
  | finite s a, finite t b =>
    if s = t then nearest s (a + b) 1
    else if a = b then zero
    else if b < a then nearest s (a - b) 1
    else nearest t (b - a) 1

def sub (x y : Binary64) : Binary64 := add x (neg y)

def mul : Binary64 → Binary64 → Binary64
  | nan, _ => nan
  | _, nan => nan
  | infinite s, infinite t => infinite (s != t)
  | infinite s, finite t b => if b = 0 then nan else infinite (s != t)
  | finite s a, infinite t => if a = 0 then nan else infinite (s != t)
  | finite s a, finite t b => nearest (s != t) (a * b) one

def div : Binary64 → Binary64 → Binary64
  | nan, _ => nan
  | _, nan => nan
  | infinite _, infinite _ => nan
  | infinite s, finite t _ => infinite (s != t)
  | finite s _, infinite t => finite (s != t) 0
  | finite s a, finite t b =>
    if b = 0 then if a = 0 then nan else infinite (s != t)
    else nearest (s != t) (a * one) b

instance : Add Binary64 := ⟨add⟩
instance : Sub Binary64 := ⟨sub⟩
instance : Neg Binary64 := ⟨neg⟩
instance : Mul Binary64 := ⟨mul⟩
instance : Div Binary64 := ⟨div⟩

/-- The greatest whole number that is not above the given one. -/
def floor : Binary64 → Binary64
  | finite false a => finite false (a / one * one)
  | finite true a => finite true ((a + (one - 1)) / one * one)
  | x => x

/-- Signed count of steps of a finite number. -/
def signedSteps (negative : Bool) (steps : Nat) : Int := if negative then -steps else steps

/-- Order of numbers; the two zeros are equal, and nothing is comparable with `nan`. -/
def le : Binary64 → Binary64 → Bool
  | nan, _ => false
  | _, nan => false
  | infinite s, infinite t => s || !t
  | infinite s, finite _ _ => s
  | finite _ _, infinite t => !t
  | finite s a, finite t b => signedSteps s a ≤ signedSteps t b

def isFinite : Binary64 → Bool
  | finite _ _ => true
  | _ => false

def minInt64 : Int := -0x8000000000000000
def maxInt64 : Int := 0x7FFFFFFFFFFFFFFF

/-- Drop the fraction and clamp to 64 signed bits; `nan` gives zero. -/
def toInt64 : Binary64 → Int
  | nan => 0
  | infinite s => if s then minInt64 else maxInt64
  | finite s a => max minInt64 (min maxInt64 (signedSteps s (a / one)))

/-- The nearest whole number of 64 bits, a half going up. -/
def roundHalfUp (x : Binary64) : Int :=
  if le half (x - x.floor) then x.floor.toInt64 + 1 else x.floor.toInt64

/-- Position of a finite number among the numbers of its sign, counted from zero. -/
def rank (steps : Nat) : Nat := spare steps <<< 52 + steps >>> spare steps

/-- The count of steps at a position. -/
def stepsOfRank (rank : Nat) : Nat :=
  let spare := rank >>> 52 - 1
  (rank - spare <<< 52) <<< spare

/-- Position of the infinities, above all finite numbers. -/
def infiniteRank : Nat := 2047 <<< 52

def signBit (negative : Bool) : Nat := if negative then 1 <<< 63 else 0

/-- The interchange format: sign, exponent and fraction from the top bit down. -/
def toBits : Binary64 → Nat
  | nan => infiniteRank + 1 <<< 51
  | infinite s => signBit s + infiniteRank
  | finite s a => signBit s + rank a

def ofBits (bits : Nat) : Binary64 :=
  let negative := bits >>> 63 % 2 == 1
  let rank := bits % (1 <<< 63)
  if rank < infiniteRank then finite negative (stepsOfRank rank)
  else if rank = infiniteRank then infinite negative
  else nan

/-- Sum from left to right, starting at the negative zero. -/
def sum (xs : List Binary64) : Binary64 := xs.foldl (· + ·) negZero

example : ofNat 1 = ofBits 0x3FF0000000000000 := by decide +kernel
example : (ofNat 1 / ofNat 3).toBits = 0x3FD5555555555555 := by decide +kernel
example : (ofNat 1 - ofNat 1).toBits = 0 ∧ (negZero + negZero) = negZero := by decide +kernel
example : (floor (ofBits 0xBFDFFFFFFFFFFFFF)).toBits = 0xBFF0000000000000 := by decide +kernel
example : roundHalfUp (half + ofNat 1) = 2 ∧ roundHalfUp (-half) = 0 := by decide +kernel

end Binary64

end PatternSearch
