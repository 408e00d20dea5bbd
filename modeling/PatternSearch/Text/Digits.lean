/-! # Digits of numerals -/
namespace PatternSearch.Text

def isDecimal (c : Char) : Bool := '0' ≤ c && c ≤ '9'

def decimalValue (c : Char) : Nat := c.toNat - '0'.toNat

/-- Value of a string of decimal digits. -/
def decimalNumber (digits : List Char) : Nat :=
  digits.foldl (fun n c => 10 * n + decimalValue c) 0

/-- Value of a hexadecimal digit in either case. -/
def hexValue? (c : Char) : Option Nat :=
  if '0' ≤ c && c ≤ '9' then some (c.toNat - '0'.toNat)
  else if 'a' ≤ c && c ≤ 'f' then some (c.toNat - 'a'.toNat + 10)
  else if 'A' ≤ c && c ≤ 'F' then some (c.toNat - 'A'.toNat + 10)
  else none

/-- Value of a string of hexadecimal digits; `none` if another character occurs. -/
def hexNumber? (digits : List Char) : Option Nat :=
  digits.foldlM (fun n c => (hexValue? c).map (16 * n + ·)) 0

def lowerHex (n : Nat) : List Char := Nat.toDigits 16 n

example : hexNumber? ['1', 'f', 'A'] = some 0x1FA ∧ hexNumber? ['g'] = none := by decide

end PatternSearch.Text
