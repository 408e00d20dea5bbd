import PatternSearch.Document.Cursor
import PatternSearch.Number.Written
import PatternSearch.Text.Digits
/-! # Numbers in a document

A number is read as a whole number if it is one and fits 64 bits, else as a binary floating-point
number. Of a long number only the leading digits that fit 64 bits are used, and the number made of
them is multiplied or divided by a power of ten, each step rounded. So the result need not be the
nearest one to what is written. -/
namespace PatternSearch.Document
open Text

inductive Numeral where
  | whole (n : Int)
  | real (x : Binary64)
  deriving DecidableEq

def maxUnsigned : Nat := 0xFFFFFFFFFFFFFFFF

/-- Takes digits as long as the number stays within the limit. -/
def gather (limit n : Nat) : List Char → Nat × List Char
  | [] => (n, [])
  | c :: rest =>
    let next := 10 * n + decimalValue c
    if next ≤ limit then gather limit next rest else (n, c :: rest)

/-- The greatest power of ten that is finite. -/
def maxPower : Nat := 308

def powerOfTen (n : Nat) : Binary64 := .ofNat (Nat.pow 10 n)

/-- Divides by a power of ten, in steps of the greatest one. -/
def divideByPower (x : Binary64) : (power fuel : Nat) → Binary64
  | power, 0 => x / powerOfTen power
  | power, fuel + 1 =>
    if power ≤ maxPower then x / powerOfTen power
    else if x = .zero then x
    else divideByPower (x / powerOfTen maxPower) (power - maxPower) fuel

/-- `significand * 10 ^ exponent`; `none` if that is too large. -/
def scaled? (significand : Nat) (exponent : Int) : Option Binary64 :=
  let x := Binary64.ofNat significand
  if exponent < 0 then
    some (divideByPower x exponent.natAbs (exponent.natAbs / maxPower))
  else if exponent.toNat ≤ maxPower then
    let y := x * powerOfTen exponent.toNat
    if y.isFinite then some y else none
  else if x = .zero then some x
  else none

/-- Digits that come next. -/
def digits (cursor : Cursor) : List Char × Cursor :=
  let found := cursor.rest.takeWhile isDecimal
  (found, ⟨cursor.rest.drop found.length, cursor.offset + found.length⟩)

def signed (positive : Bool) (x : Binary64) : Binary64 := if positive then x else -x

/-- The number, at the cursor behind it. -/
def finishReal (positive : Bool) (significand : Nat) (exponent : Int) (cursor : Cursor) :
    Except Fault (Numeral × Cursor) :=
  match scaled? significand exponent with
  | some x => .ok (.real (signed positive x), cursor)
  | none => .error (cursor.fault .outOfRange)

/-- The greatest exponent that may be written. -/
def maxExponent : Nat := 0x7FFFFFFF

/-- A sign that may come next; `true` unless it is a minus. -/
def sign (cursor : Cursor) : Bool × Cursor :=
  match cursor.rest with
  | '+' :: _ => (true, cursor.past '+')
  | '-' :: _ => (false, cursor.past '-')
  | _ => (true, cursor)

/-- The exponent, after its letter. One that is too long to be written makes zero, or a number out
of range at the digit that is too many. -/
def exponentPart (positive : Bool) (significand : Nat) (exponent : Int) (cursor : Cursor) :
    Except Fault (Numeral × Cursor) :=
  let (up, start) := sign cursor
  let (found, behind) := digits start
  if found.isEmpty then
    if start.rest.isEmpty then .error (start.fault .endInValue)
    else .error (start.faultAhead .badNumber)
  else
    let (n, extra) := gather maxExponent 0 found
    if extra.isEmpty then
      finishReal positive significand (if up then exponent + n else exponent - n) behind
    else if up && significand != 0 then
      .error ⟨.outOfRange, start.offset + (found.length - extra.length) + 1⟩
    else .ok (.real (signed positive .zero), behind)

def isExponentMark (c : Char) : Bool := c == 'e' || c == 'E'

/-- What may follow the digits. -/
def exponentOrEnd (positive : Bool) (significand : Nat) (exponent : Int) (cursor : Cursor) :
    Except Fault (Numeral × Cursor) :=
  match cursor.rest with
  | c :: _ =>
    if isExponentMark c then exponentPart positive significand exponent (cursor.past c)
    else finishReal positive significand exponent cursor
  | [] => finishReal positive significand exponent cursor

/-- The fraction, after the point. -/
def fractionPart (positive : Bool) (significand : Nat) (exponent : Int) (cursor : Cursor) :
    Except Fault (Numeral × Cursor) :=
  let (found, behind) := digits cursor
  if found.isEmpty then
    .error (cursor.faultAhead (if cursor.rest.isEmpty then .endInValue else .badNumber))
  else
    let (significand, extra) := gather maxUnsigned significand found
    let used := found.length - extra.length
    exponentOrEnd positive significand (exponent - used) behind

/-- A whole number that fits 64 bits, with a sign or without. The negative zero is not one. -/
def wholeOrReal (positive : Bool) (n : Nat) : Numeral :=
  if positive then .whole n
  else if n = 0 ∨ 1 <<< 63 < n then .real (-.ofNat n)
  else .whole (-n)

/-- A number, after its sign. -/
def readNumeral (positive : Bool) (cursor : Cursor) : Except Fault (Numeral × Cursor) :=
  let (found, behind) := digits cursor
  match found with
  | [] =>
    if cursor.rest.isEmpty then .error (cursor.fault .endInValue)
    else .error (cursor.faultAhead .badNumber)
  | '0' :: _ :: _ => .error ⟨.badNumber, cursor.offset + 2⟩
  | _ =>
    let (significand, extra) := gather maxUnsigned 0 found
    match behind.rest with
    | '.' :: _ => fractionPart positive significand extra.length (behind.past '.')
    | c :: _ =>
      if isExponentMark c then exponentPart positive significand extra.length (behind.past c)
      else if extra.isEmpty then .ok (wholeOrReal positive significand, behind)
      else finishReal positive significand extra.length behind
    | [] =>
      if extra.isEmpty then .ok (wholeOrReal positive significand, behind)
      else finishReal positive significand extra.length behind

example : (readNumeral true ⟨"18446744073709551616 ".toList, 0⟩).toOption =
    some (.real (.ofNat (2 ^ 64)), ⟨[' '], 20⟩) := by decide +kernel

end PatternSearch.Document
