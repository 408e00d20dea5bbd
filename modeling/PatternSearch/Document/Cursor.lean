import PatternSearch.Text.Width
/-! # Reading a document

A reader goes through a document from left to right and stops at the first fault. A fault has a cause
and a place, a count of bytes from the start. -/
namespace PatternSearch.Document

/-- What can be wrong with a document. -/
inductive Cause where
  | endInList
  | endInRecord
  | endInText
  | endInValue
  | noColon
  | noListEnd
  | noRecordEnd
  | badWord
  | noValue
  | badEscape
  | badNumber
  | outOfRange
  | controlCharacter
  | nameNotText
  | loneSurrogate
  | brokenSurrogate
  | trailingComma
  | trailing
  | wrongType (found expected : String)
  | wrongValue (found expected : String)
  | wrongLength (length : Nat) (expected : String)
  | unknownChoice (found : String) (choices : List String)
  | missing (name : String)
  | duplicate (name : String)
  deriving DecidableEq

/-- A list of choices in words. -/
def oneOf : List String → String
  | [] => "nothing"
  | [a] => s!"`{a}`"
  | [a, b] => s!"`{a}` or `{b}`"
  | choices => "one of " ++ String.intercalate ", " (choices.map fun a => s!"`{a}`")

def Cause.message : Cause → String
  | endInList => "EOF while parsing a list"
  | endInRecord => "EOF while parsing an object"
  | endInText => "EOF while parsing a string"
  | endInValue => "EOF while parsing a value"
  | noColon => "expected `:`"
  | noListEnd => "expected `,` or `]`"
  | noRecordEnd => "expected `,` or `\x7d`"
  | badWord => "expected ident"
  | noValue => "expected value"
  | badEscape => "invalid escape"
  | badNumber => "invalid number"
  | outOfRange => "number out of range"
  | controlCharacter => "control character (\\u0000-\\u001F) found while parsing a string"
  | nameNotText => "key must be a string"
  | loneSurrogate => "lone leading surrogate in hex escape"
  | brokenSurrogate => "unexpected end of hex escape"
  | trailingComma => "trailing comma"
  | trailing => "trailing characters"
  | wrongType found expected => s!"invalid type: {found}, expected {expected}"
  | wrongValue found expected => s!"invalid value: {found}, expected {expected}"
  | wrongLength length expected => s!"invalid length {length}, expected {expected}"
  | unknownChoice found choices => s!"unknown variant `{found}`, expected {oneOf choices}"
  | missing name => s!"missing field `{name}`"
  | duplicate name => s!"duplicate field `{name}`"

structure Fault where
  cause : Cause
  /-- Bytes of the document before the place. -/
  offset : Nat
  deriving DecidableEq

/-- Line and column of the place behind so many bytes. Lines are counted from one, columns in bytes
from the start of the line. -/
def place (line column : Nat) : List Char → Nat → Nat × Nat
  | [], _ => (line, column)
  | c :: rest, bytes =>
    if bytes < c.utf8Size then (line, column + bytes)
    else if c = '\n' then place (line + 1) 0 rest (bytes - 1)
    else place line (column + c.utf8Size) rest (bytes - c.utf8Size)

def Fault.message (fault : Fault) (text : String) : String :=
  let (line, column) := place 1 0 text.toList fault.offset
  s!"{fault.cause.message} at line {line} column {column}"

/-- The text that is left, and the bytes before it. -/
structure Cursor where
  rest : List Char
  offset : Nat := 0
  deriving DecidableEq

namespace Cursor

/-- Past a character that is known to come next. -/
def past (cursor : Cursor) (c : Char) : Cursor :=
  ⟨cursor.rest.drop 1, cursor.offset + c.utf8Size⟩

/-- A fault at the cursor. -/
def fault (cursor : Cursor) (cause : Cause) : Fault := ⟨cause, cursor.offset⟩

/-- A fault of the next character: its place is behind the first byte of it, if there is any. -/
def faultAhead (cursor : Cursor) (cause : Cause) : Fault :=
  ⟨cause, if cursor.rest.isEmpty then cursor.offset else cursor.offset + 1⟩

def isBlank (c : Char) : Bool := c == ' ' || c == '\n' || c == '\t' || c == '\r'

/-- Past the blanks that come next. -/
def dropBlanks (offset : Nat) : List Char → Cursor
  | [] => ⟨[], offset⟩
  | c :: rest => if isBlank c then dropBlanks (offset + c.utf8Size) rest else ⟨c :: rest, offset⟩

def trim (cursor : Cursor) : Cursor := dropBlanks cursor.offset cursor.rest

/-- Past a word that has to come next, given the rest of it. -/
def word (cursor : Cursor) : List Char → Except Fault Cursor
  | [] => .ok cursor
  | c :: word =>
    match cursor.rest with
    | [] => .error (cursor.fault .endInValue)
    | d :: _ =>
      if d = c then (cursor.past d).word word else .error (cursor.faultAhead .badWord)

end Cursor

example : place 1 0 "a\né".toList 3 = (2, 1) := by decide

end PatternSearch.Document
