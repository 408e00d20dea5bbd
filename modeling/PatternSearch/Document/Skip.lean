import PatternSearch.Document.Numeral
import PatternSearch.Document.Quote
/-! # Skipping a value

A value that nobody asks for is skipped. Its brackets, names and separators are checked, but a text
in it may hold half a pair of UTF-16 units, and a number may be of any size. -/
namespace PatternSearch.Document

/-- Past the digits of an exponent, after its letter. -/
def skipExponent (cursor : Cursor) : Except Fault Cursor :=
  let start := (sign cursor).2
  let (found, behind) := digits start
  if found.isEmpty then .error (start.faultAhead .badNumber) else .ok behind

/-- Past an exponent, if there is one. -/
def skipExponentIfAny (cursor : Cursor) : Except Fault Cursor :=
  match cursor.rest with
  | c :: _ => if isExponentMark c then skipExponent (cursor.past c) else .ok cursor
  | [] => .ok cursor

/-- Past a number, after its sign. -/
def skipNumeral (cursor : Cursor) : Except Fault Cursor :=
  let (found, behind) := digits cursor
  match found with
  | [] => .error (cursor.faultAhead .badNumber)
  | '0' :: _ :: _ => .error ⟨.badNumber, cursor.offset + 2⟩
  | _ =>
    match behind.rest with
    | '.' :: _ =>
      let point := behind.past '.'
      let (fraction, behind) := digits point
      if fraction.isEmpty then .error (point.faultAhead .badNumber)
      else skipExponentIfAny behind
    | _ => skipExponentIfAny behind

/-- Past an escape, after its backslash. -/
def skipEscape (cursor : Cursor) : Except Fault Cursor :=
  match cursor.rest with
  | [] => .error (cursor.fault .endInText)
  | c :: _ =>
    if c = 'u' then (fourHex (cursor.past c)).map (·.2)
    else if (shortEscape? c).isSome then .ok (cursor.past c)
    else .error (cursor.faultAhead .badEscape)

/-- Past a text, after its opening quote. -/
def skipTextFrom : (fuel : Nat) → Cursor → Except Fault Cursor
  | 0, cursor => .error (cursor.fault .endInText)
  | fuel + 1, cursor =>
    match cursor.rest with
    | [] => .error (cursor.fault .endInText)
    | c :: _ =>
      if c = '"' then .ok (cursor.past c)
      else if c = '\\' then (skipEscape (cursor.past c)).bind (skipTextFrom fuel)
      else if c.toNat < 0x20 then .error (cursor.fault .controlCharacter)
      else skipTextFrom fuel (cursor.past c)

def skipText (cursor : Cursor) : Except Fault Cursor :=
  skipTextFrom (cursor.rest.length + 1) cursor

/-- A list or a record whose end is still to come. -/
inductive Frame where
  | list
  | record
  deriving DecidableEq

namespace Frame

def closing : Frame → Char
  | list => ']'
  | record => '}'

def noEnd : Frame → Cause
  | list => .noListEnd
  | record => .noRecordEnd

def endIn : Frame → Cause
  | list => .endInList
  | record => .endInRecord

end Frame

/-- Past a value that holds no other, or past an opening bracket. -/
def skipSimple (cursor : Cursor) : Except Fault (Option Frame × Cursor) :=
  let leaf (result : Except Fault Cursor) : Except Fault (Option Frame × Cursor) :=
    result.map fun cursor => (none, cursor)
  match cursor.rest with
  | [] => .error (cursor.fault .endInValue)
  | c :: _ =>
    let behind := cursor.past c
    match c with
    | 'n' => leaf (behind.word ['u', 'l', 'l'])
    | 't' => leaf (behind.word ['r', 'u', 'e'])
    | 'f' => leaf (behind.word ['a', 'l', 's', 'e'])
    | '-' => leaf (skipNumeral behind)
    | '"' => leaf (skipText behind)
    | '[' => .ok (some .list, behind)
    | '{' => .ok (some .record, behind)
    | c => if Text.isDecimal c then leaf (skipNumeral cursor)
      else .error (cursor.faultAhead .noValue)

/-- Past the name of a member and its colon, if the frame is a record. -/
def skipName (frame : Frame) (cursor : Cursor) : Except Fault Cursor :=
  if frame = .list then .ok cursor
  else do
    let cursor := cursor.trim
    let cursor ← match cursor.rest with
      | [] => .error (cursor.fault .endInRecord)
      | c :: _ =>
        if c = '"' then skipText (cursor.past c) else .error (cursor.faultAhead .nameNotText)
    let cursor := cursor.trim
    match cursor.rest with
    | [] => .error (cursor.fault .endInRecord)
    | c :: _ => if c = ':' then .ok (cursor.past c) else .error (cursor.faultAhead .noColon)

/-- What is to come: a value, the first member of a bracket just opened, or what follows a value. -/
inductive Turn where
  | value
  | opened
  | closed
  deriving DecidableEq

/-- Skips to the end of the outermost frame, or past one value if there is no frame. -/
def skipFrom : (fuel : Nat) → List Frame → Turn → Cursor → Except Fault Cursor
  | 0, _, _, cursor => .error (cursor.fault .endInValue)
  | fuel + 1, frames, .value, cursor => do
    match ← skipSimple cursor.trim with
    | (some frame, cursor) => skipFrom fuel (frame :: frames) .opened cursor
    | (none, cursor) => skipFrom fuel frames .closed cursor
  | _, [], _, cursor => .ok cursor
  | fuel + 1, frame :: frames, turn, cursor =>
    let cursor := cursor.trim
    match cursor.rest with
    | [] => .error (cursor.fault frame.endIn)
    | c :: _ =>
      if c = frame.closing then skipFrom fuel frames .closed (cursor.past c)
      else if turn = .opened then
        (skipName frame cursor).bind (skipFrom fuel (frame :: frames) .value)
      else if c = ',' then
        (skipName frame (cursor.past c)).bind (skipFrom fuel (frame :: frames) .value)
      else .error (cursor.faultAhead frame.noEnd)

/-- Past one value. Each value and each bracket takes a character at least and two turns at most. -/
def skipValue (cursor : Cursor) : Except Fault Cursor :=
  skipFrom (2 * cursor.rest.length + 2) [] .value cursor

example : (skipValue ⟨"[1,\x7b\"a\":[]\x7d] x".toList, 0⟩).toOption = some ⟨[' ', 'x'], 12⟩ := by
  decide

end PatternSearch.Document
