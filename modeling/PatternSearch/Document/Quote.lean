import PatternSearch.Document.Cursor
import PatternSearch.Text.Digits
/-! # Texts in a document

A text stands in double quotes. Quotes, backslashes and control characters are written by escapes;
every character may be, by its UTF-16 units in four hexadecimal digits each. -/
namespace PatternSearch.Document
open Text

/-- How a character is written in a text. -/
def escaped (c : Char) : List Char :=
  match c with
  | '"' => ['\\', '"']
  | '\\' => ['\\', '\\']
  | '\x08' => ['\\', 'b']
  | '\x0C' => ['\\', 'f']
  | '\n' => ['\\', 'n']
  | '\r' => ['\\', 'r']
  | '\t' => ['\\', 't']
  | c =>
    if c.toNat < 0x10 then ['\\', 'u', '0', '0', '0'] ++ lowerHex c.toNat
    else if c.toNat < 0x20 then ['\\', 'u', '0', '0'] ++ lowerHex c.toNat
    else [c]

def writeText (text : String) : List Char := '"' :: text.toList.flatMap escaped ++ ['"']

/-- The character of a short escape, after its backslash. -/
def shortEscape? : Char → Option Char
  | '"' => some '"'
  | '\\' => some '\\'
  | '/' => some '/'
  | 'b' => some '\x08'
  | 'f' => some '\x0C'
  | 'n' => some '\n'
  | 'r' => some '\r'
  | 't' => some '\t'
  | _ => none

/-- Four hexadecimal digits; a fault lies behind the four bytes. -/
def fourHex (cursor : Cursor) : Except Fault (Nat × Cursor) :=
  match cursor.rest with
  | a :: b :: c :: d :: rest =>
    match hexNumber? [a, b, c, d] with
    | some n => .ok (n, ⟨rest, cursor.offset + 4⟩)
    | none => .error ⟨.badEscape, cursor.offset + 4⟩
  | rest =>
    if 4 ≤ byteWidth rest then .error ⟨.badEscape, cursor.offset + 4⟩
    else .error ⟨.endInText, cursor.offset + byteWidth rest⟩

/-- A character that the escape has to go on with. -/
def required (cursor : Cursor) (c : Char) : Except Fault Cursor :=
  match cursor.rest with
  | [] => .error (cursor.fault .endInText)
  | d :: _ => if d = c then .ok (cursor.past d) else .error (cursor.faultAhead .brokenSurrogate)

/-- The character of one UTF-16 unit, or of a pair of them. -/
def unitEscape (cursor : Cursor) : Except Fault (Char × Cursor) := do
  let (high, cursor) ← fourHex cursor
  if 0xDC00 ≤ high ∧ high ≤ 0xDFFF then .error (cursor.fault .loneSurrogate)
  else if high < 0xD800 ∨ 0xDBFF < high then return (Char.ofNat high, cursor)
  else
    let cursor ← required cursor '\\'
    let cursor ← required cursor 'u'
    let (low, cursor) ← fourHex cursor
    if low < 0xDC00 ∨ 0xDFFF < low then .error (cursor.fault .loneSurrogate)
    else return (Char.ofNat (0x10000 + (high - 0xD800) * 0x400 + (low - 0xDC00)), cursor)

/-- An escape, after its backslash. -/
def escape (cursor : Cursor) : Except Fault (Char × Cursor) :=
  match cursor.rest with
  | [] => .error (cursor.fault .endInText)
  | c :: _ =>
    if c = 'u' then unitEscape (cursor.past c)
    else match shortEscape? c with
      | some d => .ok (d, cursor.past c)
      | none => .error (cursor.faultAhead .badEscape)

/-- The next character of a text; `none` at the closing quote. -/
def textChar (cursor : Cursor) : Except Fault (Option Char × Cursor) :=
  match cursor.rest with
  | [] => .error (cursor.fault .endInText)
  | c :: _ =>
    if c = '"' then .ok (none, cursor.past c)
    else if c = '\\' then (escape (cursor.past c)).map fun (d, cursor) => (some d, cursor)
    else if c.toNat < 0x20 then .error (cursor.faultAhead .controlCharacter)
    else .ok (some c, cursor.past c)

def textFrom : (fuel : Nat) → Cursor → Except Fault (List Char × Cursor)
  | 0, cursor => .error (cursor.fault .endInText)
  | fuel + 1, cursor => do
    match ← textChar cursor with
    | (none, cursor) => return ([], cursor)
    | (some c, cursor) =>
      let (text, cursor) ← textFrom fuel cursor
      return (c :: text, cursor)

/-- A text, after its opening quote. Each character of it takes one of the document at least. -/
def readText (cursor : Cursor) : Except Fault (String × Cursor) :=
  (textFrom (cursor.rest.length + 1) cursor).map fun (text, cursor) =>
    (String.ofList text, cursor)

example : (readText ⟨"a\\u00e9\\ud83d\\ude00\"!".toList, 0⟩).toOption =
    some ("aé😀", ⟨['!'], 20⟩) := by decide

end PatternSearch.Document
