import PatternSearch.Document.Skip
import PatternSearch.Document.Value
import PatternSearch.Text.Quoted
/-! # Readers of values

A reader reads one value of a certain form. What is expected is named in the faults it reports. -/
namespace PatternSearch.Document

abbrev Reader := Cursor → Except Fault (Value × Cursor)

/-- The number in words. -/
def Numeral.describe : Numeral → String
  | .whole n => s!"integer `{n}`"
  | .real x => s!"floating point `{String.ofList (Value.writeReal x)}`"

/-- What stands at the cursor in words, and the cursor behind as much of it as has to be looked
at. -/
def describe (cursor : Cursor) : Except Fault (String × Cursor) :=
  match cursor.rest with
  | [] => .error (cursor.faultAhead .noValue)
  | c :: _ =>
    let behind := cursor.past c
    let say (words : String) (result : Except Fault Cursor) : Except Fault (String × Cursor) :=
      result.map fun cursor => (words, cursor)
    match c with
    | 'n' => say "null" (behind.word ['u', 'l', 'l'])
    | 't' => say "boolean `true`" (behind.word ['r', 'u', 'e'])
    | 'f' => say "boolean `false`" (behind.word ['a', 'l', 's', 'e'])
    | '-' => (readNumeral false behind).map fun (n, cursor) => (n.describe, cursor)
    | '"' => (readText behind).map fun (s, cursor) => (s!"string {Text.quoted s}", cursor)
    | '[' => .ok ("sequence", cursor)
    | '{' => .ok ("map", cursor)
    | c =>
      if Text.isDecimal c then
        (readNumeral true cursor).map fun (n, cursor) => (n.describe, cursor)
      else .error (cursor.faultAhead .noValue)

/-- The fault of a value that is not of the expected form. -/
def unexpected (expected : String) (cursor : Cursor) : Fault :=
  match describe cursor with
  | .ok (found, cursor) => cursor.fault (.wrongType found expected)
  | .error fault => fault

/-- Goes on with the character that comes next, past the blanks. -/
def atValue {α : Type} (go : Char → Cursor → Except Fault α) (cursor : Cursor) : Except Fault α :=
  let cursor := cursor.trim
  match cursor.rest with
  | [] => .error (cursor.fault .endInValue)
  | c :: _ => go c cursor

def textOf (expected : String) (cursor : Cursor) : Except Fault (String × Cursor) :=
  atValue (fun c cursor =>
    if c = '"' then readText (cursor.past c) else .error (unexpected expected cursor)) cursor

namespace Reader

def text : Reader := fun cursor =>
  (textOf "a string" cursor).map fun (s, cursor) => (.text s, cursor)

/-- A number that `accept` takes; its fault lies behind the number. -/
def numeral (expected : String) (accept : Numeral → Except Cause Value) : Reader :=
  atValue fun c cursor =>
    let finish (result : Except Fault (Numeral × Cursor)) : Except Fault (Value × Cursor) := do
      let (n, cursor) ← result
      match accept n with
      | .ok v => .ok (v, cursor)
      | .error cause => .error (cursor.fault cause)
    if c = '-' then finish (readNumeral false (cursor.past c))
    else if Text.isDecimal c then finish (readNumeral true cursor)
    else .error (unexpected expected cursor)

/-- A whole number between two bounds. -/
def between (lo hi : Int) (expected : String) : Reader :=
  numeral expected fun n =>
    match n with
    | .whole i =>
      if lo ≤ i ∧ i ≤ hi then .ok (.whole i) else .error (.wrongValue n.describe expected)
    | .real _ => .error (.wrongType n.describe expected)

/-- A count of 64 bits. -/
def size : Reader := between 0 maxUnsigned "usize"

def unsigned64 : Reader := between 0 maxUnsigned "u64"
def unsigned32 : Reader := between 0 0xFFFFFFFF "u32"
def signed64 : Reader := between Binary64.minInt64 Binary64.maxInt64 "i64"

/-- Any number, as a binary floating-point number. -/
def real : Reader :=
  numeral "f64" fun n =>
    match n with
    | .whole i => .ok (.real (signed (0 ≤ i) (.ofNat i.natAbs)))
    | .real x => .ok (.real x)

/-- The empty value, or what the reader reads. -/
def optional (read : Reader) : Reader := fun cursor =>
  let cursor := cursor.trim
  match cursor.rest with
  | 'n' :: _ => ((cursor.past 'n').word ['u', 'l', 'l']).map fun cursor => (.null, cursor)
  | _ => read cursor

/-- To the next item of a list, if there is one; else the cursor stays before the closing
bracket. -/
def nextItem (first : Bool) (cursor : Cursor) : Except Fault (Bool × Cursor) :=
  let cursor := cursor.trim
  match cursor.rest with
  | [] => .error (cursor.fault .endInList)
  | c :: _ =>
    if c = ']' then .ok (false, cursor)
    else if first then .ok (true, cursor)
    else if c = ',' then
      let cursor := (cursor.past c).trim
      match cursor.rest with
      | [] => .error (cursor.fault .endInValue)
      | ']' :: _ => .error (cursor.faultAhead .trailingComma)
      | _ => .ok (true, cursor)
    else .error (cursor.faultAhead .noListEnd)

/-- Past the closing bracket of a list that has to end. -/
def endList (cursor : Cursor) : Except Fault Cursor :=
  let cursor := cursor.trim
  match cursor.rest with
  | [] => .error (cursor.fault .endInList)
  | c :: _ =>
    if c = ']' then .ok (cursor.past c)
    else if c = ',' then
      let cursor := (cursor.past c).trim
      match cursor.rest with
      | ']' :: _ => .error (cursor.faultAhead .trailingComma)
      | _ => .error (cursor.faultAhead .trailing)
    else .error (cursor.faultAhead .trailing)

def itemsFrom (read : Reader) : (fuel : Nat) → (first : Bool) → Cursor →
    Except Fault (List Value × Cursor)
  | 0, _, cursor => .error (cursor.fault .endInList)
  | fuel + 1, first, cursor => do
    let (more, cursor) ← nextItem first cursor
    if more then
      let (item, cursor) ← read cursor
      let (items, cursor) ← itemsFrom read fuel false cursor
      return (item :: items, cursor)
    else return ([], cursor)

/-- A list of values of one form. -/
def list (read : Reader) : Reader :=
  atValue fun c cursor =>
    if c = '[' then do
      let cursor := cursor.past c
      let (items, cursor) ← itemsFrom read (cursor.rest.length + 1) true cursor
      return (.list items, ← endList cursor)
    else .error (unexpected "a sequence" cursor)

/-- Past a colon. -/
def colon (cursor : Cursor) : Except Fault Cursor :=
  let cursor := cursor.trim
  match cursor.rest with
  | [] => .error (cursor.fault .endInRecord)
  | c :: _ => if c = ':' then .ok (cursor.past c) else .error (cursor.faultAhead .noColon)

/-- To the name of the next member, if there is one; else the cursor stays before the closing
brace. -/
def nextMember (first : Bool) (cursor : Cursor) : Except Fault (Bool × Cursor) :=
  let cursor := cursor.trim
  let named (cursor : Cursor) : Except Fault (Bool × Cursor) :=
    match cursor.rest with
    | '"' :: _ => .ok (true, cursor)
    | _ => .error (cursor.faultAhead .nameNotText)
  match cursor.rest with
  | [] => .error (cursor.fault .endInRecord)
  | c :: _ =>
    if c = '}' then .ok (false, cursor)
    else if first then named cursor
    else if c = ',' then
      let cursor := (cursor.past c).trim
      match cursor.rest with
      | [] => .error (cursor.fault .endInValue)
      | '}' :: _ => .error (cursor.faultAhead .trailingComma)
      | _ => named cursor
    else .error (cursor.faultAhead .noRecordEnd)

/-- One of several names, as a text. -/
def name (choices : List String) (cursor : Cursor) : Except Fault (Value × Cursor) := do
  let (s, cursor) ← textOf "variant identifier" cursor
  if choices.contains s then return (.text s, cursor)
  else .error (cursor.fault (.unknownChoice s choices))

/-- One of several names, alone or as the only member of a record whose value is empty. -/
def choice (choices : List String) : Reader :=
  atValue fun c cursor =>
    if c = '"' then name choices cursor
    else if c = '{' then do
      let (named, cursor) ← nextMember true (cursor.past c)
      if !named then throw (cursor.faultAhead .noValue)
      let (v, cursor) ← name choices cursor
      let cursor ← atValue (fun c cursor =>
        if c = 'n' then (cursor.past c).word ['u', 'l', 'l']
        else .error (unexpected "unit" cursor)) (← colon cursor)
      let cursor := cursor.trim
      match cursor.rest with
      | [] => .error (cursor.fault .endInRecord)
      | c :: _ => if c = '}' then return (v, cursor.past c) else .error (cursor.fault .noValue)
    else .error (cursor.faultAhead .noValue)

/-- What a member of a record is when it is not there. -/
inductive Absent where
  | refused
  /-- Empty in a record written with names, refused in one written as a list. -/
  | empty
  | given (v : Value)

structure Slot where
  name : String
  read : Reader
  absent : Absent := .refused

/-- A fault of a record as a whole lies where the record could end at the earliest. -/
def recordFault (cause : Cause) (cursor : Cursor) : Fault :=
  let cursor := cursor.trim
  match cursor.rest with
  | '}' :: _ => (cursor.past '}').fault cause
  | _ => cursor.fault cause

/-- The members that have a slot, each once; others are skipped. -/
def membersFrom (slots : List Slot) : (fuel : Nat) → (first : Bool) →
    (found : List (String × Value)) → Cursor → Except Fault (List (String × Value) × Cursor)
  | 0, _, _, cursor => .error (cursor.fault .endInRecord)
  | fuel + 1, first, found, cursor => do
    let (more, cursor) ← nextMember first cursor
    if more then
      let (key, cursor) ← readText (cursor.past '"')
      match slots.find? (·.name == key) with
      | some slot =>
        if (found.lookup key).isSome then .error (recordFault (.duplicate key) cursor)
        else
          let (v, cursor) ← slot.read (← colon cursor)
          membersFrom slots fuel false ((key, v) :: found) cursor
      | none =>
        let cursor ← skipValue (← colon cursor)
        membersFrom slots fuel false found cursor
    else return (found, cursor)

/-- The members in the order of the slots. The cursor stands before the closing brace. -/
def complete (found : List (String × Value)) (cursor : Cursor) :
    List Slot → Except Fault (List (String × Value))
  | [] => .ok []
  | slot :: slots =>
    match found.lookup slot.name, slot.absent with
    | some v, _ | none, .given v => (complete found cursor slots).map ((slot.name, v) :: ·)
    | none, .empty => (complete found cursor slots).map ((slot.name, .null) :: ·)
    | none, .refused => .error (recordFault (.missing slot.name) cursor)

/-- The members of a record that is written as a list, in the order of the slots. -/
def itemsOf (expected : String) (index : Nat) (first : Bool) (cursor : Cursor) :
    List Slot → Except Fault (List (String × Value) × Cursor)
  | [] => .ok ([], cursor)
  | slot :: slots => do
    let (more, cursor) ← nextItem first cursor
    if more then
      let (v, cursor) ← slot.read cursor
      let (members, cursor) ← itemsOf expected (index + 1) false cursor slots
      return ((slot.name, v) :: members, cursor)
    else match slot.absent with
      | .given v =>
        let (members, cursor) ← itemsOf expected (index + 1) first cursor slots
        return ((slot.name, v) :: members, cursor)
      | _ => .error ((cursor.past ']').fault (.wrongLength index expected))

/-- A record with a name: its members by name, in any order, or all in a list. -/
def record (name : String) (slots : List Slot) : Reader :=
  atValue fun c cursor =>
    if c = '{' then do
      let cursor := cursor.past c
      let (found, cursor) ← membersFrom slots (cursor.rest.length + 1) true [] cursor
      let members ← complete found cursor slots
      return (.record members, cursor.past '}')
    else if c = '[' then do
      let expected := s!"struct {name} with {slots.length} elements"
      let (members, cursor) ← itemsOf expected 0 true (cursor.past c) slots
      return (.record members, ← endList cursor)
    else .error (unexpected s!"struct {name}" cursor)

/-- Reads a document of one value. -/
def readAll (read : Reader) (text : String) : Except Fault Value := do
  let (v, cursor) ← read ⟨text.toList, 0⟩
  let cursor := cursor.trim
  if cursor.rest.isEmpty then return v else .error (cursor.faultAhead .trailing)

end Reader

end PatternSearch.Document
