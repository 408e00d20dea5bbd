import PatternSearch.Pattern.Flags
import PatternSearch.Pattern.Look
import PatternSearch.Text.Digits
import PatternSearch.Unicode.CaseFold
/-! # Escapes

The forms that start with a backslash: characters by number, classes, properties and places. Each
reader is given the text after what is named in its comment and returns the text that is left. -/
namespace PatternSearch.Pattern
open Text Unicode

/-- What a character or an escape stands for. -/
inductive Atom where
  /-- `isByte` marks a character given by exactly two hexadecimal digits. -/
  | literal (c : Char) (isByte : Bool)
  | look (l : Look)
  | set (s : CharSet)
  deriving DecidableEq

namespace Flags

/-- The set with every character that differs from a member in case alone, if case is to be
ignored. -/
def closeCase (flags : Flags) (s : CharSet) : CharSet :=
  if flags.caseless then if flags.unicode then s.folded else s.foldedAscii else s

/-- The set, or all other characters. Without Unicode a set holds ASCII alone and cannot be turned
around, since the result would match half a character. -/
def turn? (flags : Flags) (negated : Bool) (s : CharSet) : Option CharSet :=
  if negated then if flags.unicode then some s.complement else none else some s

end Flags

namespace Escape

/-- What stands between braces, after the opening one. -/
def braced (spaced : Bool) : (inComment : Bool) → List Char → Option (List Char × List Char)
  | _, [] => none
  | true, c :: rest => braced spaced (c != '\n') rest
  | false, c :: rest =>
    if c = '}' then some ([], rest)
    else if spaced && isBlank c then braced spaced false rest
    else if spaced && c = '#' then braced spaced true rest
    else (braced spaced false rest).map fun (name, rest) => (c :: name, rest)

/-- Exactly `n` characters that mean something. -/
def fixed (flags : Flags) : (n : Nat) → List Char → Option (List Char × List Char)
  | 0, text => some ([], text)
  | n + 1, text =>
    match flags.skip text with
    | [] => none
    | c :: rest => (fixed flags n rest).map fun (digits, rest) => (c :: digits, rest)

/-- The character with a number, unless the number belongs to no character. -/
def scalar? (n : Nat) : Option Char :=
  if h : n.isValidChar then some (Char.ofNatAux n h) else none

def character? (digits : List Char) : Option Char :=
  if digits.isEmpty then none else (hexNumber? digits).bind scalar?

/-- A character by its number, after the letter that says how many digits to read. -/
def numbered (flags : Flags) (width : Nat) (text : List Char) : Option (Atom × List Char) :=
  match flags.skip text with
  | '{' :: rest => do
    let (digits, rest) ← braced flags.spaced false rest
    return (.literal (← character? digits) false, rest)
  | text => do
    let (digits, rest) ← fixed flags width text
    return (.literal (← character? digits) (width == 2), rest)

/-- The parts before and after the first occurrence of `mark`. -/
def splitAt? (mark : List Char) : List Char → Option (List Char × List Char)
  | [] => none
  | c :: rest =>
    if mark.isPrefixOf (c :: rest) then some ([], (c :: rest).drop mark.length)
    else (splitAt? mark rest).map fun (before, after) => (c :: before, after)

/-- A property by a name, or by a kind and a value with a sign between them. The flag says that the
sign asks for all other characters. -/
def property? (text : List Char) : Option (Bool × CharSet) :=
  match splitAt? ['!', '='] text with
  | some (kind, value) => (Property.valued? kind value).map (true, ·)
  | none =>
    match (splitAt? [':'] text).or (splitAt? ['='] text) with
    | some (kind, value) => (Property.valued? kind value).map (false, ·)
    | none => (Property.named? text).map (false, ·)

/-- Properties are known for all characters only; they grow with the case rule before they are
turned around. -/
def propertySet? (flags : Flags) (negated : Bool) (text : List Char) : Option CharSet := do
  if !flags.unicode then none
  let (unequal, s) ← property? text
  flags.turn? (negated != unequal) (flags.closeCase s)

/-- Name of a property: a single letter, or what stands between braces. -/
def propertyName (flags : Flags) (text : List Char) : Option (List Char × List Char) :=
  match flags.skip text with
  | [] => none
  | c :: rest =>
    if c = '{' then braced flags.spaced false rest
    else if c = '\\' then none
    else some ([c], rest)

/-- A property, after the letter `p`. -/
def property (flags : Flags) (negated : Bool) (text : List Char) : Option (Atom × List Char) := do
  let (name, rest) ← propertyName flags text
  return (.set (← propertySet? flags negated name), rest)

/-- The classes of digits, blanks and word characters; the capital letter turns a class around. -/
def classSet? (flags : Flags) (c : Char) : Option CharSet :=
  flags.turn? c.isUpper <|
    if flags.unicode then match c.toLower with
      | 'd' => digitSet
      | 's' => blankSet
      | _ => wordSet
    else match c.toLower with
      | 'd' => .span '0' '9'
      | 's' => .ofSpans [('\t', '\r'), (' ', ' ')]
      | _ => asciiWordSet

/-- Name of a kind of word edge, up to the closing brace. -/
def edgeName (flags : Flags) (text : List Char) : Option (List Char × List Char) := do
  let (name, rest) ← braced flags.spaced false text
  if name.all fun c => c.isAlpha || c = '-' then return (name, rest) else none

def namedEdge? (ascii : Bool) (name : List Char) : Option Look :=
  match String.ofList name with
  | "start" => some (.wordStart ascii)
  | "end" => some (.wordEnd ascii)
  | "start-half" => some (.noWordBefore ascii)
  | "end-half" => some (.noWordAfter ascii)
  | _ => none

/-- A word edge, after the letter `b`. Braces that do not begin with a letter belong to a repetition
that follows. -/
def edge (flags : Flags) (text : List Char) : Option (Atom × List Char) :=
  let ascii := !flags.unicode
  let plain := (Atom.look (.wordEdge ascii), text)
  match text with
  | '{' :: inner =>
    match flags.skip inner with
    | [] => none
    | c :: _ =>
      if c.isAlpha || c = '-' then do
        let (name, rest) ← edgeName flags inner
        return (.look (← namedEdge? ascii name), rest)
      else some plain
  | _ => some plain

/-- Signs that stand for themselves after a backslash: all of ASCII but letters, digits and the
angle brackets. -/
def isSign (c : Char) : Bool := c.toNat < 0x80 && !c.isAlphanum && c != '<' && c != '>'

/-- Control characters with a letter of their own. -/
def control? : Char → Option Char
  | 'a' => some '\x07'
  | 'f' => some '\x0C'
  | 't' => some '\t'
  | 'n' => some '\n'
  | 'r' => some '\r'
  | 'v' => some '\x0B'
  | _ => none

/-- An escape of a single character. -/
def short? (flags : Flags) (c : Char) : Option Atom :=
  let ascii := !flags.unicode
  match c with
  | 'd' | 's' | 'w' | 'D' | 'S' | 'W' => (classSet? flags c).map .set
  | 'A' => some (.look .textStart)
  | 'z' => some (.look .textEnd)
  | 'B' => some (.look (.noWordEdge ascii))
  | '<' => some (.look (.wordStart ascii))
  | '>' => some (.look (.wordEnd ascii))
  | c => if isSign c then some (.literal c false) else (control? c).map (.literal · false)

/-- An escape, after its backslash. -/
def read? (flags : Flags) : List Char → Option (Atom × List Char)
  | [] => none
  | c :: rest =>
    match c with
    | 'x' => numbered flags 2 rest
    | 'u' => numbered flags 4 rest
    | 'U' => numbered flags 8 rest
    | 'p' => property flags false rest
    | 'P' => property flags true rest
    | 'b' => edge flags rest
    | c => (short? flags c).map (·, rest)

example : read? {} "u\x7b1F600\x7da".toList = some (.literal '😀' false, ['a']) := by decide
example : read? {} "xff".toList = some (.literal 'ÿ' true, []) ∧ read? {} "x\x7b\x7d".toList = none := by
  decide
example : read? {} "b\x7b3\x7d".toList =
    some (.look (.wordEdge false), ['{', '3', '}']) := by decide

end Escape

end PatternSearch.Pattern
