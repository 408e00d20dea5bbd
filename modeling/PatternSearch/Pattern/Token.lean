import PatternSearch.Pattern.Bracket
import PatternSearch.Pattern.Regex
import PatternSearch.Unicode.Shape
/-! # Tokens of a pattern

A pattern is scanned into tokens from left to right. Flags hold from where they are set to the end
of the group around them, across the branches of a choice, so the scanner resolves them: a token
says what it stands for under the flags at its place. -/
namespace PatternSearch.Pattern
open Text Unicode

inductive Token where
  /-- A part of its own, and how deep brackets nest in it. -/
  | atom (r : Regex) (depth : Nat)
  /-- Flags for the rest of the group; stands for nothing that could be repeated. -/
  | directive
  | quantifier (least : Nat) (extra : Option Nat) (greedy : Bool)
  | bar
  /-- The start of a group, with its number if it has one. -/
  | opening (number : Option Nat)
  | closing
  deriving DecidableEq

/-- The state of the scanner: the flags at the current place, those to restore at the end of each
group around it, the innermost first, and of the groups so far, how many have a number, and the
names. -/
structure Scan where
  flags : Flags := {}
  outer : List Flags := []
  numbered : Nat := 0
  names : List (List Char) := []

namespace Scan

def enter (scan : Scan) (flags : Flags) : Scan :=
  { scan with flags, outer := scan.flags :: scan.outer }

/-- A group that gets the next number. -/
def enterNumbered (scan : Scan) : Token × Scan :=
  (.opening (some (scan.numbered + 1)), { scan.enter scan.flags with numbered := scan.numbered + 1 })

def leave? (scan : Scan) : Option Scan :=
  match scan.outer with
  | [] => none
  | flags :: outer => some { scan with flags, outer }

end Scan

namespace Token

/-- One character of a set that is written under the flags. -/
def ofSet (flags : Flags) (s : CharSet) (depth : Nat) : Token :=
  .atom (.ofSet s (!flags.unicode)) depth

/-- A character that stands for itself. Without Unicode, half of a character cannot be matched, and
only letters of ASCII have another case. -/
def literal? (flags : Flags) (c : Char) (isByte : Bool) : Option Token :=
  if !flags.unicode && 0x80 ≤ c.toNat && (isByte || flags.caseless) then none
  else some (ofSet flags (flags.closeCase (.single c)) 0)

/-- Any character, less the ends of lines unless they are included. -/
def dot? (flags : Flags) : Option Token :=
  if flags.unicode then
    let excluded : CharSet :=
      if flags.dotAll then .nothing
      else if flags.anyLineEnd then .ofSpans [('\n', '\n'), ('\r', '\r')]
      else .single '\n'
    some (ofSet flags excluded.complement 0)
  else none

def caret (flags : Flags) : Look :=
  if flags.multiline then if flags.anyLineEnd then .anyLineStart else .lineStart else .textStart

def dollar (flags : Flags) : Look :=
  if flags.multiline then if flags.anyLineEnd then .anyLineEnd else .lineEnd else .textEnd

def escape? (flags : Flags) (text : List Char) : Option (Token × List Char) := do
  let (item, rest) ← Escape.read? flags text
  match item with
  | .literal c isByte => return (← literal? flags c isByte, rest)
  | .look l => return (.atom (.look l) 0, rest)
  | .set s => return (ofSet flags s 0, rest)

/-- The first digits of the text, and what follows them. -/
def digitRun (flags : Flags) : (fuel : Nat) → List Char → List Char × List Char
  | 0, text => ([], text)
  | _, [] => ([], [])
  | fuel + 1, c :: rest =>
    if isDecimal c then
      let (digits, rest) := digitRun flags fuel (flags.skip rest)
      (c :: digits, rest)
    else ([], c :: rest)

/-- The largest count that may be written. -/
def maxCount : Nat := 0xFFFFFFFF

/-- A count; blanks around it mean nothing. -/
def count? (flags : Flags) (text : List Char) : Option (Nat × List Char) :=
  let (digits, rest) := digitRun flags text.length (text.dropWhile isBlank)
  let n := decimalNumber digits
  if digits.isEmpty || maxCount < n then none else some (n, rest.dropWhile isBlank)

/-- A question mark after a quantifier makes it prefer few rounds. -/
def quantified (flags : Flags) (least : Nat) (extra : Option Nat) (text : List Char) :
    Token × List Char :=
  match text with
  | '?' :: rest => (.quantifier least extra flags.swapGreed, rest)
  | _ => (.quantifier least extra (!flags.swapGreed), text)

/-- The end of the counts, after the comma: how many rounds more there may be. -/
def extra? (flags : Flags) (least : Nat) (text : List Char) : Option (Option Nat × List Char) :=
  match flags.skip text with
  | '}' :: rest => some (none, rest)
  | text => do
    let (most, rest) ← count? flags text
    match rest with
    | '}' :: rest => if least ≤ most then return (some (most - least), rest) else none
    | _ => none

/-- Counts in braces, after the opening one. -/
def counts? (flags : Flags) (text : List Char) : Option ((Nat × Option Nat) × List Char) := do
  let (least, rest) ← count? flags (flags.skip text)
  match rest with
  | '}' :: rest => return ((least, some 0), rest)
  | ',' :: rest =>
    let (extra, rest) ← extra? flags least rest
    return ((least, extra), rest)
  | _ => none

def counted? (flags : Flags) (text : List Char) : Option (Token × List Char) :=
  (counts? flags text).map fun ((least, extra), rest) =>
    quantified flags least extra (flags.skip rest)

def isNameStart (c : Char) : Bool := c == '_' || isLetter c

def isNamePart (c : Char) : Bool :=
  c == '_' || c == '.' || c == '[' || c == ']' || isLetter c || isNumber c

/-- The name of a group, up to the angle bracket. -/
def name? (text : List Char) : Option (List Char × List Char) :=
  match text.takeWhile (· != '>'), text.dropWhile (· != '>') with
  | c :: name, _ :: rest =>
    if isNameStart c && name.all isNamePart then some (c :: name, rest) else none
  | _, _ => none

/-- A group with a name, after the angle bracket. -/
def namedGroup? (scan : Scan) (text : List Char) : Option (Token × Scan × List Char) := do
  let (name, rest) ← name? text
  if scan.names.contains name then none
  else
    let (token, scan) := scan.enterNumbered
    return (token, { scan with names := name :: scan.names }, rest)

/-- A group with flags of its own, or flags alone, after the question mark. -/
def flagGroup? (scan : Scan) (text : List Char) : Option (Token × Scan × List Char) := do
  let (change, last, rest) ← FlagChange.read? text
  if last == ':' then return (.opening none, scan.enter (change.apply scan.flags), rest)
  else if change.isEmpty then none
  else return (.directive, { scan with flags := change.apply scan.flags }, rest)

/-- A group, after its parenthesis. -/
def group? (scan : Scan) (text : List Char) : Option (Token × Scan × List Char) :=
  match scan.flags.skip text with
  | '?' :: '<' :: text | '?' :: 'P' :: '<' :: text => namedGroup? scan text
  | '?' :: text => flagGroup? scan text
  | text => some (scan.enterNumbered.1, scan.enterNumbered.2, text)

/-- The token that starts with `c`. -/
def next? (scan : Scan) (c : Char) (rest : List Char) : Option (Token × Scan × List Char) :=
  let flags := scan.flags
  let keep (found : Token × List Char) := (found.1, scan, found.2)
  match c with
  | '(' => group? scan rest
  | ')' => scan.leave?.map fun scan => (.closing, scan, rest)
  | '|' => some (.bar, scan, rest)
  | '[' => (Bracket.read? flags rest).map fun (n, rest) => (ofSet flags n.set n.depth, scan, rest)
  | '?' => some (keep (quantified flags 0 (some 1) rest))
  | '*' => some (keep (quantified flags 0 none rest))
  | '+' => some (keep (quantified flags 1 none rest))
  | '{' => (counted? flags rest).map keep
  | '\\' => (escape? flags rest).map keep
  | '.' => (dot? flags).map fun token => (token, scan, rest)
  | '^' => some (.atom (.look (caret flags)) 0, scan, rest)
  | '$' => some (.atom (.look (dollar flags)) 0, scan, rest)
  | c => (literal? flags c false).map fun token => (token, scan, rest)

def scanFrom : (fuel : Nat) → Scan → List Char → Option (List Token)
  | 0, _, _ => none
  | fuel + 1, scan, text =>
    match scan.flags.skip text with
    | [] => some []
    | c :: rest => do
      let (token, scan, rest) ← next? scan c rest
      return token :: (← scanFrom fuel scan rest)

/-- Every token takes a character at least, so the fuel suffices. -/
def scan? (text : List Char) : Option (List Token) := scanFrom (text.length + 1) {} text

end Token

end PatternSearch.Pattern
