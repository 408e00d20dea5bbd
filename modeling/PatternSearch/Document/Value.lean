import PatternSearch.Document.Quote
import PatternSearch.Number.Written
/-! # Values of a document

A document is a tree of lists and records. It is written on one line, or with one member a line,
each level two blanks further to the right. -/
namespace PatternSearch.Document

inductive Value where
  | null
  | text (s : String)
  | whole (n : Int)
  | real (x : Binary64)
  | list (items : List Value)
  | record (members : List (String × Value))
  deriving Inhabited

namespace Value

def writeWhole (n : Int) : List Char :=
  if n < 0 then '-' :: Nat.toDigits 10 n.natAbs else Nat.toDigits 10 n.natAbs

/-- Numbers without digits are written as the empty value. -/
def writeReal (x : Binary64) : List Char := x.written?.getD ['n', 'u', 'l', 'l']

/-- Parts with a separator between them. -/
def joined (separator : List Char) : List (List Char) → List Char
  | [] => []
  | [part] => part
  | part :: parts => part ++ separator ++ joined separator parts

mutual

/-- The value on one line, without blanks. -/
def compact : Value → List Char
  | null => ['n', 'u', 'l', 'l']
  | text s => writeText s
  | whole n => writeWhole n
  | real x => writeReal x
  | list items => '[' :: joined [','] (compactItems items) ++ [']']
  | record members => '{' :: joined [','] (compactMembers members) ++ ['}']

def compactItems : List Value → List (List Char)
  | [] => []
  | item :: items => compact item :: compactItems items

def compactMembers : List (String × Value) → List (List Char)
  | [] => []
  | (name, value) :: members => (writeText name ++ ':' :: compact value) :: compactMembers members

end

/-- A new line with so many levels of indentation. -/
def newLine (level : Nat) : List Char := '\n' :: List.replicate (2 * level) ' '

/-- Parts on lines of their own between brackets; nothing stands between the brackets if there are
no parts. -/
def block (opening closing : Char) (level : Nat) (parts : List (List Char)) : List Char :=
  if parts.isEmpty then [opening, closing]
  else opening :: newLine (level + 1) ++ joined (',' :: newLine (level + 1)) parts ++
    newLine level ++ [closing]

mutual

/-- The value on several lines, at a level of indentation. -/
def pretty (level : Nat) : Value → List Char
  | null => ['n', 'u', 'l', 'l']
  | text s => writeText s
  | whole n => writeWhole n
  | real x => writeReal x
  | list items => block '[' ']' level (prettyItems (level + 1) items)
  | record members => block '{' '}' level (prettyMembers (level + 1) members)

def prettyItems (level : Nat) : List Value → List (List Char)
  | [] => []
  | item :: items => pretty level item :: prettyItems level items

def prettyMembers (level : Nat) : List (String × Value) → List (List Char)
  | [] => []
  | (name, value) :: members =>
    (writeText name ++ ':' :: ' ' :: pretty level value) :: prettyMembers level members

end

def toCompact (v : Value) : String := String.ofList v.compact
def toPretty (v : Value) : String := String.ofList (v.pretty 0)

/-- A member of a record; the empty value if there is none. -/
def member (v : Value) (name : String) : Value :=
  match v with
  | record members => (members.lookup name).getD null
  | _ => null

def toText : Value → String
  | text s => s
  | _ => ""

def toNat : Value → Nat
  | whole n => n.toNat
  | _ => 0

def toInt : Value → Int
  | whole n => n
  | _ => 0

def toReal : Value → Binary64
  | real x => x
  | _ => .zero

def toList : Value → List Value
  | list items => items
  | _ => []

def toOption : Value → Option Value
  | null => none
  | v => some v

def ofNat (n : Nat) : Value := whole n

def texts (items : List String) : Value := list (items.map text)

example : (record [("a", list []), ("b", list [whole 1, null])]).toCompact =
    "\x7b\"a\":[],\"b\":[1,null]\x7d" := by decide

end Value

end PatternSearch.Document
