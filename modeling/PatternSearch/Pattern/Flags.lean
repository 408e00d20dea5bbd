import PatternSearch.Text.Blank
/-! # Flags of a pattern

Flags are set for the rest of a group, as in `(?i)`, or for a group of their own, as in `(?i:a)`.
In a spaced-out pattern blanks and comments mean nothing. -/
namespace PatternSearch.Pattern
open Text

inductive Flag where
  | caseless
  | multiline
  | dotAll
  | swapGreed
  | unicode
  | anyLineEnd
  | spaced
  deriving DecidableEq

def Flag.ofChar? : Char → Option Flag
  | 'i' => some .caseless
  | 'm' => some .multiline
  | 's' => some .dotAll
  | 'U' => some .swapGreed
  | 'u' => some .unicode
  | 'R' => some .anyLineEnd
  | 'x' => some .spaced
  | _ => none

structure Flags where
  caseless : Bool := false
  multiline : Bool := false
  dotAll : Bool := false
  swapGreed : Bool := false
  unicode : Bool := true
  anyLineEnd : Bool := false
  spaced : Bool := false
  deriving DecidableEq

namespace Flags

def put (flags : Flags) (flag : Flag) (on : Bool) : Flags :=
  match flag with
  | .caseless => { flags with caseless := on }
  | .multiline => { flags with multiline := on }
  | .dotAll => { flags with dotAll := on }
  | .swapGreed => { flags with swapGreed := on }
  | .unicode => { flags with unicode := on }
  | .anyLineEnd => { flags with anyLineEnd := on }
  | .spaced => { flags with spaced := on }

/-- The text without its leading blanks and comments; a comment runs from a number sign to the end
of the line. -/
def dropSpace : (inComment : Bool) → List Char → List Char
  | _, [] => []
  | true, c :: rest => dropSpace (c != '\n') rest
  | false, c :: rest =>
    if isBlank c then dropSpace false rest
    else if c = '#' then dropSpace true rest
    else c :: rest

/-- Skip what means nothing under the flags. -/
def skip (flags : Flags) (text : List Char) : List Char :=
  if flags.spaced then dropSpace false text else text

end Flags

/-- The flags written in a group: the names set, then the names cleared. -/
structure FlagChange where
  set : List Flag
  clear : List Flag

namespace FlagChange

def isEmpty (change : FlagChange) : Bool := change.set.isEmpty && change.clear.isEmpty

def apply (change : FlagChange) (flags : Flags) : Flags :=
  change.clear.foldl (·.put · false) (change.set.foldl (·.put · true) flags)

/-- Reads names up to a colon or a closing parenthesis, which is returned with the rest. A name may
occur once, and after a minus sign a name must follow. -/
def read (change : FlagChange) (clearing dangling : Bool) :
    List Char → Option (FlagChange × Char × List Char)
  | [] => none
  | c :: rest =>
    if c = ':' || c = ')' then if dangling then none else some (change, c, rest)
    else if c = '-' then if clearing then none else read change true true rest
    else
      match Flag.ofChar? c with
      | none => none
      | some flag =>
        if change.set.contains flag || change.clear.contains flag then none
        else if clearing then
          read { change with clear := change.clear ++ [flag] } true false rest
        else read { change with set := change.set ++ [flag] } false false rest

def read? (text : List Char) : Option (FlagChange × Char × List Char) :=
  read ⟨[], []⟩ false false text

end FlagChange

end PatternSearch.Pattern
