import PatternSearch.Unicode.Property
/-! # Conditions on a place -/
namespace PatternSearch.Pattern
open Unicode

/-- Conditions on a place in a text, given the characters before and after it. -/
inductive Look where
  | textStart
  | textEnd
  | lineStart
  | lineEnd
  /-- A line may also end in a carriage return, with or without a line feed after it. -/
  | anyLineStart
  | anyLineEnd
  | wordEdge (ascii : Bool)
  | noWordEdge (ascii : Bool)
  | wordStart (ascii : Bool)
  | wordEnd (ascii : Bool)
  | noWordBefore (ascii : Bool)
  | noWordAfter (ascii : Bool)
  deriving DecidableEq

namespace Look

def isWord (ascii : Bool) (c : Option Char) : Bool :=
  c.any fun c => if ascii then isAsciiWord c else Unicode.isWord c

def holds (look : Look) (before after : Option Char) : Bool :=
  match look with
  | textStart => before.isNone
  | textEnd => after.isNone
  | lineStart => before.all (· == '\n')
  | lineEnd => after.all (· == '\n')
  | anyLineStart =>
    before.all (· == '\n') || (before == some '\r' && after != some '\n')
  | anyLineEnd =>
    after.all (· == '\r') || (after == some '\n' && before != some '\r')
  | wordEdge ascii => isWord ascii before != isWord ascii after
  | noWordEdge ascii => isWord ascii before == isWord ascii after
  | wordStart ascii => !isWord ascii before && isWord ascii after
  | wordEnd ascii => isWord ascii before && !isWord ascii after
  | noWordBefore ascii => !isWord ascii before
  | noWordAfter ascii => !isWord ascii after

end Look

end PatternSearch.Pattern
