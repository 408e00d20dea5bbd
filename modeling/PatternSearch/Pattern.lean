import PatternSearch.Pattern.Grammar
import PatternSearch.Pattern.Machine.Size
import PatternSearch.Pattern.Preference
import PatternSearch.Pattern.Reach
/-! # Patterns

A pattern is the text of a regular expression together with what it denotes. A text may be refused:
for its syntax, or for the space that its machines take. -/
namespace PatternSearch

inductive Rejection where
  | malformed
  | tooBig
  deriving DecidableEq

structure Pattern where
  source : String
  regex : Pattern.Regex
  deriving DecidableEq

namespace Pattern

def compile (source : String) : Except Rejection Pattern :=
  match Regex.parse? source.toList with
  | none => .error .malformed
  | some regex => if Machine.fits regex then .ok ⟨source, regex⟩ else .error .tooBig

def isMatch (p : Pattern) (text : String) : Bool := p.regex.isMatch text.toList

def find (p : Pattern) (text : String) : Option Regex.Found := p.regex.find text.toList

end Pattern

end PatternSearch
