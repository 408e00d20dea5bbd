import PatternSearch.Text.Digits
import PatternSearch.Unicode.Shape
/-! # Quoted text

A text for a reader to look at stands in double quotes. Characters that would end it, that leave no
mark or that change their neighbour are written by a name or by their number. -/
namespace PatternSearch.Text
open Unicode

/-- The way a character is written between the quotes. -/
def quotedChar (c : Char) : List Char :=
  match c with
  | '\x00' => ['\\', '0']
  | '\t' => ['\\', 't']
  | '\r' => ['\\', 'r']
  | '\n' => ['\\', 'n']
  | '\\' => ['\\', '\\']
  | '"' => ['\\', '"']
  | c =>
    if ' ' ≤ c && c ≤ '~' then [c]
    else if isExtender c || !isPrintable c then ['\\', 'u', '{'] ++ lowerHex c.toNat ++ ['}'] else [c]

def quoted (text : String) : String :=
  String.ofList ('"' :: text.toList.flatMap quotedChar ++ ['"'])

example : quoted "a\t\"" = "\"a\\t\\\"\"" := by decide

end PatternSearch.Text
