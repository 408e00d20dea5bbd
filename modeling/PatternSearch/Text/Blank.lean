/-! # Blank characters

The blanks are the characters of the Unicode property White_Space. Example files separate their
columns by them, and spaced-out patterns skip them. -/
namespace PatternSearch.Text

def isBlank (c : Char) : Bool :=
  let n := c.toNat
  (9 ≤ n && n ≤ 13) || n == 0x20 || n == 0x85 || n == 0xA0 || n == 0x1680 ||
    (0x2000 ≤ n && n ≤ 0x200A) || n == 0x2028 || n == 0x2029 || n == 0x202F ||
    n == 0x205F || n == 0x3000

example : isBlank '\u0085' = true ∧ isBlank '\u200B' = false ∧ isBlank '\uFEFF' = false := by
  decide

end PatternSearch.Text
