/-! # Widths of a text

Offsets into a text count the bytes of its UTF-8 form; the share of an example that a pattern
covers is measured in UTF-16 units. -/
namespace PatternSearch.Text

/-- Bytes in UTF-8. -/
def byteWidth (text : List Char) : Nat := text.foldr (·.utf8Size + ·) 0

/-- A character outside the basic plane takes two UTF-16 units, any other one. -/
def units16 (c : Char) : Nat := if c.toNat < 0x10000 then 1 else 2

def unitWidth (text : List Char) : Nat := text.foldr (units16 · + ·) 0

@[simp] theorem byteWidth_nil : byteWidth [] = 0 := rfl

@[simp] theorem byteWidth_cons (c : Char) (text : List Char) :
    byteWidth (c :: text) = c.utf8Size + byteWidth text := rfl

@[simp] theorem byteWidth_append (s t : List Char) :
    byteWidth (s ++ t) = byteWidth s + byteWidth t := by
  induction s with
  | nil => simp
  | cons c s ih => rw [List.cons_append, byteWidth_cons, byteWidth_cons, ih, Nat.add_assoc]

@[simp] theorem unitWidth_nil : unitWidth [] = 0 := rfl

@[simp] theorem unitWidth_cons (c : Char) (text : List Char) :
    unitWidth (c :: text) = units16 c + unitWidth text := rfl

@[simp] theorem unitWidth_append (s t : List Char) :
    unitWidth (s ++ t) = unitWidth s + unitWidth t := by
  induction s with
  | nil => simp
  | cons c s ih => rw [List.cons_append, unitWidth_cons, unitWidth_cons, ih, Nat.add_assoc]

end PatternSearch.Text
