import Mathlib.Data.List.Forall2
import PatternSearch.Document.Value
import PatternSearch.Document.Cursor
import PatternSearch.Proofs.Text.Digits

/-!
# How a value is spelled

A value can be spelled in many ways: blanks may stand around every part of a list or a record, and
around the colons of its members. Texts and numbers are spelled as they are written. The value on one
line and the value on several lines are two of its spellings.
-/

namespace PatternSearch.Document

/-- Nothing but blanks. -/
def Blank (text : List Char) : Prop := ∀ c ∈ text, Cursor.isBlank c = true

/-- A mark with blanks around it. -/
def Marked (mark : Char) (text : List Char) : Prop :=
  ∃ before after, Blank before ∧ Blank after ∧ text = before ++ mark :: after

/-- What stands before a part: blanks before the first one, and a comma before any other. -/
def Leads : (first : Bool) → List Char → Prop
  | true => Blank
  | false => Marked ','

/-- Parts one after the other, with blanks behind the last one. -/
inductive Listed {α : Type} (spells : α → List Char → Prop) : Bool → List α → List Char → Prop
  | nil {first : Bool} {blanks : List Char} (blank : Blank blanks) : Listed spells first [] blanks
  | cons {first : Bool} {lead text more : List Char} {part : α} {parts : List α}
      (leads : Leads first lead) (head : spells part text) (tail : Listed spells false parts more) :
      Listed spells first (part :: parts) (lead ++ (text ++ more))

/-- The name of a member, a colon, and its value. -/
inductive Member (spells : Value → List Char → Prop) : String × Value → List Char → Prop
  | intro {name : String} {v : Value} {colon text : List Char} (marked : Marked ':' colon)
      (value : spells v text) : Member spells (name, v) (writeText name ++ (colon ++ text))

/-- The spellings of a value, with no blanks at the ends. -/
inductive Spells : Value → List Char → Prop
  | null : Spells .null ['n', 'u', 'l', 'l']
  | text (s : String) : Spells (.text s) (writeText s)
  | whole (n : Int) : Spells (.whole n) (Value.writeWhole n)
  | real (x : Binary64) : Spells (.real x) (Value.writeReal x)
  | list {items : List Value} {inner : List Char} (parts : Listed Spells true items inner) :
      Spells (.list items) ('[' :: (inner ++ [']']))
  | record {members : List (String × Value)} {inner : List Char}
      (parts : Listed (Member Spells) true members inner) :
      Spells (.record members) ('{' :: (inner ++ ['}']))

/-! ## Blanks -/

theorem blank_nil : Blank [] := fun _ mem => absurd mem List.not_mem_nil

theorem blank_newLine (level : Nat) : Blank (Value.newLine level) := by
  intro c mem
  rcases List.mem_cons.mp mem with rfl | mem
  · rfl
  · rw [List.eq_of_mem_replicate mem]
    rfl

theorem blank_space : Blank [' '] := List.forall_mem_singleton.mpr rfl

theorem marked_cons (mark : Char) {after : List Char} (blank : Blank after) :
    Marked mark (mark :: after) :=
  ⟨[], after, blank_nil, blank, rfl⟩

/-! ## The first character -/

/-- A text that begins with neither a blank nor a separator nor a closing bracket. -/
def Begins (text : List Char) : Prop :=
  ∃ c more, text = c :: more ∧ Cursor.isBlank c = false ∧ c ≠ ',' ∧ c ≠ ']' ∧ c ≠ '}'

theorem begins_cons {c : Char} {more : List Char} (opens : c ∈ ['n', '"', '-', '[', '{']) :
    Begins (c :: more) := by
  refine ⟨c, more, rfl, ?_⟩
  simp only [List.mem_cons, List.not_mem_nil, or_false] at opens
  rcases opens with rfl | rfl | rfl | rfl | rfl <;> decide

theorem isBlank_of_isDecimal {c : Char} (decimal : Text.isDecimal c = true) :
    Cursor.isBlank c = false := by
  have other {d : Char} (h : Text.isDecimal d = false) : (c == d) = false :=
    beq_false_of_ne (Text.ne_of_isDecimal decimal h)
  rw [Cursor.isBlank, other (by decide), other (by decide), other (by decide), other (by decide)]
  rfl

theorem begins_of_isDecimal {c : Char} {more : List Char} (decimal : Text.isDecimal c = true) :
    Begins (c :: more) := by
  have other {d : Char} (h : Text.isDecimal d = false) : c ≠ d := Text.ne_of_isDecimal decimal h
  exact ⟨c, more, rfl, isBlank_of_isDecimal decimal, other (by decide), other (by decide),
    other (by decide)⟩

theorem begins_toDigits (n : Nat) : Begins (Nat.toDigits 10 n) := by
  obtain ⟨d, digits, same, decimal⟩ := Text.exists_toDigits_eq_cons n
  rw [same]
  exact begins_of_isDecimal decimal

theorem begins_writeWhole (n : Int) : Begins (Value.writeWhole n) := by
  rw [Value.writeWhole]
  split
  · exact begins_cons (by decide)
  · exact begins_toDigits _

theorem exists_write_eq_cons (d : Decimal) :
    ∃ c more, d.write = c :: more ∧ Text.isDecimal c = true := by
  obtain ⟨c, digits, same, decimal⟩ := Text.exists_toDigits_eq_cons d.digits
  simp only [Decimal.write, same]
  split
  · rw [Decimal.plain]
    split
    · exact ⟨_, _, rfl, by decide⟩
    · -- At least one digit stands before the point.
      obtain ⟨n, places⟩ : ∃ n, (d.exponent + ↑(c :: digits).length - 1 + 1).toNat = n + 1 :=
        ⟨_, (Nat.succ_pred_eq_of_pos (by omega)).symm⟩
      simp only [places, List.take_succ_cons, List.cons_append]
      exact ⟨_, _, rfl, decimal⟩
  · exact ⟨_, _, rfl, decimal⟩

theorem begins_write (d : Decimal) : Begins d.write := by
  obtain ⟨c, more, same, decimal⟩ := exists_write_eq_cons d
  rw [same]
  exact begins_of_isDecimal decimal

theorem begins_writeReal (x : Binary64) : Begins (Value.writeReal x) := by
  rw [Value.writeReal]
  cases x with
  | finite negative steps =>
    simp only [Binary64.written?, Option.getD_some]
    split
    · exact begins_cons (by decide)
    · split
      · exact begins_of_isDecimal (by decide)
      · exact begins_write _
  | _ => exact begins_cons (by decide)

theorem Spells.begins {v : Value} {text : List Char} (h : Spells v text) : Begins text := by
  cases h with
  | whole n => exact begins_writeWhole n
  | real x => exact begins_writeReal x
  | _ => exact begins_cons (by decide)

theorem Member.begins {member : String × Value} {text : List Char} (h : Member Spells member text) :
    Begins text := by
  cases h
  exact begins_cons (by decide)

/-- There is enough fuel to read the parts: each of them takes a character at least. -/
theorem Listed.length_lt {α : Type} {spells : α → List Char → Prop} {first : Bool} {parts : List α}
    {text : List Char} (begins : ∀ part text, spells part text → Begins text)
    (h : Listed spells first parts text) (rest : List Char) :
    parts.length < (text ++ rest).length + 1 := by
  induction h with
  | nil => exact Nat.succ_pos _
  | cons _ head _ ih =>
    obtain ⟨c, more, rfl, -⟩ := begins _ _ head
    simp only [List.length_append, List.length_cons] at ih ⊢
    omega

/-! ## Values on one line and on several lines -/

section Lines

variable {α : Type} {spells : α → List Char → Prop} {items : List α} {parts : List (List Char)}

/-- Parts with a comma between them and blanks behind each comma. -/
theorem listed_joined {first : Bool} {lead gap close : List Char}
    (spelled : List.Forall₂ spells items parts) (some : items ≠ []) (leads : Leads first lead)
    (blank : Blank gap) (closed : Blank close) :
    Listed spells first items (lead ++ (Value.joined (',' :: gap) parts ++ close)) := by
  induction spelled generalizing first lead with
  | nil => exact absurd rfl some
  | cons head tail ih =>
    cases tail with
    | nil => exact .cons leads head (.nil closed)
    | cons head' tail' =>
      have comma : Leads false (',' :: gap) := marked_cons ',' blank
      have more := ih (List.cons_ne_nil _ _) comma
      simpa [Value.joined] using Listed.cons leads head more

theorem listed_line (spelled : List.Forall₂ spells items parts) :
    Listed spells true items (Value.joined [','] parts) := by
  cases spelled with
  | nil => exact .nil blank_nil
  | cons head tail =>
    have none : Leads true [] := blank_nil
    simpa using listed_joined (.cons head tail) (List.cons_ne_nil _ _) none blank_nil blank_nil

/-- Parts on lines of their own stand between the brackets as they have to. -/
theorem exists_listed_block (spelled : List.Forall₂ spells items parts) (opening closing : Char)
    (level : Nat) : ∃ inner, Listed spells true items inner ∧
      Value.block opening closing level parts = opening :: (inner ++ [closing]) := by
  cases spelled with
  | nil => exact ⟨[], .nil blank_nil, rfl⟩
  | cons head tail =>
    have line : Leads true (Value.newLine (level + 1)) := blank_newLine (level + 1)
    refine ⟨_, listed_joined (.cons head tail) (List.cons_ne_nil _ _) line
      (blank_newLine (level + 1)) (blank_newLine level), ?_⟩
    simp [Value.block]

end Lines

mutual

theorem spells_compact : (v : Value) → Spells v v.compact
  | .null => .null
  | .text s => .text s
  | .whole n => .whole n
  | .real x => .real x
  | .list items => .list (listed_line (spells_compactItems items))
  | .record members => .record (listed_line (spells_compactMembers members))

theorem spells_compactItems :
    (items : List Value) → List.Forall₂ Spells items (Value.compactItems items)
  | [] => .nil
  | item :: items => .cons (spells_compact item) (spells_compactItems items)

theorem spells_compactMembers :
    (members : List (String × Value)) →
      List.Forall₂ (Member Spells) members (Value.compactMembers members)
  | [] => .nil
  | (_, v) :: members =>
    .cons (.intro (marked_cons ':' blank_nil) (spells_compact v)) (spells_compactMembers members)

end

mutual

theorem spells_pretty (level : Nat) : (v : Value) → Spells v (v.pretty level)
  | .null => .null
  | .text s => .text s
  | .whole n => .whole n
  | .real x => .real x
  | .list items => by
    obtain ⟨inner, listed, same⟩ :=
      exists_listed_block (spells_prettyItems (level + 1) items) '[' ']' level
    rw [Value.pretty, same]
    exact .list listed
  | .record members => by
    obtain ⟨inner, listed, same⟩ :=
      exists_listed_block (spells_prettyMembers (level + 1) members) '{' '}' level
    rw [Value.pretty, same]
    exact .record listed

theorem spells_prettyItems (level : Nat) :
    (items : List Value) → List.Forall₂ Spells items (Value.prettyItems level items)
  | [] => .nil
  | item :: items => .cons (spells_pretty level item) (spells_prettyItems level items)

theorem spells_prettyMembers (level : Nat) :
    (members : List (String × Value)) →
      List.Forall₂ (Member Spells) members (Value.prettyMembers level members)
  | [] => .nil
  | (_, v) :: members =>
    .cons (.intro (marked_cons ':' blank_space) (spells_pretty level v))
      (spells_prettyMembers level members)

end

end PatternSearch.Document
