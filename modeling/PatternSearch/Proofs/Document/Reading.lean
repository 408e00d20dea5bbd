import PatternSearch.Document.Reader
import PatternSearch.Proofs.Document.Numeral
import PatternSearch.Proofs.Document.Spelling

/-!
# Values are read from their spellings

A reader reads a value as another one if it does so for every spelling of it, with blanks before and
with anything behind that cannot be a part of a number. Texts and whole numbers are read as they are,
and a list is read if each item of it is.
-/

namespace PatternSearch.Document

/-! ## Past blanks -/

theorem exists_trim_eq {blanks rest : List Char} (blank : Blank blanks)
    (visible : ∀ c ∈ rest.head?, Cursor.isBlank c = false) (offset : Nat) :
    ∃ offset', (⟨blanks ++ rest, offset⟩ : Cursor).trim = ⟨rest, offset'⟩ := by
  induction blanks generalizing offset with
  | nil =>
    cases rest with
    | nil => exact ⟨offset, rfl⟩
    | cons c more => exact ⟨offset, by simp [Cursor.trim, Cursor.dropBlanks, visible c rfl]⟩
  | cons c blanks ih =>
    obtain ⟨first, others⟩ := List.forall_mem_cons.mp blank
    obtain ⟨offset', same⟩ := ih others (offset + c.utf8Size)
    exact ⟨offset', by simpa [Cursor.trim, Cursor.dropBlanks, first] using same⟩

/-- The cursor goes past blanks to a character that is none. -/
theorem exists_trim_eq_cons {blanks : List Char} {c : Char} (blank : Blank blanks)
    (visible : Cursor.isBlank c = false) (more : List Char) (offset : Nat) :
    ∃ offset', (⟨blanks ++ c :: more, offset⟩ : Cursor).trim = ⟨c :: more, offset'⟩ :=
  exists_trim_eq blank (by rintro d ⟨⟩; exact visible) offset

/-- A comma comes before the next part, and blanks around the comma. -/
theorem exists_trim_lead {lead : List Char} {c : Char} (leads : Leads false lead)
    (visible : Cursor.isBlank c = false) (more : List Char) (offset : Nat) :
    ∃ after there there', (⟨lead ++ c :: more, offset⟩ : Cursor).trim = ⟨',' :: after, there⟩ ∧
      (Cursor.past ⟨',' :: after, there⟩ ',').trim = ⟨c :: more, there'⟩ := by
  obtain ⟨before, after, blank, blank', rfl⟩ := leads
  obtain ⟨there, same⟩ := exists_trim_eq_cons (c := ',') blank (by decide) (after ++ c :: more) offset
  obtain ⟨there', same'⟩ := exists_trim_eq_cons blank' visible more (there + ','.utf8Size)
  exact ⟨after ++ c :: more, there, there', by simpa using same, same'⟩

theorem gives_atValue {α : Type} {go : Char → Cursor → Except Fault (α × Cursor)} {a : α}
    {blanks more rest : List Char} {c : Char} (blank : Blank blanks)
    (visible : Cursor.isBlank c = false) (h : ∀ offset, Gives (go c ⟨c :: more, offset⟩) a rest)
    (offset : Nat) : Gives (atValue go ⟨blanks ++ c :: more, offset⟩) a rest := by
  obtain ⟨offset', same⟩ := exists_trim_eq_cons blank visible more offset
  rw [atValue, same]
  exact h offset'

theorem stops_append {blanks rest : List Char} (blank : Blank blanks) (stops : Stops rest) :
    Stops (blanks ++ rest) := by
  cases blanks with
  | nil => exact stops
  | cons c blanks => exact stops_cons _ (Or.inl (blank c List.mem_cons_self))

/-- What stands behind a part cannot belong to a number. -/
theorem Listed.stops {α : Type} {spells : α → List Char → Prop} {parts : List α} {more rest : List Char}
    (listed : Listed spells false parts more) (stops : Stops rest) : Stops (more ++ rest) := by
  cases listed with
  | nil blank => exact stops_append blank stops
  | cons leads head tail =>
    obtain ⟨before, after, blank, -, rfl⟩ := leads
    simp only [List.append_assoc, List.cons_append]
    exact stops_append blank (stops_cons _ (Or.inr (Or.inl rfl)))

/-! ## Values that hold no others -/

/-- The reader reads every spelling of `v` as `found`. -/
def Reads (read : Reader) (v found : Value) : Prop :=
  ∀ ⦃blanks text rest : List Char⦄ (offset : Nat), Blank blanks → Spells v text → Stops rest →
    Gives (read ⟨blanks ++ (text ++ rest), offset⟩) found rest

theorem writeText_append (s : String) (rest : List Char) :
    writeText s ++ rest = '"' :: (s.toList.flatMap escaped ++ '"' :: rest) := by
  simp [writeText]

theorem reads_text (s : String) : Reads Reader.text (.text s) (.text s) := by
  intro blanks text rest offset blank spelled _
  cases spelled
  rw [writeText_append]
  have read : Gives (textOf "a string" ⟨blanks ++ '"' :: (s.toList.flatMap escaped ++ '"' :: rest),
      offset⟩) s rest :=
    gives_atValue blank (by decide) (fun there => gives_readText s rest _) offset
  exact read.map Value.text

theorem reads_between {lo hi : Int} {n : Nat} (least : lo ≤ n) (most : n ≤ hi)
    (small : n ≤ maxUnsigned) (expected : String) :
    Reads (Reader.between lo hi expected) (.whole n) (.whole n) := by
  intro blanks text rest offset blank spelled stops
  cases spelled
  have written : Value.writeWhole n = Nat.toDigits 10 n := by simp [Value.writeWhole]
  obtain ⟨d, digits, same, decimal⟩ := Text.exists_toDigits_eq_cons n
  have plus : d ≠ '-' := Text.ne_of_isDecimal decimal (by decide)
  rw [written, same, List.cons_append, Reader.between, Reader.numeral]
  refine gives_atValue blank (isBlank_of_isDecimal decimal) (fun there => ?_) offset
  have read := gives_readNumeral true small stops there
  rw [same, List.cons_append] at read
  rw [if_neg plus, if_pos decimal]
  exact read.bind fun behind => ⟨behind, by simp [wholeOrReal, least, most]⟩

theorem reads_ofNat {n hi : Nat} (most : n ≤ hi) (small : hi ≤ maxUnsigned) (expected : String) :
    Reads (Reader.between 0 hi expected) (.ofNat n) (.ofNat n) :=
  reads_between (Int.natCast_nonneg n) (Int.ofNat_le.mpr most) (Nat.le_trans most small) expected

/-- A whole number below zero is read back from its digits behind the sign. -/
theorem reads_negative {lo hi : Int} {n : Nat} (positive : 0 < n) (small : n ≤ 1 <<< 63)
    (least : lo ≤ -n) (most : -n ≤ hi) (expected : String) :
    Reads (Reader.between lo hi expected) (.whole (-n)) (.whole (-n)) := by
  intro blanks text rest offset blank spelled stops
  cases spelled
  have written : Value.writeWhole (-n) = '-' :: Nat.toDigits 10 n := by
    simp [Value.writeWhole, positive]
  have whole : wholeOrReal false n = .whole (-n) := by
    have some : ¬(n = 0 ∨ 1 <<< 63 < n) := by omega
    rw [wholeOrReal, if_neg (by decide), if_neg some]
  have limit : 1 <<< 63 ≤ maxUnsigned := by decide
  rw [written, List.cons_append, Reader.between, Reader.numeral]
  refine gives_atValue blank (by decide) (fun there => ?_) offset
  rw [if_pos rfl]
  have read := gives_readNumeral false (Nat.le_trans small limit) stops (there + '-'.utf8Size)
  exact read.bind fun behind => ⟨behind, by simp [whole, least, most]⟩

theorem reads_signed64 {i : Int} (least : Binary64.minInt64 ≤ i) (most : i ≤ Binary64.maxInt64) :
    Reads Reader.signed64 (.whole i) (.whole i) := by
  unfold Binary64.minInt64 at least
  unfold Binary64.maxInt64 at most
  rcases Int.lt_or_le i 0 with negative | nonneg
  · obtain ⟨n, rfl⟩ : ∃ n : Nat, i = -n := ⟨i.natAbs, by omega⟩
    exact reads_negative (by omega) (by omega) least (by unfold Binary64.maxInt64; omega) "i64"
  · obtain ⟨n, rfl⟩ := Int.eq_ofNat_of_zero_le nonneg
    exact reads_between least most (by unfold maxUnsigned; omega) "i64"

/-! ## Values that may be empty, and choices -/

theorem reads_optional_null (read : Reader) : Reads (Reader.optional read) .null .null := by
  intro blanks text rest offset blank spelled _
  cases spelled
  obtain ⟨there, same⟩ := exists_trim_eq_cons (c := 'n') blank (by decide) ('u' :: 'l' :: 'l' :: rest)
    offset
  exact ⟨_, by simp [Reader.optional, same, Cursor.word, Cursor.past, Except.map]; rfl⟩

/-- What is not written like the empty value is read as if there were no other choice. -/
theorem reads_optional {read : Reader} {v found : Value} (reads : Reads read v found)
    (other : ∀ text, Spells v text → text.head? ≠ some 'n') : Reads (Reader.optional read) v found := by
  intro blanks text rest offset blank spelled stops
  obtain ⟨c, more, rfl, visible, -⟩ := spelled.begins
  have letter : c ≠ 'n' := fun same => other _ spelled (same ▸ rfl)
  obtain ⟨there, same⟩ := exists_trim_eq_cons blank visible (more ++ rest) offset
  have read := reads there blank_nil spelled stops
  rw [List.cons_append, Reader.optional, same]
  dsimp only
  split
  · next first => exact absurd (List.cons.inj first).1 letter
  · exact read

theorem reads_optional_ofNat {n hi : Nat} (most : n ≤ hi) (small : hi ≤ maxUnsigned)
    (expected : String) : Reads (Reader.optional (Reader.between 0 hi expected)) (.ofNat n) (.ofNat n) := by
  refine reads_optional (reads_ofNat most small expected) fun text spelled => ?_
  obtain ⟨d, digits, same, decimal⟩ := Text.exists_toDigits_eq_cons n
  have written : Value.writeWhole n = Nat.toDigits 10 n := by simp [Value.writeWhole]
  have letter : d ≠ 'n' := Text.ne_of_isDecimal decimal (by decide)
  cases spelled
  rw [written, same]
  simpa using letter

theorem reads_choice {choices : List String} {s : String} (mem : s ∈ choices) :
    Reads (Reader.choice choices) (.text s) (.text s) := by
  intro blanks text rest offset blank spelled _
  cases spelled
  rw [writeText_append, Reader.choice]
  refine gives_atValue blank (by decide) (fun there => ?_) offset
  rw [if_pos rfl]
  have read : Gives (textOf "variant identifier"
      ⟨[] ++ '"' :: (s.toList.flatMap escaped ++ '"' :: rest), there⟩) s rest :=
    gives_atValue blank_nil (by decide) (fun there => gives_readText s rest _) there
  exact read.bind fun behind => ⟨behind, by simp [mem]; rfl⟩

/-! ## Lists -/

namespace Reader

variable {first : Bool} {rest : List Char}

theorem gives_nextItem_part {lead text : List Char} (leads : Leads first lead)
    (begins : Begins text) (offset : Nat) :
    Gives (nextItem first ⟨lead ++ (text ++ rest), offset⟩) true (text ++ rest) := by
  obtain ⟨c, more, rfl, visible, comma, bracket, -⟩ := begins
  cases first with
  | true =>
    obtain ⟨there, same⟩ := exists_trim_eq_cons leads visible (more ++ rest) offset
    exact ⟨there, by simp [nextItem, same, bracket]⟩
  | false =>
    obtain ⟨after, there, there', same, same'⟩ := exists_trim_lead leads visible (more ++ rest) offset
    exact ⟨there', by simp [nextItem, same, same', bracket]⟩

theorem gives_nextItem_end {blanks : List Char} (blank : Blank blanks) (offset : Nat) :
    Gives (nextItem first ⟨blanks ++ ']' :: rest, offset⟩) false (']' :: rest) := by
  obtain ⟨there, same⟩ := exists_trim_eq_cons (c := ']') blank (by decide) rest offset
  exact ⟨there, by simp [nextItem, same]⟩

theorem leaves_endList (offset : Nat) : Leaves (endList ⟨']' :: rest, offset⟩) rest := ⟨_, rfl⟩

theorem gives_itemsFrom {read : Reader} {items founds : List Value} {inner : List Char} {fuel : Nat}
    (listed : Listed Spells first items inner) (reads : List.Forall₂ (Reads read) items founds)
    (enough : items.length < fuel) (offset : Nat) :
    Gives (itemsFrom read fuel first ⟨inner ++ ']' :: rest, offset⟩) founds (']' :: rest) := by
  induction listed generalizing founds fuel offset with
  | nil blank =>
    cases reads
    obtain ⟨fuel, rfl⟩ := Nat.exists_eq_succ_of_ne_zero (Nat.ne_zero_of_lt enough)
    rw [itemsFrom]
    exact (gives_nextItem_end blank offset).bind fun there => ⟨there, rfl⟩
  | cons leads head tail ih =>
    cases reads with
    | cons reads others =>
      obtain ⟨fuel, rfl⟩ := Nat.exists_eq_succ_of_ne_zero (Nat.ne_zero_of_lt enough)
      have stops := tail.stops (stops_cons (c := ']') rest (by simp))
      rw [itemsFrom, List.append_assoc, List.append_assoc]
      refine (gives_nextItem_part leads head.begins offset).bind fun there => ?_
      refine (reads there blank_nil head stops).bind fun behind => ?_
      exact (ih others (Nat.lt_of_succ_lt_succ enough) behind).bind fun last => ⟨last, rfl⟩

end Reader

/-- A list is read item by item. -/
theorem reads_list {read : Reader} {items founds : List Value}
    (reads : List.Forall₂ (Reads read) items founds) :
    Reads (Reader.list read) (.list items) (.list founds) := by
  intro blanks text rest offset blank spelled _
  cases spelled with
  | @list _ inner listed =>
    have enough := listed.length_lt (fun _ _ => Spells.begins) (']' :: rest)
    rw [List.cons_append, List.append_assoc]
    refine gives_atValue blank (by decide) (fun there => ?_) offset
    refine (Reader.gives_itemsFrom listed reads enough _).bind fun behind => ?_
    exact (Reader.leaves_endList behind).bind fun last => ⟨last, rfl⟩

end PatternSearch.Document
