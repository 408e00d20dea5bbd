import PatternSearch.Proofs.Document.Reading

/-!
# Records are read by the names of their members

A record is read member by member, in the order of the document. A member with a slot is kept, any
other one is skipped. Then the slots are filled in their own order, from the members that were kept or
by their defaults.
-/

namespace PatternSearch.Document

/-! ## Looking up names -/

section Lookup

variable {α β : Type} [BEq α] [LawfulBEq α] {pairs : List (α × β)} {a : α} {b : β}

theorem lookup_eq_some_of_mem (apart : (pairs.map Prod.fst).Nodup) (mem : (a, b) ∈ pairs) :
    pairs.lookup a = some b := by
  obtain ⟨before, after, rfl⟩ := List.append_of_mem mem
  refine List.lookup_eq_some_iff.mpr ⟨before, after, rfl, fun pair earlier => ?_⟩
  rw [List.map_append, List.nodup_append] at apart
  rw [bne_iff_ne]
  exact (apart.2.2 pair.1 (List.mem_map_of_mem earlier) a List.mem_cons_self).symm

theorem lookup_eq_none_of_not_mem (missing : a ∉ pairs.map Prod.fst) : pairs.lookup a = none := by
  refine List.lookup_eq_none_iff.mpr fun pair mem => ?_
  rw [bne_iff_ne]
  rintro rfl
  exact missing (List.mem_map_of_mem mem)

theorem lookup_cons_eq_none {names : List α} (fresh : a ∉ names)
    (new : ∀ name ∈ names, pairs.lookup name = none) :
    ∀ name ∈ names, ((a, b) :: pairs).lookup name = none := by
  intro name mem
  have other : (name == a) = false := by
    rw [beq_eq_false_iff_ne]
    rintro rfl
    exact fresh mem
  simpa [List.lookup_cons, other] using new name mem

end Lookup

/-! ## Members -/

/-- Every spelling of the value is skipped. -/
def Skips (v : Value) : Prop :=
  ∀ ⦃blanks text rest : List Char⦄ (offset : Nat), Blank blanks → Spells v text → Stops rest →
    Leaves (skipValue ⟨blanks ++ (text ++ rest), offset⟩) rest

theorem skips_text (s : String) : Skips (.text s) := by
  intro blanks text rest offset blank spelled _
  cases spelled
  rw [writeText_append]
  obtain ⟨there, same⟩ := exists_trim_eq_cons (c := '"') blank (by decide)
    (s.toList.flatMap escaped ++ '"' :: rest) offset
  obtain ⟨behind, skipped⟩ := leaves_skipText s rest (there + '"'.utf8Size)
  exact ⟨behind, by simp [skipValue, skipFrom, same, skipSimple, Cursor.past, skipped, Except.map,
    bind, Except.bind]⟩

namespace Reader

/-- What is kept of the members of a record. -/
inductive Kept (slots : List Slot) : List (String × Value) → List (String × Value) → Prop
  | nil : Kept slots [] []
  | found {name : String} {v w : Value} {slot : Slot} {members kept : List (String × Value)}
      (named : slots.find? (·.name == name) = some slot) (reads : Reads slot.read v w)
      (others : Kept slots members kept) : Kept slots ((name, v) :: members) ((name, w) :: kept)
  | other {name : String} {v : Value} {members kept : List (String × Value)}
      (none : slots.find? (·.name == name) = none) (skips : Skips v)
      (others : Kept slots members kept) : Kept slots ((name, v) :: members) kept

section Members

variable {first : Bool} {rest : List Char}

theorem leaves_colon {before after : List Char} (blank : Blank before) (offset : Nat) :
    Leaves (colon ⟨before ++ ':' :: (after ++ rest), offset⟩) (after ++ rest) := by
  obtain ⟨there, same⟩ := exists_trim_eq_cons (c := ':') blank (by decide) (after ++ rest) offset
  exact ⟨there + ':'.utf8Size, by simp [colon, same, Cursor.past]⟩

theorem gives_nextMember_part {lead : List Char} (leads : Leads first lead) (offset : Nat) :
    Gives (nextMember first ⟨lead ++ '"' :: rest, offset⟩) true ('"' :: rest) := by
  cases first with
  | true =>
    obtain ⟨there, same⟩ := exists_trim_eq_cons (c := '"') leads (by decide) rest offset
    exact ⟨there, by simp [nextMember, same]⟩
  | false =>
    obtain ⟨after, there, there', same, same'⟩ :=
      exists_trim_lead (c := '"') leads (by decide) rest offset
    exact ⟨there', by simp [nextMember, same, same']⟩

theorem gives_nextMember_end {blanks : List Char} (blank : Blank blanks) (offset : Nat) :
    Gives (nextMember first ⟨blanks ++ '}' :: rest, offset⟩) false ('}' :: rest) := by
  obtain ⟨there, same⟩ := exists_trim_eq_cons (c := '}') blank (by decide) rest offset
  exact ⟨there, by simp [nextMember, same]⟩

/-- The members that are kept come in front of those found before, the last one first. -/
theorem gives_membersFrom {slots : List Slot} {members kept found : List (String × Value)}
    {inner : List Char} {fuel : Nat} (listed : Listed (Member Spells) first members inner)
    (keeps : Kept slots members kept) (apart : (kept.map Prod.fst).Nodup)
    (new : ∀ name ∈ kept.map Prod.fst, found.lookup name = none) (enough : members.length < fuel)
    (offset : Nat) :
    Gives (membersFrom slots fuel first found ⟨inner ++ '}' :: rest, offset⟩) (kept.reverse ++ found)
      ('}' :: rest) := by
  induction listed generalizing kept found fuel offset with
  | nil blank =>
    cases keeps
    obtain ⟨fuel, rfl⟩ := Nat.exists_eq_succ_of_ne_zero (Nat.ne_zero_of_lt enough)
    rw [membersFrom]
    exact (gives_nextMember_end blank offset).bind fun there => ⟨there, rfl⟩
  | @cons first lead text more member members leads head tail ih =>
    obtain ⟨fuel, rfl⟩ := Nat.exists_eq_succ_of_ne_zero (Nat.ne_zero_of_lt enough)
    have fewer : members.length < fuel := Nat.lt_of_succ_lt_succ enough
    have stops := tail.stops (stops_cons (c := '}') rest (by simp))
    cases head with
    | @intro name v colon text marked spelled =>
      obtain ⟨before, after, blank, blank', rfl⟩ := marked
      simp only [List.append_assoc, List.cons_append, writeText_append, membersFrom]
      refine (gives_nextMember_part leads offset).bind fun there => ?_
      rw [if_pos rfl]
      refine (gives_readText name _ _).bind fun behind => ?_
      cases keeps with
      | @found _ _ w slot _ kept named reads others =>
        obtain ⟨fresh, apart⟩ := List.nodup_cons.mp apart
        obtain ⟨unseen, new⟩ := List.forall_mem_cons.mp new
        rw [named, unseen]
        refine (leaves_colon blank _).bind fun value => ?_
        refine (reads _ blank' spelled stops).bind fun last => ?_
        simpa using ih others apart (lookup_cons_eq_none fresh new) fewer last
      | other none skips others =>
        rw [none]
        refine (leaves_colon blank _).bind fun value => ?_
        exact (skips _ blank' spelled stops).bind fun last => ih others apart new fewer last

end Members

/-- The slot is filled by the member of its name, or by its default if there is none. -/
def Filled (kept : List (String × Value)) (value : Slot → Value) (slot : Slot) : Prop :=
  (slot.name, value slot) ∈ kept ∨
    slot.name ∉ kept.map Prod.fst ∧ slot.absent = .given (value slot)

theorem complete_eq_ok {kept : List (String × Value)} {value : Slot → Value} {slots : List Slot}
    (apart : (kept.map Prod.fst).Nodup) (filled : ∀ slot ∈ slots, Filled kept value slot)
    (cursor : Cursor) :
    complete kept cursor slots = .ok (slots.map fun slot => (slot.name, value slot)) := by
  induction slots with
  | nil => rfl
  | cons slot slots ih =>
    obtain ⟨head, others⟩ := List.forall_mem_cons.mp filled
    rcases head with mem | ⟨missing, absent⟩
    · simp [complete, lookup_eq_some_of_mem apart mem, ih others, Except.map]
    · simp [complete, lookup_eq_none_of_not_mem missing, absent, ih others, Except.map]

end Reader

/-- A record is read as its slots, if each of them is filled. -/
theorem reads_record {slots : List Reader.Slot} {members kept : List (String × Value)}
    {value : Reader.Slot → Value} (keeps : Reader.Kept slots members kept)
    (apart : (kept.map Prod.fst).Nodup) (filled : ∀ slot ∈ slots, Reader.Filled kept value slot)
    (name : String) : Reads (Reader.record name slots) (.record members)
      (.record (slots.map fun slot => (slot.name, value slot))) := by
  intro blanks text rest offset blank spelled _
  cases spelled with
  | @record _ inner listed =>
    have enough := listed.length_lt (fun _ _ => Member.begins) ('}' :: rest)
    have new : ∀ name ∈ kept.map Prod.fst, ([] : List (String × Value)).lookup name = none :=
      fun _ _ => rfl
    -- The members are found in the other order, which makes no difference to the slots.
    have backwards : (kept.reverse.map Prod.fst).Nodup :=
      ((List.reverse_perm kept).map Prod.fst).nodup_iff.mpr apart
    have filled : ∀ slot ∈ slots, Reader.Filled (kept.reverse ++ []) value slot := by
      simpa [Reader.Filled] using filled
    simp only [List.cons_append, List.append_assoc, List.nil_append]
    refine gives_atValue blank (by decide) (fun there => ?_) offset
    rw [if_pos rfl]
    refine (Reader.gives_membersFrom listed keeps apart new enough _).bind fun behind => ?_
    dsimp only
    rw [Reader.complete_eq_ok (by simpa using backwards) filled]
    exact ⟨_, rfl⟩

/-! ## Records as they are written -/

namespace Reader

/-- The members stand in the order of the slots, and each of them is read by its slot. -/
inductive InOrder : List Slot → List (String × Value) → List (String × Value) → Prop
  | nil : InOrder [] [] []
  | cons {slot : Slot} {v w : Value} {slots : List Slot} {members founds : List (String × Value)}
      (reads : Reads slot.read v w) (others : InOrder slots members founds) :
      InOrder (slot :: slots) ((slot.name, v) :: members) ((slot.name, w) :: founds)

namespace InOrder

variable {slots all : List Slot} {members founds pairs : List (String × Value)}

theorem map_fst (ordered : InOrder slots members founds) :
    founds.map Prod.fst = slots.map Slot.name := by
  induction ordered with
  | nil => rfl
  | cons _ _ ih => rw [List.map_cons, List.map_cons, ih]

theorem kept (ordered : InOrder slots members founds)
    (named : ∀ slot ∈ slots, all.find? (·.name == slot.name) = some slot) :
    Kept all members founds := by
  induction ordered with
  | nil => exact .nil
  | cons reads _ ih =>
    obtain ⟨head, others⟩ := List.forall_mem_cons.mp named
    exact .found head reads (ih others)

theorem eq_map (ordered : InOrder slots members founds)
    (looked : ∀ pair ∈ founds, pairs.lookup pair.1 = some pair.2) :
    founds = slots.map fun slot => (slot.name, (pairs.lookup slot.name).getD .null) := by
  induction ordered with
  | nil => rfl
  | cons _ _ ih =>
    obtain ⟨head, others⟩ := List.forall_mem_cons.mp looked
    rw [List.map_cons, ← ih others, head, Option.getD_some]

end InOrder

theorem find?_name {slots : List Slot} (apart : (slots.map Slot.name).Nodup) :
    ∀ slot ∈ slots, slots.find? (·.name == slot.name) = some slot := by
  induction slots with
  | nil => exact fun _ none => absurd none List.not_mem_nil
  | cons first slots ih =>
    obtain ⟨fresh, apart⟩ := List.nodup_cons.mp apart
    rw [List.forall_mem_cons]
    refine ⟨List.find?_cons_of_pos (beq_self_eq_true _), fun slot mem => ?_⟩
    have other : first.name ≠ slot.name := by
      intro same
      rw [same] at fresh
      exact fresh (List.mem_map_of_mem mem)
    rw [List.find?_cons_of_neg (by simpa using other)]
    exact ih apart slot mem

end Reader

/-- A record with all its members in the order of the slots is read member by member. -/
theorem reads_record_inOrder {slots : List Reader.Slot} {members founds : List (String × Value)}
    (ordered : Reader.InOrder slots members founds) (apart : (slots.map Reader.Slot.name).Nodup)
    (name : String) : Reads (Reader.record name slots) (.record members) (.record founds) := by
  have apart' : (founds.map Prod.fst).Nodup := ordered.map_fst ▸ apart
  have looked : ∀ pair ∈ founds, founds.lookup pair.1 = some pair.2 :=
    fun pair mem => lookup_eq_some_of_mem apart' mem
  have same := ordered.eq_map looked
  rw [same]
  refine reads_record (ordered.kept (Reader.find?_name apart)) apart' (fun slot mem => Or.inl ?_) name
  conv_lhs => rw [same]
  exact List.mem_map_of_mem mem

/-! ## Whole documents -/

/-- The texts that spell a value, with blanks at either end. -/
def Spelled (v : Value) (document : String) : Prop :=
  ∃ before text after, Blank before ∧ Spells v text ∧ Blank after ∧
    document.toList = before ++ (text ++ after)

theorem spelled_toCompact (v : Value) : Spelled v v.toCompact :=
  ⟨[], v.compact, [], blank_nil, spells_compact v, blank_nil, by simp [Value.toCompact]⟩

theorem spelled_toPretty (v : Value) : Spelled v v.toPretty :=
  ⟨[], v.pretty 0, [], blank_nil, spells_pretty 0 v, blank_nil, by simp [Value.toPretty]⟩

theorem readAll_eq_ok {read : Reader} {v found : Value} {document : String} (reads : Reads read v found)
    (spelled : Spelled v document) : Reader.readAll read document = .ok found := by
  obtain ⟨before, text, after, blank, spells, blank', same⟩ := spelled
  have stops : Stops after := by simpa using stops_append blank' stops_nil
  obtain ⟨behind, value⟩ := reads 0 blank spells stops
  have none : ∀ c ∈ ([] : List Char).head?, Cursor.isBlank c = false := fun _ mem => by cases mem
  obtain ⟨last, trimmed⟩ := exists_trim_eq blank' none behind
  rw [List.append_nil] at trimmed
  simp [Reader.readAll, same, value, trimmed, bind, Except.bind, pure, Except.pure]

end PatternSearch.Document
