import PatternSearch.Proofs.Pattern.Matches
import PatternSearch.Proofs.Unicode.CharSet

/-!
# Matches of sequences, choices and repetitions

Expressions are built in a normal form. A sequence in normal form still matches what its members
match one after the other, a choice what one of its branches matches, and a repetition what some
rounds match, as many as it allows.
-/

namespace PatternSearch.Pattern.Regex

open Unicode

variable {source : Array Char} {i j : Nat}

theorem matches_text_singleton {c : Char} {ascii : Bool} :
    (text [c]).Matches source i j ↔ (set (.single c) ascii).Matches source i j := by
  constructor
  · rintro ⟨found, rfl⟩
    exact ⟨⟨c, found, CharSet.contains_single.mpr rfl⟩, rfl⟩
  · rintro ⟨⟨d, found, single⟩, rfl⟩
    obtain rfl := CharSet.contains_single.mp single
    exact ⟨found, rfl⟩

theorem matches_ofSet {s : CharSet} {ascii : Bool} :
    (ofSet s ascii).Matches source i j ↔ (set s ascii).Matches source i j := by
  rw [ofSet]
  split
  · next none =>
    subst none
    simp [never, Matches]
  · split
    · next c only =>
      rw [CharSet.eq_single_of_only? only]
      exact matches_text_singleton
    · exact Iff.rfl

/-! ## Sequences -/

/-- The expressions match one after the other. -/
def Chain (source : Array Char) : List Regex → Nat → Nat → Prop
  | [], i, j => i = j
  | r :: rest, i, k => ∃ j, r.Matches source i j ∧ Chain source rest j k

theorem chain_append {front back : List Regex} {k : Nat} :
    Chain source (front ++ back) i k ↔ ∃ j, Chain source front i j ∧ Chain source back j k := by
  induction front generalizing i with
  | nil => simp [Chain]
  | cons r rest ih =>
    constructor
    · rintro ⟨mid, first, later⟩
      obtain ⟨j, left, right⟩ := ih.mp later
      exact ⟨j, ⟨mid, first, left⟩, right⟩
    · rintro ⟨j, ⟨mid, first, left⟩, right⟩
      exact ⟨mid, first, ih.mpr ⟨j, left, right⟩⟩

theorem chain_singleton {r : Regex} : Chain source [r] i j ↔ r.Matches source i j := by
  constructor
  · rintro ⟨mid, found, rfl⟩
    exact found
  · intro found
    exact ⟨j, found, rfl⟩

theorem matches_ofParts {rs : List Regex} :
    (ofParts rs).Matches source i j ↔ Chain source rs i j := by
  induction rs generalizing i with
  | nil => exact Iff.rfl
  | cons r rest ih =>
    cases rest with
    | nil => exact chain_singleton.symm
    | cons next rest =>
      constructor
      · rintro ⟨mid, first, later⟩
        exact ⟨mid, first, ih.mp later⟩
      · rintro ⟨mid, first, later⟩
        exact ⟨mid, first, ih.mpr later⟩

theorem chain_parts {r : Regex} : Chain source r.parts i j ↔ r.Matches source i j := by
  induction r generalizing i j with
  | empty => exact Iff.rfl
  | cat a b _ ih =>
    constructor
    · rintro ⟨mid, first, later⟩
      exact ⟨mid, first, ih.mp later⟩
    · rintro ⟨mid, first, later⟩
      exact ⟨mid, first, ih.mpr later⟩
  | text | set | look | alt | rep | group => exact chain_singleton

theorem chain_flatMap_parts {rs : List Regex} :
    Chain source (rs.flatMap parts) i j ↔ Chain source rs i j := by
  induction rs generalizing i with
  | nil => exact Iff.rfl
  | cons r rest ih =>
    rw [List.flatMap_cons, chain_append]
    constructor
    · rintro ⟨mid, first, later⟩
      exact ⟨mid, chain_parts.mp first, ih.mp later⟩
    · rintro ⟨mid, first, later⟩
      exact ⟨mid, chain_parts.mpr first, ih.mpr later⟩

theorem chain_joinTexts {rs : List Regex} :
    Chain source (joinTexts rs) i j ↔ Chain source rs i j := by
  induction rs generalizing i with
  | nil => exact Iff.rfl
  | cons r rest ih =>
    have later : Chain source (r :: rest) i j ↔ Chain source (r :: joinTexts rest) i j := by
      constructor
      · rintro ⟨mid, first, more⟩
        exact ⟨mid, first, ih.mpr more⟩
      · rintro ⟨mid, first, more⟩
        exact ⟨mid, first, ih.mp more⟩
    rw [later]
    by_cases joins : ∃ a b others, r = text a ∧ joinTexts rest = text b :: others
    · obtain ⟨a, b, others, rfl, same⟩ := joins
      rw [joinTexts.eq_2 rest a b others same, same]
      constructor
      · rintro ⟨last, spelled, more⟩
        obtain ⟨mid, front, back⟩ := spells_append.mp spelled
        exact ⟨mid, front, last, back, more⟩
      · rintro ⟨mid, front, last, back, more⟩
        exact ⟨last, spells_append.mpr ⟨mid, front, back⟩, more⟩
    · rw [joinTexts.eq_3 rest r fun a b others isText same => joins ⟨a, b, others, isText, same⟩]

theorem matches_sequence {rs : List Regex} :
    (sequence rs).Matches source i j ↔ Chain source rs i j := by
  rw [sequence, matches_ofParts, chain_joinTexts, chain_flatMap_parts]

/-! ## Choices -/

theorem matches_ofBranches {rs : List Regex} :
    (ofBranches rs).Matches source i j ↔ ∃ r ∈ rs, r.Matches source i j := by
  induction rs with
  | nil => simp [ofBranches, never, Matches]
  | cons r rest ih =>
    cases rest with
    | nil => simp [ofBranches]
    | cons next rest =>
      change r.Matches source i j ∨ (ofBranches (next :: rest)).Matches source i j ↔ _
      rw [ih]
      simp

theorem exists_mem_branches {r : Regex} :
    (∃ b ∈ r.branches, b.Matches source i j) ↔ r.Matches source i j := by
  induction r with
  | alt a b _ ih =>
    rw [Matches, branches, ← ih]
    simp
  | empty | text | set | look | cat | rep | group => simp [branches]

theorem exists_mem_flatMap_branches {rs : List Regex} :
    (∃ b ∈ rs.flatMap branches, b.Matches source i j) ↔ ∃ r ∈ rs, r.Matches source i j := by
  constructor
  · rintro ⟨b, mem, found⟩
    obtain ⟨r, inner, branch⟩ := List.mem_flatMap.mp mem
    exact ⟨r, inner, exists_mem_branches.mp ⟨b, branch, found⟩⟩
  · rintro ⟨r, inner, found⟩
    obtain ⟨b, branch, found'⟩ := exists_mem_branches.mpr found
    exact ⟨b, List.mem_flatMap.mpr ⟨r, inner, branch⟩, found'⟩

theorem contains_foldl_union {α : Type} (members : α → CharSet) (items : List α) (s : CharSet)
    (c : Char) : (items.foldl (fun s a => (members a).union s) s).contains c = true ↔
      (∃ a ∈ items, (members a).contains c = true) ∨ s.contains c = true := by
  induction items generalizing s with
  | nil => simp
  | cons a rest ih =>
    rw [List.foldl_cons, ih, CharSet.contains_union]
    simp [or_assoc, or_left_comm]

/-- Branches that each match one character of some set match one of the union. -/
theorem matches_union {α : Type} {read : Regex → Option α} {members : α → CharSet}
    (spec : ∀ r a, read r = some a →
      (r.Matches source i j ↔ (set (members a) false).Matches source i j))
    {rs : List Regex} {items : List α} (all : rs.mapM read = some items) :
    (ofSet (items.foldl (fun s a => (members a).union s) .nothing) false).Matches source i j ↔
      ∃ r ∈ rs, r.Matches source i j := by
  have each : (∃ r ∈ rs, r.Matches source i j) ↔
      ∃ a ∈ items, (set (members a) false).Matches source i j := by
    induction rs generalizing items with
    | nil =>
      obtain rfl : [] = items := by simpa using all
      simp
    | cons r rest ih =>
      rw [List.mapM_cons] at all
      obtain ⟨a, first, later⟩ := Option.bind_eq_some_iff.mp all
      obtain ⟨as, more, whole⟩ := Option.bind_eq_some_iff.mp later
      obtain rfl : a :: as = items := by simpa using whole
      simp [ih more, spec r a first]
  rw [matches_ofSet, each]
  simp only [Matches, contains_foldl_union, CharSet.contains_nothing, Bool.false_eq_true, or_false]
  constructor
  · rintro ⟨⟨c, found, a, mem, inside⟩, next⟩
    exact ⟨a, mem, ⟨c, found, inside⟩, next⟩
  · rintro ⟨a, mem, ⟨c, found, inside⟩, next⟩
    exact ⟨⟨c, found, a, mem, inside⟩, next⟩

theorem matches_of_char? {r : Regex} {c : Char} (h : r.char? = some c) :
    r.Matches source i j ↔ (set (.single c) false).Matches source i j := by
  simp only [char?] at h
  split at h
  · cases h
    exact matches_text_singleton
  · cases h

theorem matches_of_set? {r : Regex} {s : CharSet} (h : r.set? = some s) :
    r.Matches source i j ↔ (set s false).Matches source i j := by
  simp only [set?] at h
  split at h
  · cases h
    exact Iff.rfl
  · cases h

theorem matches_of_asSet? {rs : List Regex} {r : Regex} (h : asSet? rs = some r) :
    r.Matches source i j ↔ ∃ b ∈ rs, b.Matches source i j := by
  rw [asSet?] at h
  split at h
  · next chars all =>
    cases h
    exact matches_union (fun _ _ => matches_of_char?) all
  · next sets _ all =>
    cases h
    exact matches_union (fun _ _ => matches_of_set?) all
  · cases h

theorem commonStart_isPrefix (as bs : List Regex) :
    commonStart as bs <+: as ∧ commonStart as bs <+: bs := by
  induction as generalizing bs with
  | nil => exact ⟨List.nil_prefix, List.nil_prefix⟩
  | cons a as ih =>
    cases bs with
    | nil => exact ⟨List.nil_prefix, List.nil_prefix⟩
    | cons b bs =>
      rw [commonStart]
      split
      · next same =>
        subst same
        exact ⟨List.cons_prefix_cons.mpr ⟨rfl, (ih bs).1⟩, List.cons_prefix_cons.mpr ⟨rfl, (ih bs).2⟩⟩
      · exact ⟨List.nil_prefix, List.nil_prefix⟩

theorem foldl_commonStart_isPrefix (rest : List (List Regex)) (first : List Regex) :
    rest.foldl commonStart first <+: first ∧ ∀ other ∈ rest, rest.foldl commonStart first <+: other := by
  induction rest generalizing first with
  | nil => simp
  | cons other rest ih =>
    have start := commonStart_isPrefix first other
    have more := ih (commonStart first other)
    refine ⟨more.1.trans start.1, ?_⟩
    intro list mem
    rcases List.mem_cons.mp mem with rfl | later
    · exact more.1.trans start.2
    · exact more.2 list later

theorem sharedStart_isPrefix {rs : List Regex} {r : Regex} (mem : r ∈ rs) :
    sharedStart rs <+: r.parts := by
  have listed : r.parts ∈ rs.map parts := List.mem_map_of_mem mem
  rw [sharedStart]
  split
  · next first rest same =>
    rw [same] at listed
    split
    · have common := foldl_commonStart_isPrefix rest first
      rcases List.mem_cons.mp listed with rfl | later
      · exact common.1
      · exact common.2 _ later
    · exact List.nil_prefix
  · exact List.nil_prefix

/-- What all branches begin with may be matched first. -/
theorem exists_of_sharedStart {rs : List Regex} : (∃ r ∈ rs, r.Matches source i j) ↔
    ∃ k, Chain source (sharedStart rs) i k ∧
      ∃ r ∈ rs, Chain source (r.parts.drop (sharedStart rs).length) k j := by
  have split : ∀ r ∈ rs, r.parts = sharedStart rs ++ r.parts.drop (sharedStart rs).length :=
    fun r mem => (List.prefix_iff_eq_append.mp (sharedStart_isPrefix mem)).symm
  constructor
  · rintro ⟨r, mem, found⟩
    rw [← chain_parts, split r mem] at found
    obtain ⟨k, start, rest⟩ := chain_append.mp found
    exact ⟨k, start, r, mem, rest⟩
  · rintro ⟨k, start, r, mem, rest⟩
    refine ⟨r, mem, ?_⟩
    rw [← chain_parts, split r mem]
    exact chain_append.mpr ⟨k, start, rest⟩

theorem matches_choiceFrom {fuel : Nat} {rs : List Regex} :
    (choiceFrom fuel rs).Matches source i j ↔ ∃ r ∈ rs, r.Matches source i j := by
  induction fuel generalizing rs i j with
  | zero => exact matches_ofBranches
  | succ fuel ih =>
    rw [← exists_mem_flatMap_branches, choiceFrom]
    split
    · next r single => simp [single]
    · split
      · next r asSet => exact matches_of_asSet? asSet
      · simp only
        split
        · exact matches_ofBranches
        · rw [matches_sequence, chain_append, exists_of_sharedStart]
          simp only [chain_singleton, ih]
          constructor
          · rintro ⟨k, start, rest, mem, found⟩
            obtain ⟨r, inner, rfl⟩ := List.mem_map.mp mem
            exact ⟨k, start, r, inner, matches_sequence.mp found⟩
          · rintro ⟨k, start, r, inner, found⟩
            exact ⟨k, start, _, List.mem_map_of_mem inner, matches_sequence.mpr found⟩

theorem matches_choice {rs : List Regex} :
    (choice rs).Matches source i j ↔ ∃ r ∈ rs, r.Matches source i j := matches_choiceFrom

/-! ## Repetitions -/

/-- Some rounds of an expression, as many as the bounds allow. -/
def Between (source : Array Char) (body : Regex) (least : Nat) (most : Option Nat) (i j : Nat) :
    Prop :=
  ∃ n, least ≤ n ∧ (∀ m, most = some m → n ≤ m) ∧ Rounds (body.Matches source) n i j

variable {least : Nat} {most extra : Option Nat} {greedy : Bool} {body : Regex}

theorem matches_rep : (rep least extra greedy body).Matches source i j ↔
    Between source body least (extra.map (least + ·)) i j := by
  simp [Matches, Between]

/-- A repetition with the most rounds that it may have. -/
theorem matches_rep_sub (ordered : ∀ m, most = some m → least ≤ m) :
    (rep least (most.map (· - least)) greedy body).Matches source i j ↔
      Between source body least most i j := by
  cases most with
  | none => exact matches_rep
  | some m =>
    have bound : least ≤ m := ordered m rfl
    have same : least + (m - least) = m := by omega
    rw [matches_rep]
    simp [same]

/-- Where no round takes a character, the second one changes nothing. -/
theorem between_iff_of_isZeroWidth (flat : body.isZeroWidth = true) :
    Between source body least (extra.map (least + ·)) i j ↔
      Between source body (min least 1) (some (match extra with
        | some n => min (least + n) 1
        | none => 1)) i j := by
  have once {n : Nat} : Rounds (body.Matches source) n i j ↔
      Rounds (body.Matches source) (min n 1) i j :=
    rounds_iff_of_flat fun a b step => step.eq_of_isZeroWidth flat
  constructor
  · rintro ⟨n, atLeast, atMost, rounds⟩
    refine ⟨min n 1, by omega, ?_, once.mp rounds⟩
    intro m same
    cases extra with
    | none =>
      cases same
      exact Nat.min_le_right n 1
    | some e =>
      cases same
      have bound := atMost (least + e) rfl
      change min n 1 ≤ min (least + e) 1
      omega
  · rintro ⟨n, atLeast, atMost, rounds⟩
    have below : n ≤ 1 := by
      have bound := atMost _ rfl
      cases extra with
      | none => exact bound
      | some e => simp only at bound; omega
    refine ⟨max least n, Nat.le_max_left least n, ?_, ?_⟩
    · intro m same
      cases extra with
      | none => cases same
      | some e =>
        cases same
        have bound : n ≤ min (least + e) 1 := atMost _ rfl
        change max least n ≤ least + e
        omega
    · rw [once, show min (max least n) 1 = n by omega]
      exact rounds

/-- No rounds and a single round are written without a repetition. -/
theorem matches_bounded (ordered : ∀ m, most = some m → least ≤ m) :
    (match least, most with
      | 0, some 0 => empty
      | 1, some 1 => body
      | least, most => rep least (most.map (· - least)) greedy body).Matches source i j ↔
    Between source body least most i j := by
  split
  · constructor
    · intro here
      exact ⟨0, Nat.le_refl 0, fun m _ => m.zero_le, here⟩
    · rintro ⟨n, -, atMost, rounds⟩
      obtain rfl : n = 0 := Nat.le_zero.mp (atMost 0 rfl)
      exact rounds
  · constructor
    · intro found
      have atMost : ∀ m, some 1 = some m → 1 ≤ m := by
        intro m same
        cases same
        exact Nat.le_refl 1
      exact ⟨1, Nat.le_refl 1, atMost, rounds_one.mpr found⟩
    · rintro ⟨n, atLeast, atMost, rounds⟩
      obtain rfl : n = 1 := Nat.le_antisymm (atMost 1 rfl) atLeast
      exact rounds_one.mp rounds
  · exact matches_rep_sub ordered

/-- However it is written, a repetition matches what its rounds match. -/
theorem matches_repeated : (repeated least extra greedy body).Matches source i j ↔
    (rep least extra greedy body).Matches source i j := by
  rw [matches_rep, repeated.eq_def]
  by_cases flat : body.isZeroWidth = true
  · simp only [flat, if_true]
    rw [between_iff_of_isZeroWidth flat]
    refine matches_bounded ?_
    intro m same
    cases extra with
    | none =>
      cases same
      exact Nat.min_le_right least 1
    | some e =>
      cases same
      change min least 1 ≤ min (least + e) 1
      omega
  · simp only [flat, Bool.false_eq_true, if_false]
    refine matches_bounded ?_
    intro m same
    cases extra with
    | none => cases same
    | some e =>
      cases same
      exact Nat.le_add_right least e

end PatternSearch.Pattern.Regex
