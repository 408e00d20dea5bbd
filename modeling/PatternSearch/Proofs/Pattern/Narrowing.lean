import Mathlib.Data.List.Forall2
import PatternSearch.Proofs.Pattern.Assembly
import PatternSearch.Proofs.Pattern.Reach

/-!
# Narrower tokens

One list of tokens is narrower than another one if its repetitions allow fewer counts of rounds; the
other one may have more that is optional. Assembled, the narrower one matches less. Both are assumed
to be well-formed, as neither need be for the other: what is optional nests one deeper, and the depth
is bounded.
-/

namespace PatternSearch.Pattern

/-- Every match of the first expression is one of the second. -/
def Regex.Narrows (a b : Regex) : Prop :=
  ∀ source i j, a.Matches source i j → b.Matches source i j

namespace Regex

theorem Narrows.refl (a : Regex) : a.Narrows a := fun _ _ _ found => found

theorem Narrows.chain {rs rs' : List Regex} (h : List.Forall₂ Narrows rs rs') {source : Array Char}
    {i j : Nat} (found : Chain source rs i j) : Chain source rs' i j := by
  induction h generalizing i with
  | nil => exact found
  | cons first _ ih =>
    obtain ⟨mid, here, later⟩ := found
    exact ⟨mid, first source i mid here, ih later⟩

theorem Narrows.exists_mem {rs rs' : List Regex} (h : List.Forall₂ Narrows rs rs')
    {source : Array Char} {i j : Nat} (found : ∃ r ∈ rs, r.Matches source i j) :
    ∃ r ∈ rs', r.Matches source i j := by
  induction h with
  | nil => exact found
  | cons first _ ih =>
    obtain ⟨r, mem, here⟩ := found
    rcases List.mem_cons.mp mem with rfl | later
    · exact ⟨_, List.mem_cons_self, first source i j here⟩
    · obtain ⟨r', mem', here'⟩ := ih ⟨r, later, here⟩
      exact ⟨r', List.mem_cons_of_mem _ mem', here'⟩

theorem Narrows.isMatch {a b : Regex} (h : a.Narrows b) {text : List Char}
    (found : a.isMatch text = true) : b.isMatch text = true := by
  obtain ⟨i, j, inside, here⟩ := isMatch_iff.mp found
  exact isMatch_iff.mpr ⟨i, j, inside, h _ i j here⟩

theorem Narrows.isWhole {a b : Regex} (h : a.Narrows b) {text : List Char}
    (found : a.isWhole text = true) : b.isWhole text = true :=
  isWhole_iff.mpr (h _ _ _ (isWhole_iff.mp found))

/-- Every count of rounds that the first bounds allow is allowed by the second. -/
structure Fewer (least : Nat) (extra : Option Nat) (least' : Nat) (extra' : Option Nat) : Prop where
  least_le : least' ≤ least
  le_most : ∀ m', extra' = some m' → ∃ m, extra = some m ∧ least + m ≤ least' + m'

theorem Fewer.refl (least : Nat) (extra : Option Nat) : Fewer least extra least extra :=
  ⟨Nat.le_refl least, fun m same => ⟨m, same, Nat.le_refl _⟩⟩

theorem Narrows.repeated {a b : Regex} (h : a.Narrows b) {least least' : Nat}
    {extra extra' : Option Nat} (fewer : Fewer least extra least' extra') (greedy greedy' : Bool) :
    (repeated least extra greedy a).Narrows (repeated least' extra' greedy' b) := by
  intro source i j found
  obtain ⟨n, atLeast, atMost, rounds⟩ := matches_repeated.mp found
  refine matches_repeated.mpr ⟨n, Nat.le_trans fewer.least_le atLeast, ?_, rounds.mono (h source)⟩
  intro m' same
  obtain ⟨m, same', le⟩ := fewer.le_most m' same
  exact Nat.le_trans (atMost m same') le

/-- What may be left out matches more than what may not. -/
theorem Narrows.optional {a b : Regex} (h : a.Narrows b) (greedy : Bool) :
    a.Narrows (Regex.repeated 0 (some 1) greedy b) := by
  intro source i j found
  refine matches_repeated.mpr ⟨1, Nat.zero_le 1, ?_, rounds_one.mpr (h source i j found)⟩
  intro m same
  cases same
  exact Nat.le_refl 1

end Regex

/-! ## Groups that are read -/

def Part.Narrows (p q : Part) : Prop := p.regex.Narrows q.regex

/-- The groups are read so far in the same way, and each part of the first is narrower. -/
structure Level.Narrows (level level' : Level) : Prop where
  branches : List.Forall₂ Part.Narrows level.branches level'.branches
  parts : List.Forall₂ Part.Narrows level.parts level'.parts

theorem Part.Narrows.regexes {ps qs : List Part} (h : List.Forall₂ Part.Narrows ps qs) :
    List.Forall₂ Regex.Narrows (ps.reverse.map (·.regex)) (qs.reverse.map (·.regex)) := by
  rw [List.forall₂_map_left_iff, List.forall₂_map_right_iff]
  exact List.forall₂_reverse_iff.mpr h

theorem Level.exists_of_quantify? {level next : Level} {least : Nat} {extra : Option Nat}
    {greedy : Bool} (h : level.quantify? least extra greedy = some next) :
    ∃ part parts, level.parts = part :: parts ∧ next = { level with
      parts := ⟨.repeated least extra greedy part.regex, part.depth + 1, true⟩ :: parts } := by
  rw [quantify?] at h
  split at h
  · cases h
  · next part parts same =>
    split at h
    · exact ⟨part, parts, same, (Option.some.inj h).symm⟩
    · cases h

/-- The number of a group says nothing of what it matches. -/
theorem Level.matches_close {level : Level} {source : Array Char} {i j : Nat} :
    level.close.regex.Matches source i j ↔ level.finish.regex.Matches source i j := by
  rw [close]
  cases level.number <;> exact Iff.rfl

namespace Level.Narrows

variable {level level' next next' : Level}

theorem empty (number : Option Nat) : Level.Narrows { number } { number } :=
  ⟨.nil, .nil⟩

theorem push (h : level.Narrows level') {p q : Part} (part : p.Narrows q) :
    (level.push p).Narrows (level'.push q) :=
  ⟨h.branches, .cons part h.parts⟩

theorem branch (h : level.Narrows level') : level.branch.Narrows level'.branch := by
  intro source i j found
  exact matches_branch.mpr (Regex.Narrows.chain (Part.Narrows.regexes h.parts)
    (matches_branch.mp found))

theorem split (h : level.Narrows level') : level.split.Narrows level'.split :=
  ⟨.cons h.branch h.branches, .nil⟩

theorem finish (h : level.Narrows level') : level.finish.Narrows level'.finish := by
  intro source i j found
  exact matches_finish.mpr (Regex.Narrows.exists_mem
    (Part.Narrows.regexes (.cons h.branch h.branches)) (matches_finish.mp found))

theorem close (h : level.Narrows level') : level.close.Narrows level'.close := by
  intro source i j found
  exact matches_close.mpr (h.finish source i j (matches_close.mp found))

theorem quantify (h : level.Narrows level') {least least' : Nat} {extra extra' : Option Nat}
    {greedy greedy' : Bool} (fewer : Regex.Fewer least extra least' extra')
    (quantified : level.quantify? least extra greedy = some next)
    (quantified' : level'.quantify? least' extra' greedy' = some next') : next.Narrows next' := by
  obtain ⟨p, ps, parts, rfl⟩ := exists_of_quantify? quantified
  obtain ⟨q, qs, parts', rfl⟩ := exists_of_quantify? quantified'
  have both := h.parts
  rw [parts, parts'] at both
  cases both with
  | cons last rest => exact ⟨h.branches, .cons (last.repeated fewer greedy greedy') rest⟩

theorem optional (h : level.Narrows level') {greedy : Bool}
    (quantified : level'.quantify? 0 (some 1) greedy = some next') : level.Narrows next' := by
  obtain ⟨q, qs, parts', rfl⟩ := exists_of_quantify? quantified
  obtain ⟨branches, both⟩ := h
  rw [parts'] at both
  obtain ⟨p, ps, last, rest, parts⟩ := List.forall₂_cons_right_iff.mp both
  refine ⟨branches, ?_⟩
  rw [parts]
  exact .cons (last.optional greedy) rest

end Level.Narrows

/-! ## Tokens -/

/-- The repetitions of the first tokens allow fewer counts of rounds, and the second tokens may have
some more that are optional. -/
inductive Token.Narrows : List Token → List Token → Prop
  | nil : Narrows [] []
  | cons (token : Token) {tokens tokens' : List Token} (rest : Narrows tokens tokens') :
    Narrows (token :: tokens) (token :: tokens')
  | quantifier {least least' : Nat} {extra extra' : Option Nat} (greedy greedy' : Bool)
    (fewer : Regex.Fewer least extra least' extra') {tokens tokens' : List Token}
    (rest : Narrows tokens tokens') :
    Narrows (.quantifier least extra greedy :: tokens) (.quantifier least' extra' greedy' :: tokens')
  | optional (greedy : Bool) {tokens tokens' : List Token} (rest : Narrows tokens tokens') :
    Narrows tokens (.quantifier 0 (some 1) greedy :: tokens')

theorem Token.Narrows.refl (tokens : List Token) : Token.Narrows tokens tokens := by
  induction tokens with
  | nil => exact .nil
  | cons token _ ih => exact .cons token ih

theorem Token.Narrows.append {tokens tokens' : List Token} (h : Token.Narrows tokens tokens')
    (front : List Token) : Token.Narrows (front ++ tokens) (front ++ tokens') := by
  induction front with
  | nil => exact h
  | cons token _ ih => exact .cons token ih

section Feed

variable {stack stack' next next' : List Level}

theorem narrows_of_feed_quantifier (h : List.Forall₂ Level.Narrows stack stack')
    {least least' : Nat} {extra extra' : Option Nat} {greedy greedy' : Bool}
    (fewer : Regex.Fewer least extra least' extra')
    (fed : feed stack (.quantifier least extra greedy) = some next)
    (fed' : feed stack' (.quantifier least' extra' greedy') = some next') :
    List.Forall₂ Level.Narrows next next' := by
  cases h with
  | nil => cases fed
  | cons top outer =>
    obtain ⟨level, quantified, rfl⟩ := Option.map_eq_some_iff.mp fed
    obtain ⟨level', quantified', rfl⟩ := Option.map_eq_some_iff.mp fed'
    exact .cons (top.quantify fewer quantified quantified') outer

theorem narrows_of_feed_optional (h : List.Forall₂ Level.Narrows stack stack') {greedy : Bool}
    (fed' : feed stack' (.quantifier 0 (some 1) greedy) = some next') :
    List.Forall₂ Level.Narrows stack next' := by
  cases h with
  | nil => cases fed'
  | cons top outer =>
    obtain ⟨level', quantified', rfl⟩ := Option.map_eq_some_iff.mp fed'
    exact .cons (top.optional quantified') outer

/-- Reading the same token keeps the second stack wider. -/
theorem narrows_of_feed (h : List.Forall₂ Level.Narrows stack stack') {token : Token}
    (fed : feed stack token = some next) (fed' : feed stack' token = some next') :
    List.Forall₂ Level.Narrows next next' := by
  cases h with
  | nil => cases fed
  | cons top outer =>
    cases token with
    | atom r depth =>
      cases fed
      cases fed'
      exact .cons (top.push (.refl r)) outer
    | directive =>
      cases fed
      cases fed'
      exact .cons (top.push (.refl .empty)) outer
    | quantifier least extra greedy =>
      exact narrows_of_feed_quantifier (.cons top outer) (.refl least extra) fed fed'
    | bar =>
      cases fed
      cases fed'
      exact .cons top.split outer
    | opening number =>
      cases fed
      cases fed'
      exact .cons (.empty number) (.cons top outer)
    | closing =>
      cases outer with
      | nil => cases fed
      | cons up outer =>
        cases fed
        cases fed'
        exact .cons (up.push top.close) outer

/-- Reading all tokens keeps the second stack wider. -/
theorem Token.Narrows.foldlM {tokens tokens' : List Token} (narrows : Token.Narrows tokens tokens')
    (h : List.Forall₂ Level.Narrows stack stack') (fed : tokens.foldlM feed stack = some next)
    (fed' : tokens'.foldlM feed stack' = some next') : List.Forall₂ Level.Narrows next next' := by
  induction narrows generalizing stack stack' with
  | nil =>
    cases fed
    cases fed'
    exact h
  | cons token _ ih =>
    rw [List.foldlM_cons] at fed fed'
    obtain ⟨mid, one, more⟩ := Option.bind_eq_some_iff.mp fed
    obtain ⟨mid', one', more'⟩ := Option.bind_eq_some_iff.mp fed'
    exact ih (narrows_of_feed h one one') more more'
  | quantifier greedy greedy' fewer _ ih =>
    rw [List.foldlM_cons] at fed fed'
    obtain ⟨mid, one, more⟩ := Option.bind_eq_some_iff.mp fed
    obtain ⟨mid', one', more'⟩ := Option.bind_eq_some_iff.mp fed'
    exact ih (narrows_of_feed_quantifier h fewer one one') more more'
  | optional greedy _ ih =>
    rw [List.foldlM_cons] at fed'
    obtain ⟨mid', one', more'⟩ := Option.bind_eq_some_iff.mp fed'
    exact ih (narrows_of_feed_optional h one') fed more'

end Feed

/-- Narrower tokens make a narrower expression. -/
theorem Regex.narrows_of_parse? {text text' : List Char} {r r' : Regex}
    (parsed : parse? text = some r) (parsed' : parse? text' = some r')
    (tokens : ∀ {ts ts'}, Token.scan? text = some ts → Token.scan? text' = some ts' →
      Token.Narrows ts ts') : r.Narrows r' := by
  obtain ⟨ts, level, scanned, fed, rfl⟩ := exists_of_parse? parsed
  obtain ⟨ts', level', scanned', fed', rfl⟩ := exists_of_parse? parsed'
  have start : List.Forall₂ Level.Narrows [{}] [{}] := .cons (.empty none) .nil
  cases (tokens scanned scanned').foldlM start fed fed' with
  | cons narrows _ => exact narrows.finish

end PatternSearch.Pattern
