import PatternSearch.Pattern.Grammar
import PatternSearch.Proofs.Pattern.Forms

/-!
# Assembling tokens

Assembling goes through the tokens with a stack of the groups that are read, the innermost first. A
part put in front of all tokens ends up in front of the first alternative of the pattern, and a part
put behind them ends up behind the last one: a group would take in all alternatives, but no group is
added.
-/

namespace PatternSearch.Pattern

/-- One token, read into a stack of groups. -/
def feed : List Level → Token → Option (List Level)
  | [], _ => none
  | level :: outer, .atom r depth => some (level.push ⟨r, depth, true⟩ :: outer)
  | level :: outer, .directive => some (level.push ⟨.empty, 0, false⟩ :: outer)
  | level :: outer, .quantifier least extra greedy =>
    (level.quantify? least extra greedy).map (· :: outer)
  | level :: outer, .bar => some (level.split :: outer)
  | level :: outer, .opening number => some ({ number } :: level :: outer)
  | [_], .closing => none
  | level :: up :: outer, .closing => some (up.push level.close :: outer)

/-- The outermost group, if no other is left open. -/
def settle : List Level → Option Level
  | [level] => some level
  | _ => none

theorem assemble_eq (level : Level) (outer : List Level) (tokens : List Token) :
    assemble level outer tokens =
      ((tokens.foldlM feed (level :: outer)).bind settle).map Level.finish := by
  induction tokens generalizing level outer with
  | nil => cases outer <;> rfl
  | cons token rest ih =>
    rw [List.foldlM_cons]
    cases token with
    | atom r depth => exact ih _ outer
    | directive => exact ih _ outer
    | quantifier least extra greedy =>
      cases quantified : level.quantify? least extra greedy with
      | none => simp [assemble, feed, quantified]
      | some next =>
        simp only [assemble, feed, quantified, Option.map_some]
        exact ih next outer
    | bar => exact ih _ outer
    | opening number => exact ih _ (level :: outer)
    | closing =>
      cases outer with
      | nil => rfl
      | cons up outer => exact ih _ outer

/-! ## Alternatives -/

/-- The alternatives of a group, in order. -/
def Level.alternatives (level : Level) : List Regex :=
  (level.branch :: level.branches).reverse.map (·.regex)

theorem Level.matches_finish {level : Level} {source : Array Char} {i j : Nat} :
    level.finish.regex.Matches source i j ↔ ∃ a ∈ level.alternatives, a.Matches source i j :=
  Regex.matches_choice

theorem Level.matches_branch {level : Level} {source : Array Char} {i j : Nat} :
    level.branch.regex.Matches source i j ↔
      Regex.Chain source (level.parts.reverse.map (·.regex)) i j :=
  Regex.matches_sequence

/-- The top-level alternatives of a pattern; `none` for malformed patterns. -/
def Regex.alternatives? (source : List Char) : Option (List Regex) := do
  let stack ← (← Token.scan? source).foldlM feed [{}]
  return (← settle stack).alternatives

theorem Regex.exists_of_parse? {source : List Char} {r : Regex} (h : parse? source = some r) :
    ∃ tokens level, Token.scan? source = some tokens ∧
      tokens.foldlM feed [{}] = some [level] ∧ r = level.finish.regex := by
  obtain ⟨tokens, scanned, h⟩ := Option.bind_eq_some_iff.mp h
  obtain ⟨part, assembled, h⟩ := Option.bind_eq_some_iff.mp h
  rw [assemble_eq] at assembled
  obtain ⟨level, settled, rfl⟩ := Option.map_eq_some_iff.mp assembled
  obtain ⟨stack, fed, alone⟩ := Option.bind_eq_some_iff.mp settled
  have one : stack = [level] := by
    simp only [settle] at alone
    split at alone
    · rw [Option.some.inj alone]
    · cases alone
  rw [one] at fed
  refine ⟨tokens, level, scanned, fed, ?_⟩
  split at h
  · exact (Option.some.inj h).symm
  · cases h

/-! ## A part in front -/

/-- The second expression matches what the first part and then the first expression match. -/
def Prepends (first before after : Regex) : Prop := ∀ source i k,
  after.Matches source i k ↔ ∃ j, first.Matches source i j ∧ before.Matches source j k

/-- The second group is the first one with a part in front of its first alternative. -/
inductive Level.Begins (first : Part) : Level → Level → Prop
  | parts (number : Option Nat) (parts : List Part) :
    Begins first ⟨number, [], parts⟩ ⟨number, [], parts ++ [first]⟩
  | branches (number : Option Nat) (branches parts : List Part) {before after : Part}
    (prepends : Prepends first.regex before.regex after.regex) :
    Begins first ⟨number, branches ++ [before], parts⟩ ⟨number, branches ++ [after], parts⟩

namespace Level.Begins

variable {first : Part} {level level' : Level}

theorem push (h : Begins first level level') (part : Part) :
    Begins first (level.push part) (level'.push part) := by
  cases h with
  | parts number parts => exact .parts number (part :: parts)
  | branches number branches parts prepends => exact .branches number branches (part :: parts) prepends

/-- A last branch that has begun with the part has it in front. -/
theorem prepends_branch (number : Option Nat) (parts : List Part) :
    Prepends first.regex (Level.branch ⟨number, [], parts⟩).regex
      (Level.branch ⟨number, [], parts ++ [first]⟩).regex := by
  intro source i k
  rw [matches_branch, List.reverse_append, List.map_append, Regex.chain_append]
  constructor
  · rintro ⟨j, begins, rest⟩
    exact ⟨j, Regex.chain_singleton.mp begins, matches_branch.mpr rest⟩
  · rintro ⟨j, begins, rest⟩
    exact ⟨j, Regex.chain_singleton.mpr begins, matches_branch.mp rest⟩

theorem split (h : Begins first level level') : Begins first level.split level'.split := by
  cases h with
  | parts number parts => exact .branches number [] [] (prepends_branch number parts)
  | branches number branches parts prepends =>
    exact .branches number (Level.branch ⟨number, _, parts⟩ :: branches) [] prepends

theorem quantify? (h : Begins first level level') {least : Nat} {extra : Option Nat} {greedy : Bool}
    {next : Level} (quantified : level.quantify? least extra greedy = some next) :
    ∃ next', level'.quantify? least extra greedy = some next' ∧ Begins first next next' := by
  cases h with
  | parts number parts =>
    cases parts with
    | nil => cases quantified
    | cons part parts =>
      simp only [Level.quantify?] at quantified
      split at quantified
      · next repeatable =>
        cases quantified
        refine ⟨_, ?_, .parts number (_ :: parts)⟩
        simp [Level.quantify?, repeatable]
      · cases quantified
  | branches number branches parts prepends =>
    cases parts with
    | nil => cases quantified
    | cons part parts =>
      simp only [Level.quantify?] at quantified
      split at quantified
      · next repeatable =>
        cases quantified
        refine ⟨_, ?_, .branches number branches (_ :: parts) prepends⟩
        simp [Level.quantify?, repeatable]
      · cases quantified

theorem alternatives (h : Begins first level level') : ∃ before after rest,
    level.alternatives = before :: rest ∧ level'.alternatives = after :: rest ∧
      Prepends first.regex before after := by
  cases h with
  | parts number parts => exact ⟨_, _, [], rfl, rfl, prepends_branch number parts⟩
  | branches number branches parts prepends =>
    refine ⟨_, _, (branches.reverse ++ [Level.branch ⟨number, [], parts⟩]).map (·.regex), ?_, ?_,
      prepends⟩
    · simp [Level.alternatives, Level.branch]
    · simp [Level.alternatives, Level.branch]

end Level.Begins

/-- The stacks differ in the outermost group, which has a part in front in the second one. -/
inductive BeginsBelow (first : Part) : List Level → List Level → Prop
  | here {level level' : Level} (h : level.Begins first level') : BeginsBelow first [level] [level']
  | under (level : Level) {outer outer' : List Level} (h : BeginsBelow first outer outer') :
    BeginsBelow first (level :: outer) (level :: outer')

namespace BeginsBelow

variable {first : Part} {level level' : Level} {outer outer' stack stack' next : List Level}

/-- Reading a token keeps the part in front. -/
theorem feed (h : BeginsBelow first stack stack') {token : Token}
    (fed : Pattern.feed stack token = some next) :
    ∃ next', Pattern.feed stack' token = some next' ∧ BeginsBelow first next next' := by
  cases token with
  | atom r depth =>
    cases h with
    | here begins =>
      cases fed
      exact ⟨_, rfl, .here (begins.push _)⟩
    | under level rest =>
      cases fed
      exact ⟨_, rfl, .under _ rest⟩
  | directive =>
    cases h with
    | here begins =>
      cases fed
      exact ⟨_, rfl, .here (begins.push _)⟩
    | under level rest =>
      cases fed
      exact ⟨_, rfl, .under _ rest⟩
  | quantifier least extra greedy =>
    cases h with
    | here begins =>
      obtain ⟨level, quantified, rfl⟩ := Option.map_eq_some_iff.mp fed
      obtain ⟨level', quantified', begins'⟩ := begins.quantify? quantified
      exact ⟨[level'], by rw [Pattern.feed, quantified', Option.map_some], .here begins'⟩
    | under level rest =>
      obtain ⟨level', quantified, rfl⟩ := Option.map_eq_some_iff.mp fed
      exact ⟨_, by rw [Pattern.feed, quantified, Option.map_some], .under level' rest⟩
  | bar =>
    cases h with
    | here begins =>
      cases fed
      exact ⟨_, rfl, .here begins.split⟩
    | under level rest =>
      cases fed
      exact ⟨_, rfl, .under _ rest⟩
  | opening number =>
    cases h with
    | here begins =>
      cases fed
      exact ⟨_, rfl, .under _ (.here begins)⟩
    | under level rest =>
      cases fed
      exact ⟨_, rfl, .under _ (.under level rest)⟩
  | closing =>
    cases h with
    | here begins => cases fed
    | under level rest =>
      cases rest with
      | here begins =>
        cases fed
        exact ⟨_, rfl, .here (begins.push _)⟩
      | under up rest =>
        cases fed
        exact ⟨_, rfl, .under _ rest⟩

/-- Reading all tokens keeps the part in front. -/
theorem foldlM (h : BeginsBelow first stack stack') {tokens : List Token}
    (fed : tokens.foldlM Pattern.feed stack = some next) :
    ∃ next', tokens.foldlM Pattern.feed stack' = some next' ∧ BeginsBelow first next next' := by
  induction tokens generalizing stack stack' with
  | nil =>
    cases fed
    exact ⟨stack', rfl, h⟩
  | cons token rest ih =>
    rw [List.foldlM_cons] at fed
    obtain ⟨mid, one, more⟩ := Option.bind_eq_some_iff.mp fed
    obtain ⟨mid', one', begins⟩ := h.feed one
    obtain ⟨next', more', begins'⟩ := ih begins more
    refine ⟨next', ?_, begins'⟩
    rw [List.foldlM_cons, one']
    exact more'

end BeginsBelow

/-- An atom read before all tokens stands in front of the first alternative. -/
theorem begins_of_foldlM {tokens : List Token} {level : Level} {r : Regex} {depth : Nat}
    (fed : tokens.foldlM feed [{}] = some [level]) :
    ∃ level', (.atom r depth :: tokens).foldlM feed [{}] = some [level'] ∧
      level.Begins ⟨r, depth, true⟩ level' := by
  have start : BeginsBelow ⟨r, depth, true⟩ [{}] [({} : Level).push ⟨r, depth, true⟩] :=
    .here (.parts none [])
  obtain ⟨next', fed', begins⟩ := start.foldlM fed
  cases begins with
  | here begins => exact ⟨_, fed', begins⟩
  | under _ rest => cases rest

/-! ## A part behind -/

/-- The second expression matches what the first expression and then the last part match. -/
def Appends (last before after : Regex) : Prop := ∀ source i k,
  after.Matches source i k ↔ ∃ j, before.Matches source i j ∧ last.Matches source j k

theorem Level.alternatives_push (level : Level) (last : Part) : ∃ before after front,
    level.alternatives = front ++ [before] ∧ (level.push last).alternatives = front ++ [after] ∧
      Appends last.regex before after := by
  refine ⟨level.branch.regex, (level.push last).branch.regex, level.branches.reverse.map (·.regex),
    ?_, ?_, ?_⟩
  · simp [Level.alternatives]
  · simp [Level.alternatives, Level.push]
  · intro source i k
    rw [matches_branch, Level.push, List.reverse_cons, List.map_append, Regex.chain_append]
    constructor
    · rintro ⟨j, rest, ends⟩
      exact ⟨j, matches_branch.mpr rest, Regex.chain_singleton.mp ends⟩
    · rintro ⟨j, rest, ends⟩
      exact ⟨j, matches_branch.mp rest, Regex.chain_singleton.mpr ends⟩

end PatternSearch.Pattern
