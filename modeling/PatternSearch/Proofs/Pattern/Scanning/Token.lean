import PatternSearch.Pattern.Token
import PatternSearch.Proofs.Pattern.Scanning.Bracket

/-!
# Tokens with text behind

The scanner reads the same tokens if more text is written behind, and goes on with that, unless a
comment is open at the end. A dollar sign behind is one more token, or nothing in a comment.
-/

namespace PatternSearch.Pattern

open Text Unicode

theorem FlagChange.read_append {change result : FlagChange} {clearing dangling : Bool}
    {text rest : List Char} {last : Char}
    (h : read change clearing dangling text = some (result, last, rest)) (tail : List Char) :
    read change clearing dangling (text ++ tail) = some (result, last, rest ++ tail) := by
  induction text generalizing change clearing dangling with
  | nil => cases h
  | cons c text ih =>
    rw [read] at h
    rw [List.cons_append, read]
    split at h
    · next ends =>
      rw [if_pos ends]
      split at h
      · cases h
      · next complete =>
        cases h
        rw [if_neg complete]
    · next goesOn =>
      rw [if_neg goesOn]
      split at h
      · next minus =>
        rw [if_pos minus]
        split at h
        · cases h
        · next notClearing =>
          rw [if_neg notClearing]
          exact ih h
      · next notMinus =>
        rw [if_neg notMinus]
        cases known : Flag.ofChar? c with
        | none =>
          rw [known] at h
          cases h
        | some flag =>
          rw [known] at h
          simp only at h ⊢
          split at h
          · cases h
          · next new =>
            rw [if_neg new]
            split at h
            · next isClearing =>
              rw [if_pos isClearing]
              exact ih h
            · next notClearing =>
              rw [if_neg notClearing]
              exact ih h

namespace Token

variable {tail : List Char}

/-! ## Quantifiers -/

/-- No question mark stands apart. -/
theorem quantified_append (flags : Flags) (least : Nat) (extra : Option Nat) (text : List Char)
    (apart : Apart tail) : quantified flags least extra (text ++ tail) =
      ((quantified flags least extra text).1, (quantified flags least extra text).2 ++ tail) := by
  cases text with
  | nil =>
    have notMark := apart.ne_cons (show '?' ≠ '$' by decide) (by decide) (by decide)
    rw [List.nil_append, quantified.eq_2 flags least extra tail notMark]
    rfl
  | cons c text =>
    by_cases few : c = '?'
    · subst few
      rfl
    · simp [quantified, few]

theorem digitRun_nil (flags : Flags) (fuel : Nat) : digitRun flags fuel [] = ([], []) := by
  cases fuel <;> rfl

theorem digitRun_append {flags : Flags} {fuel : Nat} {text digits rest : List Char} {c : Char}
    (apart : Apart tail) (more : Nat) (le : text.length ≤ fuel)
    (h : digitRun flags fuel text = (digits, c :: rest)) :
    digitRun flags (fuel + more) (text ++ tail) = (digits, c :: (rest ++ tail)) := by
  induction fuel generalizing text digits with
  | zero =>
    obtain rfl : text = [] := List.length_eq_zero_iff.mp (by omega)
    cases h
  | succ fuel ih =>
    cases text with
    | nil => cases h
    | cons d text =>
      rw [digitRun] at h
      rw [Nat.add_right_comm, List.cons_append, digitRun]
      split at h
      · next decimal =>
        rw [if_pos decimal]
        cases skipped : flags.skip text with
        | nil =>
          rw [skipped, digitRun_nil] at h
          cases h
        | cons e others =>
          rw [skipped] at h
          have short := flags.length_skip_le text
          rw [skipped] at short
          rw [List.length_cons] at le
          cases run : digitRun flags fuel (e :: others) with
          | mk digits' rest' =>
            rw [run] at h
            cases h
            have run' := ih (by omega) run
            rw [List.cons_append] at run'
            rw [Flags.skip_append skipped apart, run']
      · next other =>
        cases h
        rw [if_neg other]

theorem count?_nil (flags : Flags) : count? flags [] = none := rfl

theorem count?_append {flags : Flags} {text rest : List Char} {n : Nat} {c : Char}
    (h : count? flags text = some (n, c :: rest)) (apart : Apart tail) :
    count? flags (text ++ tail) = some (n, c :: (rest ++ tail)) := by
  rw [count?] at h
  rw [count?, dropWhile_isBlank_append text apart, List.length_append]
  cases run : digitRun flags text.length (text.dropWhile isBlank) with
  | mk digits left =>
    rw [run] at h
    simp only at h
    split at h
    · cases h
    · next valid =>
      obtain ⟨rfl, left_eq⟩ := Prod.mk.inj (Option.some.inj h)
      cases left with
      | nil => cases left_eq
      | cons d others =>
        have short : (text.dropWhile isBlank).length ≤ text.length :=
          (List.dropWhile_sublist _).length_le
        have append := dropWhile_isBlank_append (d :: others) apart
        rw [left_eq, List.cons_append, List.cons_append] at append
        rw [digitRun_append apart tail.length short run]
        simp only
        rw [if_neg valid, append]

/-- A count is read from what means something, if something is left after it. -/
theorem count?_skip_append {flags : Flags} {text rest : List Char} {n : Nat} {c : Char}
    (h : count? flags (flags.skip text) = some (n, c :: rest)) (apart : Apart tail) :
    count? flags (flags.skip (text ++ tail)) = some (n, c :: (rest ++ tail)) := by
  cases skipped : flags.skip text with
  | nil =>
    rw [skipped, count?_nil] at h
    cases h
  | cons d others =>
    rw [skipped] at h
    rw [Flags.skip_append skipped apart]
    exact count?_append h apart

theorem local_extra? (flags : Flags) (least : Nat) : Local (extra? flags least) := by
  intro text extra rest h tail apart
  rw [extra?] at h
  split at h
  · next others skipped =>
    cases h
    rw [extra?, Flags.skip_append skipped apart]
    rfl
  · next open' =>
    obtain ⟨⟨most, left⟩, read, h⟩ := Option.bind_eq_some_iff.mp h
    simp only at h
    split at h
    · next others =>
      split at h
      · next ordered =>
        cases h
        cases skipped : flags.skip text with
        | nil =>
          rw [skipped, count?_nil] at read
          cases read
        | cons d inner =>
          rw [skipped] at open' read
          have read' := count?_append read apart
          rw [List.cons_append] at read'
          rw [extra?, Flags.skip_append skipped apart]
          split
          · next same =>
            cases same
            exact absurd rfl (open' inner)
          · simp [read', ordered]
      · cases h
    · cases h

theorem local_counts? (flags : Flags) : Local (counts? flags) := by
  intro text found rest h tail apart
  obtain ⟨⟨least, left⟩, read, h⟩ := Option.bind_eq_some_iff.mp h
  simp only at h
  split at h
  · next others =>
    cases h
    simp only [counts?, count?_skip_append read apart, Option.bind_eq_bind, Option.bind_some]
    rfl
  · next others =>
    obtain ⟨⟨extra, more⟩, bound, same⟩ := Option.bind_eq_some_iff.mp h
    cases same
    simp only [counts?, count?_skip_append read apart, Option.bind_eq_bind, Option.bind_some]
    rw [local_extra? flags least bound apart]
    rfl
  · cases h

/-- Blanks and comments after the braces are skipped. -/
theorem counted?_append_or {flags : Flags} {text rest : List Char} {token : Token}
    (h : counted? flags text = some (token, rest)) :
    (∀ {tail}, Apart tail → counted? flags (text ++ tail) = some (token, rest ++ tail)) ∨
      InComment (counted? flags) text := by
  obtain ⟨⟨⟨least, extra⟩, left⟩, read, same⟩ := Option.map_eq_some_iff.mp h
  simp only at same
  have after {tail : List Char} (apart : Apart tail) : counted? flags (text ++ tail) =
      some (quantified flags least extra (flags.skip (left ++ tail))) := by
    rw [counted?, local_counts? flags read apart, Option.map_some]
  rcases flags.skip_append_or left with behind | ⟨-, open'⟩
  · refine Or.inl fun {tail} apart => ?_
    rw [after apart, behind apart, quantified_append flags least extra _ apart, same]
  · refine Or.inr fun {tail tail'} apart apart' taken => ?_
    rw [after apart, after apart', open' apart apart' taken]

/-! ## Groups -/

theorem local_name? : Local name? := by
  intro text name rest h tail apart
  rw [name?] at h
  split at h
  · next c front d others taken dropped =>
    obtain ⟨dropped', taken'⟩ := takeWhile_append_of_cons dropped tail
    rw [name?, dropped', taken', taken]
    simp only
    split at h
    · next valid =>
      cases h
      rw [if_pos valid]
    · cases h
  · cases h

theorem namedGroup?_append {scan scan' : Scan} {text rest : List Char} {token : Token}
    (h : namedGroup? scan text = some (token, scan', rest)) (apart : Apart tail) :
    namedGroup? scan (text ++ tail) = some (token, scan', rest ++ tail) := by
  obtain ⟨⟨name, more⟩, read, h⟩ := Option.bind_eq_some_iff.mp h
  simp only at h
  split at h
  · cases h
  · next new =>
    cases h
    simp only [namedGroup?, local_name? read apart, Option.bind_eq_bind, Option.bind_some]
    rw [if_neg new]
    rfl

theorem flagGroup?_append {scan scan' : Scan} {text rest : List Char} {token : Token}
    (h : flagGroup? scan text = some (token, scan', rest)) (tail : List Char) :
    flagGroup? scan (text ++ tail) = some (token, scan', rest ++ tail) := by
  obtain ⟨⟨change, last, more⟩, read, h⟩ := Option.bind_eq_some_iff.mp h
  have read' : FlagChange.read? (text ++ tail) = some (change, last, more ++ tail) :=
    FlagChange.read_append read tail
  simp only at h
  simp only [flagGroup?, read', Option.bind_eq_bind, Option.bind_some]
  split at h
  · next own =>
    cases h
    rw [if_pos own]
    rfl
  · next alone =>
    rw [if_neg alone]
    split at h
    · cases h
    · next some =>
      cases h
      rw [if_neg some]
      rfl

/-- A group whose parenthesis is not followed by an open comment. -/
theorem group?_append {scan scan' : Scan} {text rest : List Char} {token : Token}
    (h : group? scan text = some (token, scan', rest)) (apart : Apart tail)
    (behind : scan.flags.skip (text ++ tail) = scan.flags.skip text ++ tail) :
    group? scan (text ++ tail) = some (token, scan', rest ++ tail) := by
  rw [group?] at h
  rw [group?, behind]
  split at h
  · next inner skipped =>
    rw [skipped]
    exact namedGroup?_append h apart
  · next inner skipped =>
    rw [skipped]
    exact namedGroup?_append h apart
  · next inner notAngle notNamed skipped =>
    have read := flagGroup?_append h tail
    rw [skipped]
    cases inner with
    | nil => cases h
    | cons d inner =>
      have notAngle' : d ≠ '<' := fun angle => notAngle inner (by rw [angle])
      by_cases isP : d = 'P'
      · subst isP
        cases inner with
        | nil => cases h
        | cons e inner =>
          have notNamed' : e ≠ '<' := fun angle => notNamed inner (by rw [angle])
          simpa [notNamed'] using read
      · simpa [notAngle', isP] using read
  · next notAngle notNamed notFlags =>
    obtain ⟨rfl, rest_eq⟩ := Prod.mk.inj (Option.some.inj h)
    obtain ⟨rfl, rfl⟩ := Prod.mk.inj rest_eq
    have notMark : ∀ inner, scan.flags.skip text ++ tail ≠ '?' :: inner := by
      intro inner same
      cases skipped : scan.flags.skip text with
      | nil =>
        rw [skipped] at same
        exact apart.ne_cons (show '?' ≠ '$' by decide) (by decide) (by decide) inner same
      | cons c others =>
        rw [skipped] at same
        exact notFlags others (by rw [skipped, (List.cons.inj same).1])
    split
    · next inner same => exact absurd same (notMark _)
    · next inner same => exact absurd same (notMark _)
    · next inner _ _ same => exact absurd same (notMark _)
    · rfl

theorem group?_append_or {scan scan' : Scan} {text rest : List Char} {token : Token}
    (h : group? scan text = some (token, scan', rest)) :
    (∀ {tail}, Apart tail → group? scan (text ++ tail) = some (token, scan', rest ++ tail)) ∨
      InComment (group? scan) text := by
  rcases scan.flags.skip_append_or text with behind | ⟨-, open'⟩
  · exact Or.inl fun apart => group?_append h apart (behind apart)
  · refine Or.inr fun {tail tail'} apart apart' taken => ?_
    rw [group?, group?, open' apart apart' taken]

/-! ## The scanner -/

theorem escape?_append {flags : Flags} {text rest : List Char} {token : Token}
    (h : escape? flags text = some (token, rest)) (apart : Apart tail) :
    escape? flags (text ++ tail) = some (token, rest ++ tail) := by
  obtain ⟨⟨item, more⟩, read, h⟩ := Option.bind_eq_some_iff.mp h
  have read' := Escape.local_read? flags read apart
  cases item with
  | literal c isByte =>
    obtain ⟨token', known, same⟩ := Option.bind_eq_some_iff.mp h
    cases same
    simp [escape?, read', known]
  | look l =>
    cases h
    simp [escape?, read']
  | set s =>
    cases h
    simp [escape?, read']

theorem next?_append_or {scan scan' : Scan} {c : Char} {text rest : List Char} {token : Token}
    (h : next? scan c text = some (token, scan', rest)) :
    (∀ {tail}, Apart tail → next? scan c (text ++ tail) = some (token, scan', rest ++ tail)) ∨
      InComment (next? scan c) text := by
  rw [next?.eq_def] at h
  simp only at h
  split at h
  · exact group?_append_or h
  · obtain ⟨left, leaves, same⟩ := Option.map_eq_some_iff.mp h
    cases same
    exact Or.inl fun _ => by simp [next?, leaves]
  · cases h
    exact Or.inl fun _ => rfl
  · obtain ⟨⟨nested, more⟩, read, same⟩ := Option.map_eq_some_iff.mp h
    cases same
    exact Or.inl fun apart => by simp [next?, Bracket.local_read? scan.flags read apart]
  · cases h
    exact Or.inl fun apart => by simp [next?, quantified_append scan.flags 0 (some 1) text apart]
  · cases h
    exact Or.inl fun apart => by simp [next?, quantified_append scan.flags 0 none text apart]
  · cases h
    exact Or.inl fun apart => by simp [next?, quantified_append scan.flags 1 none text apart]
  · obtain ⟨⟨found, more⟩, read, same⟩ := Option.map_eq_some_iff.mp h
    cases same
    rcases counted?_append_or read with behind | open'
    · exact Or.inl fun apart => by simp [next?, behind apart]
    · exact Or.inr (open'.comp (Option.map fun found => (found.1, scan, found.2)))
  · obtain ⟨⟨found, more⟩, read, same⟩ := Option.map_eq_some_iff.mp h
    cases same
    exact Or.inl fun apart => by simp [next?, escape?_append read apart]
  · obtain ⟨found, known, same⟩ := Option.map_eq_some_iff.mp h
    cases same
    exact Or.inl fun _ => by simp [next?, known]
  · cases h
    exact Or.inl fun _ => rfl
  · cases h
    exact Or.inl fun _ => rfl
  · obtain ⟨found, known, same⟩ := Option.map_eq_some_iff.mp h
    cases same
    exact Or.inl fun _ => by simp [next?, known]

theorem scanFrom_nil (fuel : Nat) (scan : Scan) : scanFrom (fuel + 1) scan [] = some [] := by
  simp [scanFrom]

/-- The scanner skips what means nothing before it looks at the text. -/
theorem scanFrom_congr {scan : Scan} {text text' : List Char} (fuel : Nat)
    (same : scan.flags.skip text = scan.flags.skip text') :
    scanFrom fuel scan text = scanFrom fuel scan text' := by
  cases fuel with
  | zero => rfl
  | succ fuel => rw [scanFrom, scanFrom, same]

theorem scanFrom_of_skip {scan scan' : Scan} {text rest rest' : List Char} {c : Char} {token : Token}
    (fuel : Nat) (skipped : scan.flags.skip text = c :: rest)
    (next : next? scan c rest = some (token, scan', rest')) :
    scanFrom (fuel + 1) scan text = (scanFrom fuel scan' rest').map (token :: ·) := by
  rw [scanFrom, skipped]
  simp only [next, Option.bind_eq_bind, Option.bind_some]
  cases scanFrom fuel scan' rest' <;> rfl

/-- The scanner is at the end, or reads one token and goes on. -/
theorem scanFrom_cases {fuel : Nat} {scan : Scan} {text : List Char} {tokens : List Token}
    (h : scanFrom (fuel + 1) scan text = some tokens) :
    scan.flags.skip text = [] ∧ tokens = [] ∨
      ∃ c rest token scan' left later, scan.flags.skip text = c :: rest ∧
        next? scan c rest = some (token, scan', left) ∧ scanFrom fuel scan' left = some later ∧
        tokens = token :: later := by
  rw [scanFrom] at h
  split at h
  · next skipped =>
    cases h
    exact Or.inl ⟨skipped, rfl⟩
  · next c rest skipped =>
    obtain ⟨⟨token, scan', left⟩, next, h⟩ := Option.bind_eq_some_iff.mp h
    obtain ⟨later, more, same⟩ := Option.bind_eq_some_iff.mp h
    cases same
    exact Or.inr ⟨c, rest, token, scan', left, later, skipped, next, more, rfl⟩

/-- A text is scanned as before with text behind, which is scanned where it ends; or else a comment
is open there. -/
theorem scanFrom_append_or {fuel : Nat} {scan : Scan} {text : List Char} {tokens : List Token}
    (h : scanFrom fuel scan text = some tokens) :
    (∃ scan', ∀ {tail}, Apart tail → ∀ more, scanFrom (tokens.length + more) scan (text ++ tail) =
      (scanFrom more scan' tail).map (tokens ++ ·)) ∨
    ∀ more, InComment (scanFrom more scan) text := by
  induction fuel generalizing scan text tokens with
  | zero => cases h
  | succ fuel ih =>
    rcases scanFrom_cases h with ⟨skipped, rfl⟩ |
      ⟨c, rest, token, scan', left, others, skipped, next, later, rfl⟩
    · rcases scan.flags.skip_append_or text with behind | ⟨-, open'⟩
      · refine Or.inl ⟨scan, fun {tail} apart more => ?_⟩
        have same : scan.flags.skip (text ++ tail) = scan.flags.skip tail := by
          rw [behind apart, skipped, List.nil_append, scan.flags.skip_apart apart]
        rw [List.length_nil, Nat.zero_add, scanFrom_congr more same]
        simp
      · refine Or.inr fun more {tail tail'} apart apart' taken => ?_
        exact scanFrom_congr more (open' apart apart' taken)
    · rcases next?_append_or next with behind | open'
      · have step {tail : List Char} (apart : Apart tail) (more : Nat) :
            scanFrom (more + 1) scan (text ++ tail) =
              (scanFrom more scan' (left ++ tail)).map (token :: ·) :=
          scanFrom_of_skip more (Flags.skip_append skipped apart) (behind apart)
        rcases ih later with ⟨last, rest'⟩ | open'
        · refine Or.inl ⟨last, fun {tail} apart more => ?_⟩
          rw [List.length_cons, Nat.add_right_comm, step apart, rest' apart, Option.map_map]
          rfl
        · refine Or.inr fun more {tail tail'} apart apart' taken => ?_
          cases more with
          | zero => rfl
          | succ more => rw [step apart, step apart', open' more apart apart' taken]
      · refine Or.inr fun more {tail tail'} apart apart' taken => ?_
        cases more with
        | zero => rfl
        | succ more =>
          rw [scanFrom, scanFrom, Flags.skip_append skipped apart,
            Flags.skip_append skipped apart']
          simp only [open' apart apart' taken]

theorem length_lt_of_scanFrom {fuel : Nat} {scan : Scan} {text : List Char} {tokens : List Token}
    (h : scanFrom fuel scan text = some tokens) : tokens.length < fuel := by
  induction fuel generalizing scan text tokens with
  | zero => cases h
  | succ fuel ih =>
    rcases scanFrom_cases h with ⟨-, rfl⟩ | ⟨_, _, _, _, _, _, _, _, later, rfl⟩
    · exact Nat.succ_pos fuel
    · exact Nat.succ_lt_succ (ih later)

/-- More fuel changes no result. -/
theorem scanFrom_add {fuel : Nat} {scan : Scan} {text : List Char} {tokens : List Token}
    (h : scanFrom fuel scan text = some tokens) (more : Nat) :
    scanFrom (fuel + more) scan text = some tokens := by
  induction fuel generalizing scan text tokens with
  | zero => cases h
  | succ fuel ih =>
    rw [Nat.add_right_comm]
    rcases scanFrom_cases h with ⟨skipped, rfl⟩ |
      ⟨c, rest, token, scan', left, others, skipped, next, later, rfl⟩
    · rw [scanFrom, skipped]
    · rw [scanFrom_of_skip (fuel + more) skipped next, ih later, Option.map_some]

/-! ## A dollar sign behind -/

/-- The tokens of the dollar sign: a condition on the place, or none in a comment. -/
def ofSign (sign : Option Look) : List Token := sign.toList.map fun l => .atom (.look l) 0

/-- What a dollar sign behind a pattern can stand for. -/
def IsSign (sign : Option Look) : Prop := sign = none ∨ ∃ flags, sign = some (dollar flags)

theorem exists_sign {text : List Char} {tokens : List Token} (h : scan? text = some tokens) :
    ∃ sign, IsSign sign ∧ scan? (text ++ ['$']) = some (tokens ++ ofSign sign) := by
  rw [scan?, List.length_append, List.length_singleton]
  rcases scanFrom_append_or h with ⟨scan', behind⟩ | open'
  · refine ⟨some (dollar scan'.flags), Or.inr ⟨_, rfl⟩, ?_⟩
    obtain ⟨more, fuel⟩ := Nat.exists_eq_add_of_lt (length_lt_of_scanFrom h)
    have alone : scanFrom (more + 1 + 1) scan' ['$'] =
        some [.atom (.look (dollar scan'.flags)) 0] := by
      rw [scanFrom_of_skip (more + 1) (scan'.flags.skip_apart (.dollar [])) rfl, scanFrom_nil]
      rfl
    rw [fuel, Nat.add_assoc, Nat.add_assoc, behind (.dollar []), ← Nat.add_assoc, alone]
    rfl
  · refine ⟨none, Or.inl rfl, ?_⟩
    have same := open' (text.length + 1 + 1) (.dollar []) .nothing rfl
    rw [List.append_nil] at same
    rw [same, scanFrom_add h 1, ofSign, Option.toList_none, List.map_nil, List.append_nil]

/-- What a dollar sign behind a pattern stands for; nothing if a comment takes it in. -/
def sign? (text : List Char) : Option Look :=
  match scan? text, scan? (text ++ ['$']) with
  | some tokens, some signed =>
    match signed.drop tokens.length with
    | [.atom (.look l) _] => some l
    | _ => none
  | _, _ => none

theorem scan?_append {text : List Char} {tokens : List Token} (h : scan? text = some tokens) :
    scan? (text ++ ['$']) = some (tokens ++ ofSign (sign? text)) ∧ IsSign (sign? text) := by
  obtain ⟨sign, isSign, signed⟩ := exists_sign h
  have same : sign? text = sign := by
    rw [sign?, h, signed]
    simp only [List.drop_left]
    cases sign <;> rfl
  rw [same]
  exact ⟨signed, isSign⟩

theorem isSign_sign? (text : List Char) : IsSign (sign? text) := by
  cases scanned : scan? text with
  | none => exact Or.inl (by simp [sign?, scanned])
  | some tokens => exact (scan?_append scanned).2

/-- The caret in front is one token. -/
theorem scan?_caret {text : List Char} {tokens : List Token} (h : scan? text = some tokens) :
    scan? ('^' :: text) = some (.atom (.look .textStart) 0 :: tokens) := by
  have skipped : ({} : Scan).flags.skip ('^' :: text) = '^' :: text := rfl
  have caret : next? {} '^' text = some (.atom (.look .textStart) 0, {}, text) := rfl
  rw [scan?] at h
  rw [scan?, List.length_cons, scanFrom_of_skip _ skipped caret, h]
  rfl

/-- The caret in front and the dollar sign behind are one token each. -/
theorem scan?_anchored {text : List Char} {tokens : List Token} (h : scan? text = some tokens) :
    scan? ('^' :: text ++ ['$']) =
      some (.atom (.look .textStart) 0 :: (tokens ++ ofSign (sign? text))) :=
  scan?_caret (scan?_append h).1

end Token

end PatternSearch.Pattern
