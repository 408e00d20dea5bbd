import PatternSearch.Proofs.Fragment.Repetition
import PatternSearch.Proofs.Pattern.Anchoring
import PatternSearch.Proofs.Pattern.Narrowing

/-!
# Pinned repetitions

A fragment is pinned where its first plus sign stands, whatever the sign means there. If the text
before the sign can be scanned on its own, then the sign is a repetition, or stands in a comment, and
the pinned fragment matches no more than the fragment did. Elsewhere the sign is a character of its
own: behind a backslash or inside brackets, where a count in its place is text.
-/

namespace PatternSearch.Pattern.Token

open Text Fragment

/-! ## Scans without fuel -/

/-- The scanner reads these tokens, given the fuel that it needs. -/
def Scans (scan : Scan) (text : List Char) (tokens : List Token) : Prop :=
  ∃ fuel, scanFrom fuel scan text = some tokens

namespace Scans

variable {scan : Scan} {text text' : List Char} {tokens tokens' : List Token}

theorem of_scan? (h : scan? text = some tokens) : Scans {} text tokens := ⟨_, h⟩

theorem unique (h : Scans scan text tokens) (h' : Scans scan text tokens') : tokens = tokens' := by
  obtain ⟨fuel, found⟩ := h
  obtain ⟨fuel', found'⟩ := h'
  have more := scanFrom_add found fuel'
  rw [Nat.add_comm, scanFrom_add found' fuel] at more
  exact (Option.some.inj more).symm

theorem congr (h : Scans scan text tokens) (same : scan.flags.skip text = scan.flags.skip text') :
    Scans scan text' tokens := by
  obtain ⟨fuel, found⟩ := h
  exact ⟨fuel, scanFrom_congr fuel same ▸ found⟩

/-- What is left after the first token. -/
theorem uncons (h : Scans scan text tokens) {c : Char} {rest : List Char}
    (skipped : scan.flags.skip text = c :: rest) : ∃ token scan' left later,
      next? scan c rest = some (token, scan', left) ∧ Scans scan' left later ∧
        tokens = token :: later := by
  obtain ⟨fuel, found⟩ := h
  cases fuel with
  | zero => cases found
  | succ fuel =>
    rcases scanFrom_cases found with ⟨atEnd, -⟩ |
      ⟨_, _, token, scan', left, later, skipped', next, more, rfl⟩
    · rw [skipped] at atEnd
      cases atEnd
    · rw [skipped] at skipped'
      cases skipped'
      exact ⟨token, scan', left, later, next, ⟨fuel, more⟩, rfl⟩

/-- What is written behind a text is read from one state of the scanner, or goes on in a comment. -/
theorem append_or (h : Scans scan text tokens) :
    (∃ scan', ∀ {tail all}, Apart tail → Scans scan (text ++ tail) all →
      ∃ rest, Scans scan' tail rest ∧ all = tokens ++ rest) ∨
    ∀ {tail tail' all}, Apart tail → Apart tail' →
      Flags.dropSpace true tail = Flags.dropSpace true tail' →
      Scans scan (text ++ tail) all → Scans scan (text ++ tail') all := by
  obtain ⟨fuel, found⟩ := h
  rcases scanFrom_append_or found with ⟨scan', behind⟩ | open'
  · refine Or.inl ⟨scan', ?_⟩
    intro tail all apart ⟨enough, whole⟩
    have more := scanFrom_add whole tokens.length
    rw [Nat.add_comm, behind apart] at more
    obtain ⟨rest, left, rfl⟩ := Option.map_eq_some_iff.mp more
    exact ⟨rest, ⟨enough, left⟩, rfl⟩
  · refine Or.inr ?_
    intro tail tail' all apart apart' taken ⟨enough, whole⟩
    exact ⟨enough, open' enough apart apart' taken ▸ whole⟩

end Scans

/-! ## Counts that are written -/

variable {flags : Flags} {n : Nat}

theorem exactly_append (n : Nat) (after : List Char) :
    exactly n ++ after = '{' :: (Nat.toDigits 10 n ++ '}' :: after) := by
  simp [exactly]

theorem apart_exactly (n : Nat) (after : List Char) : Apart (exactly n ++ after) := by
  obtain ⟨d, digits, same, decimal⟩ := exists_toDigits_eq_cons n
  rw [exactly_append, same]
  exact .count _ decimal

/-- In a comment, a count is skipped like a plus sign. -/
theorem dropSpace_exactly (n : Nat) (after : List Char) :
    Flags.dropSpace true (exactly n ++ after) = Flags.dropSpace true ('+' :: after) := by
  have skipped (digits : List Char) (decimal : ∀ d ∈ digits, isDecimal d = true) :
      Flags.dropSpace true (digits ++ '}' :: after) = Flags.dropSpace true after := by
    induction digits with
    | nil => rfl
    | cons d digits ih =>
      obtain ⟨first, others⟩ := List.forall_mem_cons.mp decimal
      have inLine : d ≠ '\n' := ne_of_isDecimal first (by decide)
      rw [List.cons_append, Flags.dropSpace, bne_iff_ne.mpr inLine, ih others]
  rw [exactly_append]
  exact skipped _ isDecimal_of_mem_toDigits

/-- The digits are read up to the brace. -/
theorem digitRun_digits {digits rest : List Char} (decimal : ∀ d ∈ digits, isDecimal d = true)
    {fuel : Nat} (enough : digits.length ≤ fuel) :
    digitRun flags fuel (digits ++ '}' :: rest) = (digits, '}' :: rest) := by
  induction digits generalizing fuel with
  | nil =>
    cases fuel with
    | zero => rfl
    | succ fuel => rfl
  | cons d digits ih =>
    cases fuel with
    | zero => cases enough
    | succ fuel =>
      obtain ⟨first, others⟩ := List.forall_mem_cons.mp decimal
      have skipped : flags.skip (digits ++ '}' :: rest) = digits ++ '}' :: rest := by
        cases digits with
        | nil => exact flags.skip_cons (by decide) (by decide) rest
        | cons e digits => exact flags.skip_of_isDecimal (others e List.mem_cons_self) _
      rw [List.cons_append, digitRun, if_pos first, skipped, ih others (by simpa using enough)]

theorem count?_toDigits {after found : List Char} {m : Nat}
    (h : count? flags (Nat.toDigits 10 n ++ '}' :: after) = some (m, found)) :
    m = n ∧ found = '}' :: after := by
  have stays : (Nat.toDigits 10 n ++ '}' :: after).dropWhile isBlank =
      Nat.toDigits 10 n ++ '}' :: after := by
    obtain ⟨d, digits, same, decimal⟩ := exists_toDigits_eq_cons n
    rw [same]
    exact dropWhile_isBlank_of_head? rfl (isBlank_of_isDecimal decimal)
  have run := @digitRun_digits flags (Nat.toDigits 10 n) after isDecimal_of_mem_toDigits
    (Nat.toDigits 10 n ++ '}' :: after).length (by simp)
  simp only [count?, stays, run, decimalNumber_toDigits] at h
  split at h
  · cases h
  · cases h
    exact ⟨rfl, rfl⟩

/-- A count alone in braces asks for exactly so many rounds. -/
theorem counted?_toDigits {after : List Char} {found : Token × List Char}
    (h : counted? flags (Nat.toDigits 10 n ++ '}' :: after) = some found) :
    found = quantified flags n (some 0) (flags.skip after) := by
  have skipped : flags.skip (Nat.toDigits 10 n ++ '}' :: after) =
      Nat.toDigits 10 n ++ '}' :: after := by
    obtain ⟨d, digits, same, decimal⟩ := exists_toDigits_eq_cons n
    rw [same]
    exact flags.skip_of_isDecimal decimal _
  obtain ⟨⟨⟨least, extra⟩, rest⟩, read, same⟩ := Option.map_eq_some_iff.mp h
  obtain ⟨⟨m, left⟩, count, read⟩ := Option.bind_eq_some_iff.mp read
  rw [skipped] at count
  obtain ⟨rfl, rfl⟩ := count?_toDigits count
  cases read
  exact same.symm

/-! ## Question marks behind -/

theorem skip_mark (flags : Flags) (text : List Char) : flags.skip ('?' :: text) = '?' :: text :=
  flags.skip_cons (by decide) (by decide) text

theorem quantified_cases (flags : Flags) (least : Nat) (extra : Option Nat) (text : List Char) :
    (∃ rest, text = '?' :: rest ∧
      quantified flags least extra text = (.quantifier least extra flags.swapGreed, rest)) ∨
    (∀ rest, text ≠ '?' :: rest) ∧
      quantified flags least extra text = (.quantifier least extra (!flags.swapGreed), text) := by
  rw [quantified.eq_def]
  split
  · next rest => exact Or.inl ⟨rest, rfl, rfl⟩
  · next notMark => exact Or.inr ⟨fun rest same => notMark rest same, rfl⟩

theorem exists_quantified (flags : Flags) (least : Nat) (extra : Option Nat) (text : List Char) :
    ∃ greedy, (quantified flags least extra text).1 = .quantifier least extra greedy := by
  rcases quantified_cases flags least extra text with ⟨_, _, read⟩ | ⟨_, read⟩
  · exact ⟨_, by rw [read]⟩
  · exact ⟨_, by rw [read]⟩

theorem Scans.mark {scan : Scan} {text : List Char} {tokens : List Token}
    (h : Scans scan ('?' :: text) tokens) : ∃ later,
      Scans scan (quantified scan.flags 0 (some 1) text).2 later ∧
        tokens = (quantified scan.flags 0 (some 1) text).1 :: later := by
  obtain ⟨token, scan', left, later, next, more, rfl⟩ := h.uncons (skip_mark scan.flags text)
  cases next
  exact ⟨later, more, rfl⟩

/-- One question mark more makes one repetition more optional, or turns preferences around. Two
marks in a row are one token, so the induction takes two of them at a time. -/
theorem narrows_of_mark {scan : Scan} {text : List Char} {less more : List Token}
    (h : Scans scan ('?' :: text) more) (h' : Scans scan text less) : Token.Narrows less more := by
  obtain ⟨later, rest, rfl⟩ := h.mark
  rcases quantified_cases scan.flags 0 (some 1) text with ⟨text, rfl, read⟩ | ⟨-, read⟩
  · obtain ⟨later', rest', rfl⟩ := h'.mark
    rw [read] at rest ⊢
    rcases quantified_cases scan.flags 0 (some 1) text with ⟨text, rfl, read'⟩ | ⟨-, read'⟩
    · rw [read'] at rest' ⊢
      exact .quantifier _ _ (.refl 0 (some 1)) (narrows_of_mark rest rest')
    · rw [read'] at rest' ⊢
      rw [rest'.unique rest]
      exact .quantifier _ _ (.refl 0 (some 1)) (.refl later)
  · rw [read] at rest ⊢
    rw [h'.unique rest]
    exact .optional _ (.refl later)
termination_by text.length

/-! ## A count in place of a plus sign -/

theorem fewer_of_pos (pos : 1 ≤ n) : Regex.Fewer n (some 0) 1 none :=
  ⟨pos, fun m same => by cases same⟩

/-- A question mark may be parted from the plus sign by blanks, which are skipped after a brace but
not after a sign: then it is one of a kind for the count, and a repetition of its own for the sign. -/
theorem narrows_of_quantified {scan : Scan} {after : List Char} {less more : List Token}
    (h : Scans scan (quantified scan.flags 1 none after).2 more)
    (h' : Scans scan (quantified scan.flags n (some 0) (scan.flags.skip after)).2 less) :
    Token.Narrows less more := by
  rcases quantified_cases scan.flags n (some 0) (scan.flags.skip after) with
    ⟨text, marked, read'⟩ | ⟨unmarked, read'⟩
  · rw [read'] at h'
    rcases quantified_cases scan.flags 1 none after with ⟨text', rfl, read⟩ | ⟨-, read⟩
    · rw [skip_mark] at marked
      cases marked
      rw [read] at h
      rw [h'.unique h]
      exact .refl more
    · rw [read] at h
      exact narrows_of_mark (h.congr (marked.trans (skip_mark _ text).symm)) h'
  · rw [read'] at h'
    rcases quantified_cases scan.flags 1 none after with ⟨text', rfl, -⟩ | ⟨-, read⟩
    · exact absurd (skip_mark _ text') (unmarked text')
    · rw [read] at h
      rw [h'.unique (h.congr (scan.flags.skip_skip after).symm)]
      exact .refl more

theorem narrows_of_exactly {scan : Scan} {after : List Char} {less more : List Token} (pos : 1 ≤ n)
    (h : Scans scan ('+' :: after) more) (h' : Scans scan (exactly n ++ after) less) :
    Token.Narrows less more := by
  rw [exactly_append] at h'
  obtain ⟨token, _, _, later, next, rest, rfl⟩ := h.uncons (scan.flags.skip_apart (.plus after))
  obtain ⟨token', _, _, later', next', rest', rfl⟩ :=
    h'.uncons (scan.flags.skip_cons (by decide) (by decide) _)
  cases next
  obtain ⟨found, counted, same⟩ := Option.map_eq_some_iff.mp next'
  cases same
  rw [counted?_toDigits counted] at rest' ⊢
  have rests := narrows_of_quantified rest rest'
  obtain ⟨greedy, read⟩ := exists_quantified scan.flags 1 none after
  obtain ⟨greedy', read'⟩ := exists_quantified scan.flags n (some 0) (scan.flags.skip after)
  rw [read, read']
  exact .quantifier greedy' greedy (fewer_of_pos pos) rests

/-- Behind text that is scanned on its own, a plus sign asks for rounds; in an open comment neither
the sign nor the count means anything. -/
theorem narrows_of_scan? {before after : List Char} {less more : List Token} (pos : 1 ≤ n)
    (scanned : (scan? before).isSome = true) (h : scan? (before ++ '+' :: after) = some more)
    (h' : scan? (before ++ (exactly n ++ after)) = some less) : Token.Narrows less more := by
  obtain ⟨tokens, scanned⟩ := Option.isSome_iff_exists.mp scanned
  have plus : Apart ('+' :: after) := .plus after
  have count : Apart (exactly n ++ after) := apart_exactly n after
  rcases (Scans.of_scan? scanned).append_or with ⟨scan', behind⟩ | open'
  · obtain ⟨rest, read, rfl⟩ := behind plus (.of_scan? h)
    obtain ⟨rest', read', rfl⟩ := behind count (.of_scan? h')
    exact (narrows_of_exactly pos read read').append tokens
  · have same := open' plus count (dropSpace_exactly n after).symm (.of_scan? h)
    rw [same.unique (.of_scan? h')]
    exact .refl less

end PatternSearch.Pattern.Token

namespace PatternSearch.Pattern.Regex

/-- A count in place of a plus sign narrows the expression that the text denotes. -/
theorem narrows_of_exactly {before after : List Char} {n : Nat} {r r' : Regex} (pos : 1 ≤ n)
    (scanned : (Token.scan? before).isSome = true)
    (parsed : parse? (before ++ '+' :: after) = some r)
    (parsed' : parse? (before ++ (Fragment.exactly n ++ after)) = some r') : r'.Narrows r :=
  narrows_of_parse? parsed' parsed fun less more => Token.narrows_of_scan? pos scanned more less

end PatternSearch.Pattern.Regex

/-! ## Sequences of fragments -/

namespace PatternSearch.Matcher

open Pattern Pattern.Regex Fragment

theorem toList_join_append_cons (earlier : List Fragment) (fragment : Fragment)
    (later : List Fragment) : (join (earlier ++ fragment :: later)).toList =
      (join earlier).toList ++ (fragment.source.toList ++ (join later).toList) := by
  simp [join]

/-- In a sequence of fragments, pinning one of them narrows the sequence, if the text before the plus
sign is scanned on its own: what it finds and what it matches between its anchors. -/
theorem isMatch_of_pinned {earlier later : List Fragment} {fragment pinned : Fragment}
    {before after : List Char} {n : Nat} {m m' : Matcher}
    (parts : fragment.parts? = some (before, after)) (pin : fragment.pin? n = some pinned)
    (pos : 1 ≤ n) (scanned : (Token.scan? ((join earlier).toList ++ before)).isSome = true)
    (compiled : compile (earlier ++ fragment :: later) = .ok m)
    (compiled' : compile (earlier ++ pinned :: later) = .ok m') (text : String) :
    (m'.part.isMatch text = true → m.part.isMatch text = true) ∧
      (m'.whole.isMatch text = true → m.whole.isMatch text = true) := by
  obtain ⟨part, whole⟩ := of_compile compiled
  obtain ⟨part', whole'⟩ := of_compile compiled'
  have body : (join (earlier ++ fragment :: later)).toList =
      ((join earlier).toList ++ before) ++ '+' :: (after ++ (join later).toList) := by
    rw [toList_join_append_cons, toList_of_parts? parts]
    simp
  have body' : (join (earlier ++ pinned :: later)).toList =
      ((join earlier).toList ++ before) ++ (exactly n ++ (after ++ (join later).toList)) := by
    rw [toList_join_append_cons, toList_of_pin? parts pin]
    simp
  rw [body] at part whole
  rw [body'] at part' whole'
  constructor
  · exact (narrows_of_exactly pos scanned part part').isMatch
  · obtain ⟨tokens, known⟩ := Option.isSome_iff_exists.mp scanned
    have begun : (Token.scan? ('^' :: ((join earlier).toList ++ before))).isSome = true := by
      rw [Token.scan?_caret known, Option.isSome_some]
    rw [← List.cons_append, List.append_assoc] at whole whole'
    rw [List.append_assoc (exactly n)] at whole'
    exact (narrows_of_exactly pos begun whole whole').isMatch

end PatternSearch.Matcher

/-! ## Single fragments -/

namespace PatternSearch.Fragment

open Pattern Pattern.Regex

/-- If the text before the plus sign is scanned on its own, pinning the fragment to a count only
narrows it: what the pinned fragment matches as a whole, the fragment matches as a whole. The same
holds for the patterns that put anchors around them. -/
theorem matches_of_pinned {fragment pinned : Fragment} {before after : List Char} {n : Nat}
    {p p' : Pattern} (parts : fragment.parts? = some (before, after))
    (pin : fragment.pin? n = some pinned) (pos : 1 ≤ n)
    (scanned : (Token.scan? before).isSome = true)
    (compiled : Pattern.compile fragment.source = .ok p)
    (compiled' : Pattern.compile pinned.source = .ok p') (text : String) :
    (p'.regex.isWhole text.toList = true → p.regex.isWhole text.toList = true) ∧
      ∀ m m', Matcher.compile [fragment] = .ok m → Matcher.compile [pinned] = .ok m' →
        m'.whole.isMatch text = true → m.whole.isMatch text = true := by
  constructor
  · have parsed := Matcher.of_pattern_compile compiled
    have parsed' := Matcher.of_pattern_compile compiled'
    rw [toList_of_parts? parts] at parsed
    rw [toList_of_pin? parts pin] at parsed'
    exact (narrows_of_exactly pos scanned parsed parsed').isWhole
  · intro m m' accepted accepted'
    have alone : (Token.scan? ((join []).toList ++ before)).isSome = true := by
      simpa [join] using scanned
    exact (@Matcher.isMatch_of_pinned [] [] fragment pinned before after n m m' parts pin pos alone
      accepted accepted' text).2

/-- Digits in brackets are repeated. -/
theorem matches_of_pinned_digits : ∃ p p',
    Pattern.compile "[0-9]+" = .ok p ∧ Pattern.compile "[0-9]\x7b3\x7d" = .ok p' ∧
      p'.regex.isWhole "042".toList = true ∧
      ∀ text : String, p'.regex.isWhole text.toList = true → p.regex.isWhole text.toList = true := by
  obtain ⟨p, compiled, -⟩ := @exists_of_toOption_map _ _ _ (Pattern.compile "[0-9]+")
    (fun p => p.regex.isWhole "042".toList) true (by decide +kernel)
  obtain ⟨p', compiled', matched⟩ := @exists_of_toOption_map _ _ _
    (Pattern.compile "[0-9]\x7b3\x7d")
    (fun p => p.regex.isWhole "042".toList) true (by decide +kernel)
  have parts : (Fragment.mk "[0-9]+").parts? = some ("[0-9]".toList, []) := by decide
  have pin : (Fragment.mk "[0-9]+").pin? 3 = some ⟨"[0-9]\x7b3\x7d"⟩ := by decide
  have scanned : (Token.scan? "[0-9]".toList).isSome = true := by decide +kernel
  refine ⟨p, p', compiled, compiled', matched, fun text => ?_⟩
  exact (matches_of_pinned parts pin (by decide) scanned compiled compiled' text).1

/-- A plus sign behind a backslash is a character, and the count in its place is text. -/
theorem pinned_backslash_strays : ∃ p p',
    (Fragment.mk "\\+").marker? = some 1 ∧
    (Fragment.mk "\\+").pin? 1 = some ⟨"\\\x7b1\x7d"⟩ ∧
    Pattern.compile "\\+" = .ok p ∧ Pattern.compile "\\\x7b1\x7d" = .ok p' ∧
    p'.regex.isWhole "\x7b1\x7d".toList = true ∧ p.regex.isWhole "\x7b1\x7d".toList = false := by
  obtain ⟨p, compiled, misses⟩ := @exists_of_toOption_map _ _ _ (Pattern.compile "\\+")
    (fun p => p.regex.isWhole "\x7b1\x7d".toList) false (by decide +kernel)
  obtain ⟨p', compiled', matched⟩ := @exists_of_toOption_map _ _ _ (Pattern.compile "\\\x7b1\x7d")
    (fun p => p.regex.isWhole "\x7b1\x7d".toList) true (by decide +kernel)
  exact ⟨p, p', by decide, by decide, compiled, compiled', matched, misses⟩

end PatternSearch.Fragment
