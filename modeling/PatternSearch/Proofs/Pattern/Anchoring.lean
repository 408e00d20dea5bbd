import PatternSearch.Proofs.Pattern.Assembly
import PatternSearch.Proofs.Pattern.Reach
import PatternSearch.Proofs.Pattern.Scanning.Token
import PatternSearch.Score

/-!
# Anchored patterns

The pattern for whole texts is the text of the fragments between a caret and a dollar sign. No group
is put around it, so the caret binds to the first alternative alone and the sign to the last one, and
what the sign stands for depends on the flags that are set there. A text that the body matches as a
whole is always matched; the converse holds for a body with a single alternative, if the sign means
the end of the text.
-/

namespace PatternSearch.Pattern

namespace Regex

variable {source : Array Char} {i j : Nat}

theorem textStart_holds_iff (le : i ≤ source.size) :
    Look.textStart.holds (before source i) source[i]? = true ↔ i = 0 := by
  cases i with
  | zero => simp [Look.holds, before]
  | succ i =>
    have inside : i < source.size := le
    simp [Look.holds, before, inside]

theorem textEnd_holds_iff (le : j ≤ source.size) :
    Look.textEnd.holds (before source j) source[j]? = true ↔ j = source.size := by
  simp [Look.holds]
  omega

/-- Whatever the sign stands for, the end of the text will do. -/
theorem sign_holds {l : Look} (h : Token.IsSign (some l)) :
    l.holds (before source source.size) source[source.size]? = true := by
  obtain none | ⟨flags, same⟩ := h
  · cases none
  · cases same
    rw [Token.dollar]
    split
    · split <;> simp [Look.holds]
    · simp [Look.holds]

theorem matches_of_prepends {a b : Regex} (h : Prepends (look .textStart) a b)
    (le : i ≤ source.size) : b.Matches source i j ↔ a.Matches source i j ∧ i = 0 := by
  rw [h source i j]
  constructor
  · rintro ⟨k, ⟨holds, rfl⟩, found⟩
    exact ⟨found, (textStart_holds_iff le).mp holds⟩
  · rintro ⟨found, start⟩
    exact ⟨i, ⟨(textStart_holds_iff le).mpr start, rfl⟩, found⟩

theorem matches_of_appends {l : Look} {a b : Regex} (h : Appends (look l) a b) :
    b.Matches source i j ↔
      a.Matches source i j ∧ l.holds (before source j) source[j]? = true := by
  rw [h source i j]
  constructor
  · rintro ⟨k, found, holds, rfl⟩
    exact ⟨found, holds⟩
  · rintro ⟨found, holds⟩
    exact ⟨j, found, holds, rfl⟩

/-- A match of an alternative, at the start of the text if it is the first one, and where the sign
allows if it is the last one. -/
def AnchoredMatch (alternatives : List Regex) (sign : Option Look) (source : Array Char)
    (i j : Nat) : Prop :=
  ∃ n a, alternatives[n]? = some a ∧ a.Matches source i j ∧ (n = 0 → i = 0) ∧
    (n + 1 = alternatives.length → ∀ l, sign = some l →
      l.holds (before source j) source[j]? = true)

theorem exists_getElem?_of_prepends {a b : Regex} (h : Prepends (look .textStart) a b)
    (rest : List Regex) (le : i ≤ source.size) (n : Nat) :
    (∃ c, (b :: rest)[n]? = some c ∧ c.Matches source i j) ↔
      ∃ c, (a :: rest)[n]? = some c ∧ c.Matches source i j ∧ (n = 0 → i = 0) := by
  cases n with
  | zero => simp [matches_of_prepends h le]
  | succ n => simp

theorem exists_getElem?_of_appends {l : Look} {a b : Regex} (h : Appends (look l) a b)
    (front : List Regex) (n : Nat) :
    (∃ c, (front ++ [b])[n]? = some c ∧ c.Matches source i j) ↔
      ∃ c, (front ++ [a])[n]? = some c ∧ c.Matches source i j ∧
        (n + 1 = (front ++ [a]).length → l.holds (before source j) source[j]? = true) := by
  rcases Nat.lt_trichotomy n front.length with less | rfl | greater
  · have notLast : n ≠ front.length := by omega
    simp [List.getElem?_append_left less, notLast]
  · simp [matches_of_appends h]
  · have beyond (c : Regex) : (front ++ [c])[n]? = none :=
      List.getElem?_eq_none (by rwa [List.length_append, List.length_singleton])
    simp only [beyond, reduceCtorEq, false_and, exists_false]

theorem exists_mem_iff_getElem? {rs : List Regex} : (∃ r ∈ rs, r.Matches source i j) ↔
    ∃ (n : Nat) (r : Regex), rs[n]? = some r ∧ r.Matches source i j := by
  constructor
  · rintro ⟨r, mem, found⟩
    obtain ⟨n, at'⟩ := List.mem_iff_getElem?.mp mem
    exact ⟨n, r, at', found⟩
  · rintro ⟨n, r, at', found⟩
    exact ⟨r, List.mem_of_getElem? at', found⟩

/-- The alternatives of a pattern with the caret in front and the sign behind. -/
theorem exists_anchored_iff {level begun : Level} {sign : Option Look}
    (begins : level.Begins ⟨look .textStart, 0, true⟩ begun) {level' : Level}
    (fed : (Token.ofSign sign).foldlM feed [begun] = some [level']) (le : i ≤ source.size) :
    (∃ a ∈ level'.alternatives, a.Matches source i j) ↔
      AnchoredMatch level.alternatives sign source i j := by
  obtain ⟨a, b, rest, before, after, prepends⟩ := begins.alternatives
  have first := exists_getElem?_of_prepends (j := j) prepends rest le
  rw [← before, ← after] at first
  have length : begun.alternatives.length = level.alternatives.length := by rw [before, after]; rfl
  rw [exists_mem_iff_getElem?, AnchoredMatch]
  refine exists_congr fun n => ?_
  cases sign with
  | none =>
    cases fed
    rw [first n]
    simp
  | some l =>
    cases fed
    obtain ⟨c, d, front, before', after', appends⟩ :=
      begun.alternatives_push ⟨look l, 0, true⟩
    have last := @exists_getElem?_of_appends source i j l c d appends front n
    rw [← before', ← after', length] at last
    rw [last]
    constructor
    · rintro ⟨c, at', found, ends⟩
      obtain ⟨d, at'', found', starts⟩ := (first n).mp ⟨c, at', found⟩
      refine ⟨d, at'', found', starts, ?_⟩
      intro isLast l' same
      cases same
      exact ends isLast
    · rintro ⟨d, at', found, starts, ends⟩
      obtain ⟨c, at'', found'⟩ := (first n).mpr ⟨d, at', found, starts⟩
      exact ⟨c, at'', found', fun isLast => ends isLast l rfl⟩

/-- The caret and the sign, put around a body. -/
theorem matches_anchored {body : List Char} {part whole : Regex} (parsed : parse? body = some part)
    (anchored : parse? ('^' :: body ++ ['$']) = some whole) : ∃ alternatives,
      alternatives? body = some alternatives ∧
      (∀ {source : Array Char} {i j : Nat},
        part.Matches source i j ↔ ∃ a ∈ alternatives, a.Matches source i j) ∧
      ∀ {source : Array Char} {i j : Nat}, i ≤ source.size →
        (whole.Matches source i j ↔ AnchoredMatch alternatives (Token.sign? body) source i j) := by
  obtain ⟨tokens, level, scanned, fed, rfl⟩ := exists_of_parse? parsed
  obtain ⟨tokens', level', scanned', fed', rfl⟩ := exists_of_parse? anchored
  rw [Token.scan?_anchored scanned] at scanned'
  cases scanned'
  obtain ⟨begun, fedBegun, begins⟩ := @begins_of_foldlM tokens level (look .textStart) 0 fed
  rw [← List.cons_append, List.foldlM_append, fedBegun] at fed'
  refine ⟨level.alternatives, ?_, Level.matches_finish, ?_⟩
  · simp [alternatives?, scanned, fed, settle]
  · intro source i j le
    rw [Level.matches_finish]
    exact exists_anchored_iff begins fed' le

/-- Where an alternative matches the whole text, its anchors hold. -/
theorem anchoredMatch_of_whole {body : List Char} {alternatives : List Regex}
    (h : ∃ a ∈ alternatives, a.Matches source 0 source.size) :
    AnchoredMatch alternatives (Token.sign? body) source 0 source.size := by
  obtain ⟨n, a, at', spans⟩ := exists_mem_iff_getElem?.mp h
  refine ⟨n, a, at', spans, fun _ => rfl, ?_⟩
  intro _ l same
  have isSign := Token.isSign_sign? body
  rw [same] at isSign
  exact sign_holds isSign

/-- A single alternative is anchored at both ends. -/
theorem whole_of_anchoredMatch {alternatives : List Regex}
    (le : i ≤ source.size) (single : alternatives.length = 1)
    (h : AnchoredMatch alternatives (some .textEnd) source i j) :
    ∃ a ∈ alternatives, a.Matches source 0 source.size := by
  obtain ⟨n, a, at', spans, starts, ends⟩ := h
  obtain ⟨inside, -⟩ := List.getElem?_eq_some_iff.mp at'
  obtain rfl : n = 0 := by omega
  obtain rfl := starts rfl
  have last := (textEnd_holds_iff (spans.le_size le)).mp (ends single.symm _ rfl)
  rw [last] at spans
  exact ⟨a, List.mem_of_getElem? at', spans⟩

end Regex

end PatternSearch.Pattern

namespace PatternSearch

/-- A result that is there, by what is known of it. -/
theorem exists_of_toOption_map {ε α β : Type} {result : Except ε α} {f : α → β} {b : β}
    (h : result.toOption.map f = some b) : ∃ a, result = .ok a ∧ f a = b := by
  cases result with
  | error e => cases h
  | ok a => exact ⟨a, rfl, Option.some.inj h⟩

namespace Matcher

open Pattern Pattern.Regex

theorem of_pattern_compile {source : String} {p : Pattern} (h : Pattern.compile source = .ok p) :
    parse? source.toList = some p.regex := by
  rw [Pattern.compile] at h
  split at h
  · cases h
  · next regex parsed =>
    split at h
    · cases h
      exact parsed
    · cases h

theorem of_compile {fragments : List Fragment} {m : Matcher} (h : compile fragments = .ok m) :
    parse? (Fragment.join fragments).toList = some m.part.regex ∧
      parse? ('^' :: (Fragment.join fragments).toList ++ ['$']) = some m.whole.regex := by
  obtain ⟨part, whole⟩ := compiled_of_compile h
  have parsed := of_pattern_compile whole
  rw [anchored, String.toList_ofList] at parsed
  exact ⟨of_pattern_compile part, parsed⟩

/-- A match of the pattern for whole texts is one of an anchored alternative. It is there whenever
the body matches the whole text. The converse holds for a text exactly if no anchored alternative
strays from the whole text, and for every text if there is a single alternative and the sign holds it
to the end. -/
theorem whole_isMatch_iff {fragments : List Fragment} {m : Matcher}
    (compiled : compile fragments = .ok m) :
    ∃ alternatives, alternatives? (Fragment.join fragments).toList = some alternatives ∧
      ∀ text : String,
        (m.part.regex.isWhole text.toList = true ↔
          ∃ a ∈ alternatives, a.Matches text.toList.toArray 0 text.toList.length) ∧
        (m.whole.isMatch text = true ↔ ∃ i j, i ≤ text.toList.length ∧
          AnchoredMatch alternatives (Token.sign? (Fragment.join fragments).toList)
            text.toList.toArray i j) ∧
        (m.part.regex.isWhole text.toList = true → m.whole.isMatch text = true) ∧
        (m.whole.isMatch text = m.part.regex.isWhole text.toList ↔
          ∀ i j, i ≤ text.toList.length →
            AnchoredMatch alternatives (Token.sign? (Fragment.join fragments).toList)
              text.toList.toArray i j →
            ∃ a ∈ alternatives, a.Matches text.toList.toArray 0 text.toList.length) ∧
        (alternatives.length = 1 →
          Token.sign? (Fragment.join fragments).toList = some .textEnd →
          m.whole.isMatch text = m.part.regex.isWhole text.toList) := by
  obtain ⟨parsed, parsed'⟩ := of_compile compiled
  obtain ⟨alternatives, known, part, whole⟩ := matches_anchored parsed parsed'
  refine ⟨alternatives, known, fun text => ?_⟩
  have isWhole : m.part.regex.isWhole text.toList = true ↔
      ∃ a ∈ alternatives, a.Matches text.toList.toArray 0 text.toList.length := by
    rw [isWhole_iff, part]
  have isMatch : m.whole.isMatch text = true ↔ ∃ i j, i ≤ text.toList.length ∧
      AnchoredMatch alternatives (Token.sign? (Fragment.join fragments).toList)
        text.toList.toArray i j := by
    rw [Pattern.isMatch, isMatch_iff]
    exact exists_congr fun i => exists_congr fun j => and_congr_right fun le => whole le
  have complete : m.part.regex.isWhole text.toList = true → m.whole.isMatch text = true := by
    intro found
    exact isMatch.mpr ⟨0, _, Nat.zero_le _, anchoredMatch_of_whole (isWhole.mp found)⟩
  refine ⟨isWhole, isMatch, complete, ?_, ?_⟩
  · rw [Bool.eq_iff_iff, isMatch, isWhole]
    constructor
    · intro same i j le found
      exact same.mp ⟨i, j, le, found⟩
    · intro faithful
      constructor
      · rintro ⟨i, j, le, found⟩
        exact faithful i j le found
      · intro spans
        exact isMatch.mp (complete (isWhole.mpr spans))
  · intro single sign
    rw [Bool.eq_iff_iff]
    constructor
    · intro found
      obtain ⟨i, j, le, matched⟩ := isMatch.mp found
      rw [sign] at matched
      exact isWhole.mpr (whole_of_anchoredMatch le single matched)
    · exact complete

/-- Alternatives in a group are anchored together. -/
theorem whole_isMatch_of_group :
    ∃ m, compile [⟨"[0-9]"⟩, ⟨"(?:a|b)"⟩] = .ok m ∧
      ∀ text : String, m.whole.isMatch text = m.part.regex.isWhole text.toList := by
  have one : (alternatives? "[0-9](?:a|b)".toList).map List.length = some 1 := by decide +kernel
  have sign : Token.sign? "[0-9](?:a|b)".toList = some .textEnd := by decide +kernel
  have body : (Fragment.join [⟨"[0-9]"⟩, ⟨"(?:a|b)"⟩]).toList = "[0-9](?:a|b)".toList := by decide
  have accepted : (compile [⟨"[0-9]"⟩, ⟨"(?:a|b)"⟩]).toOption.isSome = true := by decide +kernel
  cases compiled : compile [⟨"[0-9]"⟩, ⟨"(?:a|b)"⟩] with
  | error rejection =>
    rw [compiled] at accepted
    cases accepted
  | ok m =>
    obtain ⟨alternatives, known, all⟩ := whole_isMatch_iff compiled
    rw [body] at known
    rw [known] at one
    refine ⟨m, rfl, fun text => ?_⟩
    obtain ⟨-, -, -, -, faithful⟩ := all text
    exact faithful (Option.some.inj one) (by rw [body, sign])

/-- Alternatives without a group are not: the first one matches at the start, whatever follows. -/
theorem whole_isMatch_strays :
    ∃ m, compile [⟨"a|b"⟩] = .ok m ∧ m.whole.isMatch "ax" = true ∧
      m.part.regex.isWhole "ax".toList = false := by
  have verdicts : (compile [⟨"a|b"⟩]).toOption.map (fun m =>
      (m.whole.isMatch "ax", m.part.regex.isWhole "ax".toList)) = some (true, false) := by
    decide +kernel
  cases compiled : compile [⟨"a|b"⟩] with
  | error rejection =>
    rw [compiled] at verdicts
    cases verdicts
  | ok m =>
    rw [compiled] at verdicts
    obtain ⟨matched, notWhole⟩ := Prod.mk.inj (Option.some.inj verdicts)
    exact ⟨m, rfl, matched, notWhole⟩

end Matcher

end PatternSearch
