import PatternSearch.Proofs.Document.Reread
import PatternSearch.Proofs.Document.Settings

/-!
# Results are read from what is written for them

A report, a snapshot or an outcome is read back from its encoding with every member as it was, but for the
raw score and the seconds: each of these floating-point numbers is read as the number that its digits make.
-/

namespace PatternSearch

open Document Binary64

attribute [local irreducible] one overflow

/-- A finite number of 64 bits. -/
structure Binary64.Given (x : Binary64) : Prop where
  finite : x.isFinite = true
  canonical : Canonical x

/-- No number is greater than what its reader takes, and the raw score is finite. -/
structure Report.Fits (r : Report) : Prop where
  generation : r.generation ≤ maxUnsigned
  candidate : r.candidate ≤ maxUnsigned
  score : minInt64 ≤ r.score ∧ r.score ≤ maxInt64
  raw : r.raw.Given

structure Snapshot.Fits (s : Snapshot) : Prop where
  id : s.id ≤ maxUnsigned
  generation : s.generation ≤ maxUnsigned
  parent : ∀ parent ∈ s.parent, parent ≤ maxUnsigned
  score : minInt64 ≤ s.score ∧ s.score ≤ maxInt64
  raw : s.raw.Given

structure Tally.Fits (t : Tally) : Prop where
  generations : t.generations ≤ maxUnsigned
  evaluations : t.evaluations ≤ maxUnsigned
  failures : t.failures ≤ maxUnsigned
  seconds : t.seconds.Given

structure Outcome.Fits (o : Outcome) : Prop where
  best : o.best.Fits
  tally : o.tally.Fits

/-! ## With the numbers that are read -/

def Report.reread (r : Report) : Report := { r with raw := r.raw.reread }

def Snapshot.reread (s : Snapshot) : Snapshot := { s with raw := s.raw.reread }

def Tally.reread (t : Tally) : Tally := { t with seconds := t.seconds.reread }

def Outcome.reread (o : Outcome) : Outcome :=
  { o with best := o.best.reread, tally := o.tally.reread }

/-! ## Reading -/

/-- A count that fits 64 bits. -/
theorem reads_count {n : Nat} (fits : n ≤ maxUnsigned) (expected : String) :
    Reads (Reader.between 0 maxUnsigned expected) (.ofNat n) (.ofNat n) :=
  reads_ofNat fits (Nat.le_refl _) expected

theorem Binary64.Given.reads {x : Binary64} (given : x.Given) :
    Reads Reader.real (.real x) (.real x.reread) :=
  reads_real given.finite given.canonical

theorem Report.Fits.reads {r : Report} (fits : r.Fits) :
    Reads Report.form.read (Report.form.write r) (Report.form.write r.reread) := by
  refine reads_record_inOrder ?_ (by decide) "EvaluationReport"
  exact .cons (reads_count fits.generation "usize") <|
    .cons (reads_count fits.candidate "u64") <|
    .cons (reads_signed64 fits.score.1 fits.score.2) <|
    .cons fits.raw.reads <| .cons (reads_text r.pattern) .nil

theorem Snapshot.reads_parent {parent : Option Nat} (fits : ∀ p ∈ parent, p ≤ maxUnsigned) :
    Reads (Reader.optional Reader.unsigned64) ((parent.map Value.ofNat).getD .null)
      ((parent.map Value.ofNat).getD .null) := by
  cases parent with
  | none => exact reads_optional_null _
  | some parent => exact reads_optional_ofNat (fits parent rfl) (Nat.le_refl _) "u64"

theorem Snapshot.Fits.reads {s : Snapshot} (fits : s.Fits) :
    Reads Snapshot.form.read (Snapshot.form.write s) (Snapshot.form.write s.reread) := by
  refine reads_record_inOrder ?_ (by decide) "CandidateSnapshot"
  exact .cons (reads_count fits.id "u64") <|
    .cons (reads_count fits.generation "usize") <|
    .cons (Snapshot.reads_parent fits.parent) <|
    .cons (Fragment.reads_writeAll s.fragments) <|
    .cons (reads_signed64 fits.score.1 fits.score.2) <|
    .cons fits.raw.reads <| .cons (reads_text s.pattern) .nil

theorem Tally.Fits.reads {t : Tally} (fits : t.Fits) :
    Reads Tally.form.read (Tally.form.write t) (Tally.form.write t.reread) := by
  refine reads_record_inOrder ?_ (by decide) "SearchStats"
  exact .cons (reads_count fits.generations "usize") <|
    .cons (reads_count fits.evaluations "u64") <|
    .cons (reads_count fits.failures "u64") <| .cons fits.seconds.reads .nil

theorem Ending.reads (ending : Ending) :
    Reads Ending.form.read (Ending.form.write ending) (Ending.form.write ending) := by
  refine reads_choice ?_
  cases ending <;> decide

theorem Outcome.Fits.reads {o : Outcome} (fits : o.Fits) :
    Reads Outcome.form.read (Outcome.form.write o) (Outcome.form.write o.reread) := by
  refine reads_record_inOrder ?_ (by decide) "SearchResult"
  exact .cons (Ending.reads o.ending) <| .cons fits.best.reads <| .cons fits.tally.reads .nil

/-! ## Meaning -/

theorem Report.meaning_write (r : Report) : Report.form.meaning (Report.form.write r) = r := rfl

theorem Snapshot.meaning_write (s : Snapshot) : Snapshot.form.meaning (Snapshot.form.write s) = s := by
  have fragments := Fragment.ofItems_writeAll s.fragments
  have meant : Snapshot.form.meaning (Snapshot.form.write s) =
      { s with
        parent := ((s.parent.map Value.ofNat).getD .null).toOption.map Value.toNat
        fragments := Fragment.ofItems (Fragment.writeAll s.fragments) } := rfl
  rw [meant, fragments]
  obtain ⟨id, generation, parent, fragments, score, raw, pattern⟩ := s
  cases parent with
  | none => rfl
  | some parent => rfl

theorem Tally.meaning_write (t : Tally) : Tally.form.meaning (Tally.form.write t) = t := rfl

theorem Ending.meaning_write (ending : Ending) :
    Ending.form.meaning (Ending.form.write ending) = ending := by
  cases ending <;> decide

theorem Outcome.meaning_write (o : Outcome) : Outcome.form.meaning (Outcome.form.write o) = o := by
  have meant : Outcome.form.meaning (Outcome.form.write o) =
      ⟨Ending.form.meaning (Ending.form.write o.ending),
        Snapshot.form.meaning (Snapshot.form.write o.best),
        Tally.form.meaning (Tally.form.write o.tally)⟩ := rfl
  rw [meant, Ending.meaning_write, Snapshot.meaning_write, Tally.meaning_write]

/-! ## There and back -/

/-- What is read from the encoding of a value, if its document is read as that of another one. -/
theorem Form.decode_encode {α : Type} {form : Form α} {a b : α}
    (reads : Reads form.read (form.write a) (form.write b)) (meant : form.meaning (form.write b) = b) :
    form.decode (form.encode a) = .ok b := by
  rw [Form.decode, Form.encode, readAll_eq_ok reads (spelled_toCompact _)]
  exact congrArg Except.ok meant

theorem Report.Fits.decode_encode {r : Report} (fits : r.Fits) :
    Report.form.decode (Report.form.encode r) = .ok r.reread :=
  Form.decode_encode fits.reads r.reread.meaning_write

theorem Snapshot.Fits.decode_encode {s : Snapshot} (fits : s.Fits) :
    Snapshot.form.decode (Snapshot.form.encode s) = .ok s.reread :=
  Form.decode_encode fits.reads s.reread.meaning_write

theorem Outcome.Fits.decode_encode {o : Outcome} (fits : o.Fits) :
    Outcome.form.decode (Outcome.form.encode o) = .ok o.reread :=
  Form.decode_encode fits.reads o.reread.meaning_write

theorem Binary64.Given.reread {x : Binary64} (given : x.Given) : x.reread.Given :=
  ⟨finite_of_near (near_reread given.finite given.canonical),
    canonical_reread given.finite given.canonical⟩

/-- Reports, snapshots and outcomes are read back but for their floating-point numbers. Such a number stays
finite, keeps its sign and moves by three gaps at most, and it does not move if its digits are few. -/
theorem decode_encode_results :
    (∀ r : Report, r.Fits → Report.form.decode (Report.form.encode r) = .ok r.reread) ∧
    (∀ s : Snapshot, s.Fits → Snapshot.form.decode (Snapshot.form.encode s) = .ok s.reread) ∧
    (∀ o : Outcome, o.Fits → Outcome.form.decode (Outcome.form.encode o) = .ok o.reread) ∧
    ∀ x : Binary64, x.Given → x.reread.Given ∧ Near 3 x x.reread ∧ (x.Brief → x.reread = x) :=
  ⟨fun _ fits => fits.decode_encode, fun _ fits => fits.decode_encode,
    fun _ fits => fits.decode_encode, fun _ given => ⟨given.reread,
      near_reread given.finite given.canonical, reread_of_brief given.canonical⟩⟩

/-- The greatest and the least whole numbers, and a raw score with few digits. -/
theorem decode_encode_results_brief :
    let raw := ofNat 3 / ofNat 2
    let r : Report := ⟨maxUnsigned, maxUnsigned, minInt64, raw, "^\\dé\n\"$"⟩
    let s : Snapshot := ⟨0, maxUnsigned, none, [⟨"a|\""⟩, ⟨""⟩], maxInt64, raw, ""⟩
    let o : Outcome := ⟨.timedOut, s, ⟨1, 2, 0, zero⟩⟩
    r.Fits ∧ Report.form.decode (Report.form.encode r) = .ok r ∧
      s.Fits ∧ Snapshot.form.decode (Snapshot.form.encode s) = .ok s ∧
      o.Fits ∧ Outcome.form.decode (Outcome.form.encode o) = .ok o := by
  intro raw r s o
  obtain ⟨reports, snapshots, outcomes, numbers⟩ := decode_encode_results
  have given : raw.Given := ⟨by decide +kernel, canonical_div _ _⟩
  have given' : zero.Given := ⟨rfl, canonical_zero false⟩
  have same : raw.reread = raw := (numbers raw given).2.2 (by decide +kernel)
  have same' : zero.reread = zero := (numbers zero given').2.2 (by decide +kernel)
  have fits : r.Fits := ⟨by decide, by decide, by decide, given⟩
  have fits' : s.Fits := ⟨by decide, by decide, by decide, by decide, given⟩
  have fits'' : o.Fits := ⟨fits', by decide, by decide, by decide, given'⟩
  have report : r.reread = r := congrArg (Report.mk _ _ _ · _) same
  have snapshot : s.reread = s := congrArg (Snapshot.mk _ _ _ _ _ · _) same
  have outcome : o.reread = o := by
    rw [Outcome.reread, Tally.reread, same']
    rw [snapshot]
  refine ⟨fits, ?_, fits', ?_, fits'', ?_⟩
  · rw [reports r fits, report]
  · rw [snapshots s fits', snapshot]
  · rw [outcomes o fits'', outcome]

/-- One half and two thirds are read as a number that is one gap less. -/
theorem decode_encode_report_ne :
    let r : Report := ⟨0, 1, 1, ofNat 1 / ofNat 2 + ofNat 2 / ofNat 3, "^ab$"⟩
    r.Fits ∧ Report.form.decode (Report.form.encode r) ≠ .ok r := by
  intro r
  have given : r.raw.Given := ⟨by decide +kernel, canonical_add _ _⟩
  have fits : r.Fits := ⟨by decide, by decide, by decide, given⟩
  have moved : r.raw.reread.toBits + 1 = r.raw.toBits := by decide +kernel
  refine ⟨fits, ?_⟩
  rw [fits.decode_encode]
  intro same
  have same : r.raw.reread = r.raw := congrArg Report.raw (Except.ok.inj same)
  rw [same] at moved
  omega

end PatternSearch
