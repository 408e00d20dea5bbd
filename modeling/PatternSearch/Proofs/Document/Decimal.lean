import PatternSearch.Proofs.Document.Numeral
import PatternSearch.Proofs.Document.Scaling

/-!
# Decimals are read from what is written for them

A decimal is written with a point, with an exponent, or with both. Its digits are read as a whole number,
the point left out, and the places behind the point are taken off the exponent. A decimal that is a whole
number is written with a zero behind the point, which is read as one more digit.
-/

namespace PatternSearch

open Document Text

namespace Decimal

/-- Significand and exponent as they are read from what is written. -/
def parts (d : Decimal) : Nat × Int :=
  if 0 ≤ d.exponent ∧ d.exponent + width d.digits - 1 ≤ highestPlain then
    (d.digits * 10 ^ (d.exponent.toNat + 1), -1)
  else (d.digits, d.exponent)

/-- A decimal that some number is written as. -/
structure Fits (d : Decimal) : Prop where
  positive : 0 < d.digits
  few : d.digits < 10 ^ 19
  least : -(lastPlace : Int) ≤ d.exponent
  most : d.exponent ≤ maxPower

variable {d : Decimal}

theorem inSteps_parts (d : Decimal) : inSteps ⟨d.parts.1, d.parts.2⟩ = d.inSteps := by
  rw [parts]
  split
  · next whole =>
    have same : d.exponent = (d.exponent.toNat : Int) := by omega
    rw [inSteps, inSteps]
    conv_rhs => rw [same, zpow_natCast]
    push_cast
    rw [pow_succ]
    ring
  · rfl

theorem width_le (few : d.digits < 10 ^ 19) : width d.digits ≤ 19 :=
  (Nat.length_toDigits_le_iff (by decide) (by decide)).mpr few

theorem width_pos (n : Nat) : 0 < width n := Nat.length_toDigits_pos

namespace Fits

theorem parts_lt (fits : d.Fits) : d.parts.1 < 10 ^ 19 := by
  rw [parts]
  split
  · next whole =>
    have digits := lt_pow_width d.digits
    have short : width d.digits + (d.exponent.toNat + 1) ≤ 17 := by
      have most : d.exponent + width d.digits - 1 ≤ 15 := whole.2
      omega
    calc d.digits * 10 ^ (d.exponent.toNat + 1)
        < 10 ^ width d.digits * 10 ^ (d.exponent.toNat + 1) :=
          Nat.mul_lt_mul_of_pos_right digits (Nat.pow_pos (by decide))
      _ = 10 ^ (width d.digits + (d.exponent.toNat + 1)) := (Nat.pow_add _ _ _).symm
      _ ≤ 10 ^ 17 := Nat.pow_le_pow_right (by decide) short
      _ < 10 ^ 19 := by decide
  · exact fits.few

theorem parts_pos (fits : d.Fits) : 0 < d.parts.1 := by
  rw [parts]
  split
  · exact Nat.mul_pos fits.positive (Nat.pow_pos (by decide))
  · exact fits.positive

theorem parts_exponent (fits : d.Fits) :
    -(lastPlace : Int) ≤ d.parts.2 ∧ d.parts.2 ≤ maxPower := by
  rw [parts]
  split
  · dsimp only
    decide
  · exact ⟨fits.least, fits.most⟩

end Fits

end Decimal

namespace Document

/-! ## The value of digits -/

theorem foldl_zeros (k n : Nat) :
    (List.replicate k '0').foldl (fun n c => 10 * n + decimalValue c) n = n * 10 ^ k := by
  induction k generalizing n with
  | zero => exact (Nat.mul_one n).symm
  | succ k ih =>
    have zero : decimalValue '0' = 0 := rfl
    rw [List.replicate_succ, List.foldl_cons, ih, zero, Nat.add_zero, Nat.pow_succ']
    ring

/-- Zeros before a number. -/
theorem decimalNumber_zeros_append (k : Nat) (text : List Char) :
    decimalNumber (List.replicate k '0' ++ text) = decimalNumber text := by
  rw [decimalNumber, List.foldl_append, foldl_zeros, Nat.zero_mul]
  rfl

/-- Zeros behind a number. -/
theorem decimalNumber_append_zeros (text : List Char) (k : Nat) :
    decimalNumber (text ++ List.replicate k '0') = decimalNumber text * 10 ^ k := by
  rw [decimalNumber, List.foldl_append, foldl_zeros]
  rfl

theorem isDecimal_of_mem_zeros {k : Nat} : ∀ c ∈ List.replicate k '0', isDecimal c = true := by
  intro c mem
  rw [List.eq_of_mem_replicate mem]
  rfl

/-- One digit at least, and nothing else. -/
def Digital (text : List Char) : Prop := text ≠ [] ∧ ∀ c ∈ text, isDecimal c = true

theorem digital_toDigits (n : Nat) : Digital (Nat.toDigits 10 n) :=
  ⟨toDigits_ne_nil n, isDecimal_of_mem_toDigits⟩

theorem digital_zero : Digital ['0'] := ⟨List.cons_ne_nil _ _, List.forall_mem_singleton.mpr rfl⟩

theorem Digital.append_zeros {text : List Char} (digital : Digital text) (k : Nat) :
    Digital (text ++ List.replicate k '0') :=
  ⟨List.append_ne_nil_of_left_ne_nil digital.1 _,
    List.forall_mem_append.mpr ⟨digital.2, isDecimal_of_mem_zeros⟩⟩

theorem Digital.zeros_append {text : List Char} (digital : Digital text) (k : Nat) :
    Digital (List.replicate k '0' ++ text) :=
  ⟨List.append_ne_nil_of_right_ne_nil _ digital.1,
    List.forall_mem_append.mpr ⟨isDecimal_of_mem_zeros, digital.2⟩⟩

/-- Digits that a number may begin with: a zero is alone. -/
structure Fronts (text : List Char) : Prop where
  digital : Digital text
  lead : ∀ d more, text ≠ '0' :: d :: more

theorem fronts_zero : Fronts ['0'] := ⟨digital_zero, fun _ _ => by simp⟩

/-! ## Parts of a number -/

/-- The number is finished from this significand and exponent, before the rest of the text. -/
def Finishes (result : Except Fault (Numeral × Cursor)) (positive : Bool) (n : Nat) (e : Int)
    (rest : List Char) : Prop :=
  ∃ offset, result = finishReal positive n e ⟨rest, offset⟩

variable {positive : Bool} {n : Nat} {e : Int} {front fraction rest : List Char}

theorem finishes_exponentOrEnd (stops : Stops rest) (offset : Nat) :
    Finishes (exponentOrEnd positive n e ⟨rest, offset⟩) positive n e rest := by
  refine ⟨offset, ?_⟩
  cases rest with
  | nil => rfl
  | cons c more => simp [exponentOrEnd, stops.of_cons.2.2]

theorem finishes_exponentPart (stops : Stops rest) {first : Int} (small : first.natAbs ≤ maxExponent)
    (offset : Nat) :
    Finishes (exponentPart positive n e ⟨(if first < 0 then '-' else '+') ::
      Nat.toDigits 10 first.natAbs ++ rest, offset⟩) positive n (e + first) rest := by
  have found (offset : Nat) := digits_append (isDecimal_of_mem_toDigits (n := first.natAbs)) stops offset
  have some : (Nat.toDigits 10 first.natAbs).isEmpty = false := by simp
  have gathered := gather_toDigits small
  rw [List.cons_append]
  split
  · next negative =>
    have size := abs_of_neg negative
    exact ⟨_, by simp [exponentPart, sign, Cursor.past, found, some, gathered, size]; rfl⟩
  · next nonneg =>
    have size := abs_of_nonneg (not_lt.mp nonneg)
    exact ⟨_, by simp [exponentPart, sign, Cursor.past, found, some, gathered, size]; rfl⟩

/-- A number with a point: the digits on either side of it make the significand. -/
theorem exists_readNumeral_point (positive : Bool) (fronts : Fronts front) (digital : Digital fraction)
    (ends : ∀ c ∈ rest.head?, isDecimal c = false)
    (small : decimalNumber (front ++ fraction) ≤ maxUnsigned) (offset : Nat) :
    ∃ offset', readNumeral positive ⟨front ++ '.' :: (fraction ++ rest), offset⟩ =
      exponentOrEnd positive (decimalNumber (front ++ fraction)) (-fraction.length)
        ⟨rest, offset'⟩ := by
  have point : ∀ c ∈ ('.' :: (fraction ++ rest)).head?, isDecimal c = false := by
    rintro c ⟨⟩
    rfl
  have before := digits_append_of_head fronts.digital.2 point offset
  have behind (offset : Nat) := digits_append_of_head digital.2 ends offset
  have whole : decimalNumber (front ++ fraction) =
      fraction.foldl (fun n c => 10 * n + decimalValue c) (decimalNumber front) := List.foldl_append
  rw [whole] at small ⊢
  have gathered := gather_eq fraction _ small
  have gathered' : gather maxUnsigned 0 front = (decimalNumber front, []) :=
    gather_eq front 0 ((le_foldl_decimal fraction _).trans small)
  refine ⟨offset + front.length + '.'.utf8Size + fraction.length, ?_⟩
  rw [readNumeral, before]
  dsimp only
  split
  · next => exact absurd rfl fronts.digital.1
  · next => exact absurd rfl (fronts.lead _ _)
  · rw [gathered']
    simp [fractionPart, Cursor.past, behind, gathered, digital.1]

/-- A number with an exponent but no point. -/
theorem exists_readNumeral_mark (positive : Bool) (fronts : Fronts front)
    (small : decimalNumber front ≤ maxUnsigned) (rest : List Char) (offset : Nat) :
    ∃ offset', readNumeral positive ⟨front ++ 'e' :: rest, offset⟩ =
      exponentPart positive (decimalNumber front) 0 ⟨rest, offset'⟩ := by
  have mark : ∀ c ∈ ('e' :: rest).head?, isDecimal c = false := by
    rintro c ⟨⟩
    rfl
  have before := digits_append_of_head fronts.digital.2 mark offset
  have gathered : gather maxUnsigned 0 front = (decimalNumber front, []) := gather_eq front 0 small
  refine ⟨offset + front.length + 'e'.utf8Size, ?_⟩
  rw [readNumeral, before]
  dsimp only
  split
  · next => exact absurd rfl fronts.digital.1
  · next => exact absurd rfl (fronts.lead _ _)
  · rw [gathered]
    simp [isExponentMark, Cursor.past]

/-- A number with a point but no exponent. -/
theorem finishes_point (fronts : Fronts front) (digital : Digital fraction) (stops : Stops rest)
    (value : decimalNumber (front ++ fraction) = n) (small : n ≤ maxUnsigned)
    (places : -(fraction.length : Int) = e) (offset : Nat) :
    Finishes (readNumeral positive ⟨front ++ '.' :: (fraction ++ rest), offset⟩) positive n e rest := by
  subst value places
  obtain ⟨offset', same⟩ := exists_readNumeral_point positive fronts digital stops.head small offset
  rw [same]
  exact finishes_exponentOrEnd stops offset'

/-- A number with an exponent but no point. -/
theorem finishes_mark (fronts : Fronts front) (stops : Stops rest) {first : Int}
    (written : first.natAbs ≤ maxExponent) (value : decimalNumber front = n) (small : n ≤ maxUnsigned)
    (places : 0 + first = e) (offset : Nat) :
    Finishes (readNumeral positive ⟨front ++ 'e' :: ((if first < 0 then '-' else '+') ::
      Nat.toDigits 10 first.natAbs ++ rest), offset⟩) positive n e rest := by
  subst value places
  obtain ⟨offset', same⟩ := exists_readNumeral_mark positive fronts small
    ((if first < 0 then '-' else '+') :: Nat.toDigits 10 first.natAbs ++ rest) offset
  rw [same]
  exact finishes_exponentPart stops written offset'

/-- A number with both. -/
theorem finishes_point_mark (fronts : Fronts front) (digital : Digital fraction) (stops : Stops rest)
    {first : Int} (written : first.natAbs ≤ maxExponent) (value : decimalNumber (front ++ fraction) = n)
    (small : n ≤ maxUnsigned) (places : -(fraction.length : Int) + first = e) (offset : Nat) :
    Finishes (readNumeral positive ⟨front ++ '.' :: (fraction ++ 'e' ::
      ((if first < 0 then '-' else '+') :: Nat.toDigits 10 first.natAbs ++ rest)), offset⟩)
      positive n e rest := by
  subst value places
  have mark : ∀ c ∈ ('e' :: ((if first < 0 then '-' else '+') ::
      Nat.toDigits 10 first.natAbs ++ rest)).head?, isDecimal c = false := by
    rintro c ⟨⟩
    rfl
  obtain ⟨offset', same⟩ := exists_readNumeral_point positive fronts digital mark small offset
  rw [same]
  exact finishes_exponentPart stops written _

end Document

/-! ## The two ways to write a decimal -/

namespace Decimal

variable {d : Decimal} {positive : Bool} {rest : List Char}

namespace Fits

theorem digits_le (fits : d.Fits) : d.digits ≤ maxUnsigned := by
  have few := fits.few
  have bound : 10 ^ 19 ≤ maxUnsigned := by decide
  omega

theorem parts_le (fits : d.Fits) : d.parts.1 ≤ maxUnsigned := by
  have few := fits.parts_lt
  have bound : 10 ^ 19 ≤ maxUnsigned := by decide
  omega

/-- No zero leads the digits of a decimal. -/
theorem lead (fits : d.Fits) (more : List Char) : Nat.toDigits 10 d.digits ≠ '0' :: more := by
  intro zero
  have positive := fits.positive
  rw [eq_zero_of_toDigits zero] at positive
  exact absurd positive (by decide)

/-- So they may be cut, and zeros put behind them. -/
theorem fronts_take (fits : d.Fits) {n : Nat} (some : 0 < n) (k : Nat) :
    Fronts ((Nat.toDigits 10 d.digits).take n ++ List.replicate k '0') := by
  obtain ⟨c, digits, same, decimal⟩ := exists_toDigits_eq_cons d.digits
  obtain ⟨n, rfl⟩ := Nat.exists_eq_succ_of_ne_zero some.ne'
  have digital := digital_toDigits d.digits
  refine ⟨Digital.append_zeros ⟨?_, fun c mem => digital.2 c (List.mem_of_mem_take mem)⟩ k, ?_⟩
  · rw [same, List.take_succ_cons]
    exact List.cons_ne_nil _ _
  · intro d' more zero
    rw [same, List.take_succ_cons, List.cons_append] at zero
    rw [(List.cons.inj zero).1] at same
    exact fits.lead digits same

end Fits

/-- The digits on either side of the point, where a decimal is written with all its places. -/
structure Halves (d : Decimal) (front fraction : List Char) : Prop where
  fronts : Fronts front
  digital : Digital fraction
  value : decimalNumber (front ++ fraction) = d.parts.1
  places : -(fraction.length : Int) = d.parts.2

theorem length_toDigits (n : Nat) : (Nat.toDigits 10 n).length = width n := rfl

/-- Zeros stand behind the point before the digits do. -/
theorem halves_below (below : d.exponent + width d.digits ≤ 0) : Halves d ['0']
    (List.replicate (-(d.exponent + width d.digits)).toNat '0' ++ Nat.toDigits 10 d.digits) := by
  have some := width_pos d.digits
  have same : d.parts = (d.digits, d.exponent) := if_neg (by omega)
  refine ⟨fronts_zero, (digital_toDigits d.digits).zeros_append _, ?_, ?_⟩
  · rw [same]
    exact (decimalNumber_zeros_append (_ + 1) _).trans (decimalNumber_toDigits d.digits)
  · rw [same, List.length_append, List.length_replicate, length_toDigits]
    omega

/-- The digits end before the point, and zeros fill up. -/
theorem halves_whole (fits : d.Fits) (whole : 0 ≤ d.exponent)
    (upper : d.exponent + width d.digits - 1 ≤ highestPlain) :
    Halves d (Nat.toDigits 10 d.digits ++ List.replicate d.exponent.toNat '0') ['0'] := by
  have same : d.parts = (d.digits * 10 ^ (d.exponent.toNat + 1), -1) := if_pos ⟨whole, upper⟩
  have fronts := fits.fronts_take (width_pos d.digits) d.exponent.toNat
  rw [List.take_of_length_le (length_toDigits d.digits).le] at fronts
  refine ⟨fronts, digital_zero, ?_, ?_⟩
  · rw [same, List.append_assoc, ← List.replicate_succ', decimalNumber_append_zeros,
      decimalNumber_toDigits]
  · rw [same]
    rfl

/-- The point stands between two digits. -/
theorem halves_within (fits : d.Fits) {n : Nat} (some : 0 < n) (more : n < width d.digits)
    (places : n = d.exponent + width d.digits) :
    Halves d ((Nat.toDigits 10 d.digits).take n) ((Nat.toDigits 10 d.digits).drop n) := by
  have same : d.parts = (d.digits, d.exponent) := if_neg (by omega)
  have fronts := fits.fronts_take some 0
  rw [List.replicate_zero, List.append_nil] at fronts
  refine ⟨fronts, ⟨?_, fun c mem => ?_⟩, ?_, ?_⟩
  · rw [ne_eq, List.drop_eq_nil_iff, length_toDigits]
    omega
  · exact isDecimal_of_mem_toDigits c (List.mem_of_mem_drop mem)
  · rw [same, List.take_append_drop, decimalNumber_toDigits]
  · rw [same, List.length_drop, length_toDigits]
    omega

theorem exists_plain_eq (fits : d.Fits) (upper : d.exponent + width d.digits - 1 ≤ highestPlain) :
    ∃ front fraction, plain (Nat.toDigits 10 d.digits) (d.exponent + width d.digits - 1 + 1) =
      front ++ '.' :: fraction ∧ Halves d front fraction := by
  have length := length_toDigits d.digits
  rw [Int.sub_add_cancel, plain]
  split
  · next below => exact ⟨_, _, rfl, halves_below below⟩
  · dsimp only
    generalize places : (d.exponent + width d.digits).toNat = n
    by_cases whole : 0 ≤ d.exponent
    · have zeros : n - (Nat.toDigits 10 d.digits).length = d.exponent.toNat := by omega
      refine ⟨_, _, ?_, halves_whole fits whole upper⟩
      rw [zeros, List.take_of_length_le (by omega), List.drop_eq_nil_of_le (by omega)]
      rfl
    · have zeros : n - (Nat.toDigits 10 d.digits).length = 0 := by omega
      have halves : Halves d _ _ := halves_within fits (show 0 < n by omega) (by omega) (by omega)
      refine ⟨_, _, ?_, halves⟩
      rw [zeros, List.replicate_zero, List.append_nil, if_neg (by simpa using halves.digital.1)]

theorem finishes_plain (fits : d.Fits) (stops : Stops rest)
    (upper : d.exponent + width d.digits - 1 ≤ highestPlain) (offset : Nat) :
    Finishes (readNumeral positive
      ⟨plain (Nat.toDigits 10 d.digits) (d.exponent + width d.digits - 1 + 1) ++ rest, offset⟩)
      positive d.parts.1 d.parts.2 rest := by
  obtain ⟨front, fraction, same, halves⟩ := exists_plain_eq fits upper
  rw [same, List.append_assoc, List.cons_append]
  exact finishes_point halves.fronts halves.digital stops halves.value fits.parts_le halves.places offset

theorem Fits.first_le (fits : d.Fits) : (d.exponent + width d.digits - 1).natAbs ≤ maxExponent := by
  have least := fits.least
  have most := fits.most
  have short := width_le fits.few
  have some := width_pos d.digits
  have bound : lastPlace + maxPower + 19 ≤ maxExponent := by decide
  omega

theorem finishes_scientific (fits : d.Fits) (stops : Stops rest)
    (other : d.exponent + width d.digits - 1 < lowestPlain ∨
      highestPlain < d.exponent + width d.digits - 1) (offset : Nat) :
    Finishes (readNumeral positive
      ⟨scientific (Nat.toDigits 10 d.digits) (d.exponent + width d.digits - 1) ++ rest, offset⟩)
      positive d.parts.1 d.parts.2 rest := by
  have some := width_pos d.digits
  have same : d.parts = (d.digits, d.exponent) := by
    have low : lowestPlain < 0 := by decide
    exact if_neg (by omega)
  have value := decimalNumber_toDigits d.digits
  have fronts := fits.fronts_take Nat.one_pos 0
  have both : (Nat.toDigits 10 d.digits).take 1 ++ (Nat.toDigits 10 d.digits).drop 1 =
      Nat.toDigits 10 d.digits := List.take_append_drop 1 _
  rw [List.replicate_zero, List.append_nil] at fronts
  rw [same, scientific]
  dsimp only
  split
  · next empty =>
    -- A single digit is written without a point.
    have none : (Nat.toDigits 10 d.digits).drop 1 = [] := List.isEmpty_iff.mp empty
    have single : width d.digits ≤ 1 := List.drop_eq_nil_iff.mp none
    rw [none, List.append_nil] at both
    rw [both] at fronts ⊢
    rw [List.append_nil, List.append_assoc, List.cons_append]
    exact finishes_mark fronts stops fits.first_le value fits.digits_le (by omega) offset
  · next more =>
    have fraction : Digital ((Nat.toDigits 10 d.digits).drop 1) :=
      ⟨fun none => more (List.isEmpty_iff.mpr none),
        fun c mem => isDecimal_of_mem_toDigits c (List.mem_of_mem_drop mem)⟩
    have places : ((Nat.toDigits 10 d.digits).drop 1).length = width d.digits - 1 := List.length_drop
    rw [List.append_assoc, List.append_assoc, List.cons_append, List.cons_append]
    exact finishes_point_mark fronts fraction stops fits.first_le (by rw [both, value]) fits.digits_le
      (by omega) offset

/-- Every decimal is read as its parts. -/
theorem finishes_write (fits : d.Fits) (stops : Stops rest) (offset : Nat) :
    Finishes (readNumeral positive ⟨d.write ++ rest, offset⟩) positive d.parts.1 d.parts.2 rest := by
  rw [write, length_toDigits]
  split
  · next plainly => exact finishes_plain fits stops plainly.2 offset
  · next other =>
    refine finishes_scientific fits stops ?_ offset
    omega

end Decimal

end PatternSearch
