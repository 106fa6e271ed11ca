/-
Module: Pushdown.Proofs.Decimal
Purpose: Decimals: the numbers they stand for, how they are written, and how they are read.
Main exports: decimalValue, IsDecimal, forall_isDecimal_iff, Text.Decimal, Text.Decimal.chars,
  Text.Decimal.read?, Text.Denotes, Text.digitsWithin?_eq_some_iff, Text.readNat?_eq_some_iff
-/
import Mathlib.Algebra.Order.Field.Basic
import Mathlib.Algebra.Order.Ring.Rat
import Mathlib.Data.List.Induction
import Mathlib.Data.Rat.Cast.Defs
import Mathlib.Tactic.NormNum
import Mathlib.Tactic.Ring
import Pushdown.Proofs.Text.Value
import Pushdown.Text.Value

namespace Pushdown

/-! ## Values of decimals

A decimal type has room for a number of digits, some of which stand behind the point.  One type has
room for all that another one holds if it keeps as many digits on either side of the point; the
digits before the point are those of the precision that the scale leaves.
-/

/-- The number that digits stand for, `scale` of them behind the point.  A negative scale stands for
that many zeros behind the digits. -/
def decimalValue (digits scale : Int) : ℚ := digits * 10 ^ (-scale)

/-- Whether a number has at most `precision` digits, `scale` of them behind the point. -/
def IsDecimal (precision : Nat) (scale : Int) (value : ℚ) : Prop :=
  ∃ digits : Int, |digits| < 10 ^ precision ∧ value = decimalValue digits scale

/-- Zeros behind the digits make up for a greater scale.  Decimals of different scales are compared
by bringing them to one. -/
theorem decimalValue_add (digits scale : Int) (zeros : Nat) :
    decimalValue (digits * 10 ^ zeros) (scale + zeros) = decimalValue digits scale := by
  have ten : (10 : ℚ) ≠ 0 := by norm_num
  have powers : (10 : ℚ) ^ zeros * 10 ^ (-(scale + zeros)) = 10 ^ (-scale) := by
    rw [← zpow_natCast, ← zpow_add₀ ten]
    congr 1
    omega
  rw [decimalValue, decimalValue, ← powers]
  push_cast
  ring

/-- At one scale, decimals are equal exactly if their digits are. -/
theorem decimalValue_inj {digits digits' scale : Int} :
    decimalValue digits scale = decimalValue digits' scale ↔ digits = digits' := by
  have power : (10 : ℚ) ^ (-scale) ≠ 0 := zpow_ne_zero _ (by norm_num)
  unfold decimalValue
  rw [mul_left_inj' power]
  exact Int.cast_inj

/-- The least number that a scale can tell from zero needs that scale.  A type of a smaller scale
cannot hold all values of the greater one. -/
theorem scale_le_of_decimalValue_one {digits scale scale' : Int}
    (same : decimalValue 1 scale = decimalValue digits scale') : scale ≤ scale' := by
  by_contra less
  obtain ⟨zeros, rfl⟩ : ∃ zeros : Nat, scale = scale' + (zeros + 1 : Nat) :=
    ⟨(scale - scale' - 1).toNat, by omega⟩
  rw [← decimalValue_add digits scale' (zeros + 1), decimalValue_inj] at same
  have divides : (10 : Int) ∣ 1 := ⟨digits * 10 ^ zeros, by rw [same]; ring⟩
  revert divides
  decide

/-- Nines and zeros behind them need as many places as they are.  The greatest number of a precision
is one of them, so the precision cannot be smaller. -/
theorem places_le_of_nines_lt {nines zeros places : Nat} (positive : 0 < nines)
    (less : ((10 : Int) ^ nines - 1) * 10 ^ zeros < 10 ^ places) : nines + zeros ≤ places := by
  obtain ⟨fewer, rfl⟩ := Nat.exists_eq_succ_of_ne_zero positive.ne'
  by_contra more
  have leading : (10 : Int) ^ fewer ≤ 10 ^ (fewer + 1) - 1 := by
    have one : (1 : Int) ≤ 10 ^ fewer := one_le_pow₀ (by norm_num)
    rw [pow_succ]
    omega
  have enough : (10 : Int) ^ places ≤ (10 ^ (fewer + 1) - 1) * 10 ^ zeros := calc
    (10 : Int) ^ places ≤ 10 ^ (fewer + zeros) := pow_le_pow_right₀ (by norm_num) (by omega)
    _ = 10 ^ fewer * 10 ^ zeros := pow_add _ _ _
    _ ≤ (10 ^ (fewer + 1) - 1) * 10 ^ zeros :=
      mul_le_mul_of_nonneg_right leading (by positivity)
  exact absurd less (not_lt.2 enough)

/-- All decimals of one precision and scale are decimals of another exactly if no digit is lost on
either side of the point. -/
theorem forall_isDecimal_iff {precision precision' : Nat} {scale scale' : Int}
    (positive : 0 < precision) :
    (∀ value, IsDecimal precision scale value → IsDecimal precision' scale' value) ↔
      scale ≤ scale' ∧ precision + (scale' - scale) ≤ precision' := by
  constructor
  · intro held
    have one : |(1 : Int)| < 10 ^ precision := by
      rw [abs_one]
      exact one_lt_pow₀ (by norm_num) (by omega)
    obtain ⟨least, -, leastSame⟩ := held _ ⟨1, one, rfl⟩
    have scales := scale_le_of_decimalValue_one leastSame
    refine ⟨scales, ?_⟩
    obtain ⟨zeros, rfl⟩ := Int.le.dest scales
    have nines : |(10 : Int) ^ precision - 1| < 10 ^ precision := by
      have one : (1 : Int) ≤ 10 ^ precision := one_le_pow₀ (by norm_num)
      rw [abs_of_nonneg (by omega)]
      omega
    obtain ⟨greatest, inside, greatestSame⟩ := held _ ⟨_, nines, rfl⟩
    rw [← decimalValue_add _ scale zeros, decimalValue_inj] at greatestSame
    subst greatestSame
    have places := places_le_of_nines_lt positive (lt_of_abs_lt inside)
    omega
  · rintro ⟨scales, places⟩ value ⟨digits, inside, rfl⟩
    obtain ⟨zeros, rfl⟩ := Int.le.dest scales
    refine ⟨digits * 10 ^ zeros, ?_, (decimalValue_add digits scale zeros).symm⟩
    calc |digits * 10 ^ zeros| = |digits| * 10 ^ zeros := by
          rw [abs_mul, abs_of_nonneg (by positivity : (0 : Int) ≤ 10 ^ zeros)]
      _ < 10 ^ precision * 10 ^ zeros := mul_lt_mul_of_pos_right inside (by positivity)
      _ = 10 ^ (precision + zeros) := (pow_add _ _ _).symm
      _ ≤ 10 ^ precision' := pow_le_pow_right₀ (by norm_num) (by omega)

/-! ## Numerals

A decimal is a sign, digits, digits behind a point and an exponent behind an `E`; all but the first
digits may be missing.  What a decimal stands for is an exact number: its digits in a row, with the
point moved to the left by the digits behind it and to the right by the exponent.  The sign is kept
apart from the number, because there are decimals of zero with a sign.
-/

namespace Text

/-- A decimal by its parts. -/
structure Decimal where
  negative : Bool
  whole : List Char
  fraction : List Char
  exponent : Option Int
deriving Repr, DecidableEq

/-- The characters of a sign. -/
def signChars (negative : Bool) : List Char := if negative then ['-'] else []

/-- The characters of a whole number. -/
def intChars (value : Int) : List Char :=
  signChars (decide (value < 0)) ++ Nat.toDigits 10 value.natAbs

/-- A whole number is written with a sign, if it is negative, and with its digits. -/
theorem toList_toString_int (value : Int) : (toString value).toList = intChars value := by
  cases value with
  | ofNat n => exact Nat.toList_repr
  | negSucc n =>
    have negative : decide (Int.negSucc n < 0) = true := decide_eq_true (Int.negSucc_lt_zero n)
    change (Int.repr (.negSucc n)).toList = _
    rw [Int.repr, String.toList_append, Nat.toList_repr, intChars, negative]
    rfl

namespace Decimal

/-- The digits before and behind the point. -/
def digits (decimal : Decimal) : List Char := decimal.whole ++ decimal.fraction

/-- The point and the digits behind it, if there are any. -/
def pointChars (decimal : Decimal) : List Char :=
  if decimal.fraction = [] then [] else '.' :: decimal.fraction

/-- The exponent, if there is one. -/
def exponentChars (decimal : Decimal) : List Char :=
  match decimal.exponent with
  | some exponent => 'E' :: intChars exponent
  | none => []

/-- The characters of a decimal. -/
def chars (decimal : Decimal) : List Char :=
  signChars decimal.negative ++ (decimal.whole ++ (decimal.pointChars ++ decimal.exponentChars))

/-- The number that a decimal stands for, without its sign. -/
def magnitude (decimal : Decimal) : ℚ :=
  decimalValue (digitsValue decimal.digits)
    (decimal.fraction.length - decimal.exponent.getD 0)

/-- The number that a decimal stands for. -/
def value (decimal : Decimal) : ℚ :=
  if decimal.negative then -decimal.magnitude else decimal.magnitude

/-- Whether the parts are digits, and some stand before the point. -/
structure WellFormed (decimal : Decimal) : Prop where
  filled : decimal.whole ≠ []
  digits : ∀ c ∈ decimal.digits, c.isDigit = true

end Decimal

/-! ### Reading -/

/-- A sign, if there is one, and what follows it. -/
def splitSign : List Char → Bool × List Char
  | '-' :: rest => (true, rest)
  | text => (false, text)

/-- Digits behind a point, if there is one, and what follows them. -/
def readFraction? : List Char → Option (List Char × List Char)
  | '.' :: rest =>
    if rest.takeWhile Char.isDigit = [] then none
    else some (rest.takeWhile Char.isDigit, rest.dropWhile Char.isDigit)
  | rest => some ([], rest)

/-- An exponent up to the end of a text, if there is one. -/
def readExponent? : List Char → Option (Option Int)
  | [] => some none
  | 'E' :: rest =>
    let (negative, digits) := splitSign rest
    if digits ≠ [] ∧ digits.all Char.isDigit then
      some (some (if negative then -(digitsValue digits : Int) else digitsValue digits))
    else none
  | _ => none

/-- Reads a text as a decimal, up to its end. -/
def Decimal.read? (text : List Char) : Option Decimal :=
  let (negative, unsigned) := splitSign text
  if unsigned.takeWhile Char.isDigit = [] then none
  else
    match readFraction? (unsigned.dropWhile Char.isDigit) with
    | none => none
    | some (fraction, rest) =>
      (readExponent? rest).map fun exponent =>
        ⟨negative, unsigned.takeWhile Char.isDigit, fraction, exponent⟩

/-! ### Values of digits -/

/-- Values of digits are those that the library of numbers gives them.  Its lemmas on digits in a
base can be used from here on. -/
theorem digitsValue_eq (digits : List Char) :
    digitsValue digits = Nat.ofDigitChars 10 digits 0 := by
  rw [digitsValue, Nat.ofDigitChars_eq_foldl]
  congr 1
  funext value c
  rw [digitValue, Nat.mul_comm]

theorem digitsValue_toDigits (n : Nat) : digitsValue (Nat.toDigits 10 n) = n := by
  rw [digitsValue_eq, Nat.ofDigitChars_ten_toDigits]

/-- Zeros before digits do not count. -/
theorem digitsValue_zeros_append (zeros : Nat) (digits : List Char) :
    digitsValue (List.replicate zeros '0' ++ digits) = digitsValue digits := by
  rw [digitsValue_eq, digitsValue_eq, Nat.ofDigitChars_append, Nat.ofDigitChars_replicate_zero,
    Nat.mul_zero]

/-- Each zero behind digits counts ten times. -/
theorem digitsValue_append_zeros (digits : List Char) (zeros : Nat) :
    digitsValue (digits ++ List.replicate zeros '0') = digitsValue digits * 10 ^ zeros := by
  rw [digitsValue_eq, digitsValue_eq, Nat.ofDigitChars_append, Nat.ofDigitChars_replicate_zero,
    Nat.mul_comm]

theorem isDigit_of_mem_toDigits {n : Nat} {c : Char} (member : c ∈ Nat.toDigits 10 n) :
    c.isDigit = true :=
  Nat.isDigit_of_mem_toDigits (by decide) (by decide) member

/-! ### What is written is read -/

/-- The sign is split off again, from whatever does not start with a sign itself. -/
theorem splitSign_signChars (negative : Bool) {rest : List Char} (unsigned : '-' ∉ rest.head?) :
    splitSign (signChars negative ++ rest) = (negative, rest) := by
  cases negative with
  | true => rfl
  | false =>
    cases rest with
    | nil => rfl
    | cons c rest =>
      have other : c ≠ '-' := fun same => unsigned (by simp [same])
      change splitSign (c :: rest) = _
      unfold splitSign
      split
      next same => exact absurd (List.cons.inj same).1 other
      next => rfl

theorem not_minus_of_digits {digits : List Char} (filled : digits ≠ [])
    (each : ∀ c ∈ digits, c.isDigit = true) (rest : List Char) :
    '-' ∉ (digits ++ rest).head? := by
  obtain ⟨first, more, rfl⟩ := List.exists_cons_of_ne_nil filled
  intro same
  obtain rfl : first = '-' := by simpa using same
  exact absurd (each '-' List.mem_cons_self) (by decide)

/-- An exponent is read as it was written, present or not. -/
theorem readExponent?_exponentChars (decimal : Decimal) :
    readExponent? decimal.exponentChars = some decimal.exponent := by
  unfold Decimal.exponentChars
  cases decimal.exponent with
  | none => rfl
  | some exponent =>
    have digits : ∀ c ∈ Nat.toDigits 10 exponent.natAbs, c.isDigit = true :=
      fun _ => isDigit_of_mem_toDigits
    have unsigned := not_minus_of_digits Nat.toDigits_ne_nil digits []
    rw [List.append_nil] at unsigned
    have all : (Nat.toDigits 10 exponent.natAbs).all Char.isDigit = true :=
      List.all_eq_true.2 digits
    simp only [readExponent?, intChars, splitSign_signChars _ unsigned, digitsValue_toDigits, all,
      ne_eq, Nat.toDigits_ne_nil, not_false_eq_true, and_self, if_true, Option.some.injEq,
      decide_eq_true_eq]
    split <;> omega

/-- An exponent begins with neither a digit nor a point, so the digits before it end there. -/
theorem Decimal.exponentChars_stops (decimal : Decimal) :
    ∀ c ∈ decimal.exponentChars.head?, c.isDigit = false ∧ c ≠ '.' := by
  intro c first
  unfold Decimal.exponentChars at first
  split at first
  · cases first
    decide
  · cases first

/-- A fraction is read as it was written, present or not, up to the exponent. -/
theorem readFraction?_pointChars (decimal : Decimal)
    (each : ∀ c ∈ decimal.fraction, c.isDigit = true) :
    readFraction? (decimal.pointChars ++ decimal.exponentChars) =
      some (decimal.fraction, decimal.exponentChars) := by
  have stops := decimal.exponentChars_stops
  unfold Decimal.pointChars
  split
  next none =>
    rw [none, List.nil_append]
    unfold readFraction?
    split
    next rest same => exact absurd rfl (stops '.' (by simp [same])).2
    next => rfl
  next some =>
    obtain ⟨taken, left⟩ := longestRun_iff.1 ⟨rfl, each, fun c first => (stops c first).1⟩
    simp only [List.cons_append, readFraction?, taken, left, some, if_false]

/-- A decimal is read as it was written.  The reader knows signs, points and exponents and nothing
of how literals are made. -/
theorem Decimal.read?_chars {decimal : Decimal} (wellFormed : decimal.WellFormed) :
    Decimal.read? decimal.chars = some decimal := by
  have digits := wellFormed.digits
  rw [Decimal.digits, List.forall_mem_append] at digits
  have stops : ∀ c ∈ (decimal.pointChars ++ decimal.exponentChars).head?, c.isDigit = false := by
    intro c first
    unfold Decimal.pointChars at first
    split at first
    · exact (decimal.exponentChars_stops c first).1
    · cases first
      rfl
  obtain ⟨taken, left⟩ := longestRun_iff.1 ⟨rfl, digits.1, stops⟩
  have unsigned := not_minus_of_digits wellFormed.filled digits.1
    (decimal.pointChars ++ decimal.exponentChars)
  simp only [Decimal.read?, Decimal.chars, splitSign_signChars _ unsigned, taken, left,
    wellFormed.filled, if_false, readFraction?_pointChars decimal digits.2,
    readExponent?_exponentChars, Option.map_some]

/-- The characters of decimals. -/
def isNumeral (c : Char) : Bool := c.isDigit || ['-', '.', 'E'].contains c

theorem isNumeral_of_mem_signChars {negative : Bool} {c : Char} (member : c ∈ signChars negative) :
    isNumeral c = true := by
  cases negative with
  | false => cases member
  | true =>
    obtain rfl := List.mem_singleton.1 member
    rfl

theorem isNumeral_of_mem_intChars {value : Int} {c : Char} (member : c ∈ intChars value) :
    isNumeral c = true := by
  rcases List.mem_append.1 member with member | member
  · exact isNumeral_of_mem_signChars member
  · rw [isNumeral, isDigit_of_mem_toDigits member]
    rfl

/-- A decimal has nothing but digits, signs, a point and the letter of its exponent. -/
theorem Decimal.WellFormed.isNumeral_of_mem_chars {decimal : Decimal}
    (wellFormed : decimal.WellFormed) {c : Char} (member : c ∈ decimal.chars) :
    isNumeral c = true := by
  have digits : ∀ c ∈ decimal.digits, isNumeral c = true := by
    intro c member
    rw [isNumeral, wellFormed.digits c member]
    rfl
  rw [Decimal.digits, List.forall_mem_append] at digits
  rw [Decimal.chars, List.mem_append, List.mem_append, List.mem_append] at member
  rcases member with member | member | member | member
  · exact isNumeral_of_mem_signChars member
  · exact digits.1 c member
  · unfold Decimal.pointChars at member
    split at member
    · cases member
    · rcases List.mem_cons.1 member with rfl | member
      · rfl
      · exact digits.2 c member
  · unfold Decimal.exponentChars at member
    split at member
    · rcases List.mem_cons.1 member with rfl | member
      · rfl
      · exact isNumeral_of_mem_intChars member
    · cases member

theorem Decimal.WellFormed.chars_ne_nil {decimal : Decimal} (wellFormed : decimal.WellFormed) :
    decimal.chars ≠ [] := by
  intro empty
  rw [Decimal.chars, List.append_eq_nil_iff, List.append_eq_nil_iff] at empty
  exact wellFormed.filled empty.2.1

/-- A point is written before digits only. -/
theorem Decimal.WellFormed.point_mem_chars_iff {decimal : Decimal}
    (wellFormed : decimal.WellFormed) : '.' ∈ decimal.chars ↔ decimal.fraction ≠ [] := by
  have digits := wellFormed.digits
  rw [Decimal.digits, List.forall_mem_append] at digits
  have sign : ∀ negative, '.' ∉ signChars negative := by
    intro negative member
    cases negative <;> simp [signChars] at member
  have exponent : '.' ∉ decimal.exponentChars := by
    unfold Decimal.exponentChars
    split
    next exponent =>
      intro member
      rcases List.mem_cons.1 member with same | member
      · exact absurd same (by decide)
      · rcases List.mem_append.1 member with member | member
        · exact sign _ member
        · exact absurd (isDigit_of_mem_toDigits member) (by decide)
    next => exact List.not_mem_nil
  have whole : '.' ∉ decimal.whole := by
    intro member
    exact absurd (digits.1 '.' member) (by decide)
  rw [Decimal.chars, List.mem_append, or_iff_right (sign _), List.mem_append, or_iff_right whole,
    List.mem_append, or_iff_left exponent, Decimal.pointChars]
  split
  next none => simp [none]
  next some => simp [some]

end Text

/-! ## Whole numbers

A number has one written form, and it is read from others as well: with zeros before its digits, and
with a plus sign before these.  There are no more forms than that.
-/

namespace Text

/-- A further digit makes the digits before it count ten times. -/
theorem digitsValue_append_singleton (digits : List Char) (c : Char) :
    digitsValue (digits ++ [c]) = 10 * digitsValue digits + digitValue c := by
  rw [digitsValue, digitsValue, List.foldl_append, List.foldl_cons, List.foldl_nil, Nat.mul_comm]

/-- The written form of the value of a digit is the digit. -/
theorem toDigits_digitValue {c : Char} (digit : c.isDigit = true) :
    digitValue c < 10 ∧ Nat.toDigits 10 (digitValue c) = [c] := by
  have range : '0'.toNat ≤ c.toNat ∧ c.toNat ≤ '9'.toNat := by
    simpa [Char.isDigit, Char.le_def, UInt32.le_iff_toNat_le] using digit
  have bounds : '0'.toNat = 48 ∧ '9'.toNat = 57 := by decide
  have small : digitValue c < 10 := by
    rw [digitValue]
    omega
  refine ⟨small, ?_⟩
  rw [Nat.toDigits_of_lt_base small, List.cons.injEq]
  refine ⟨Char.toNat_inj.1 ?_, rfl⟩
  rw [Nat.toNat_digitChar_of_lt_ten small, digitValue]
  omega

/-- Digits are zeros and the written form of their value, which is left out if it is zero. -/
theorem eq_zeros_append {digits : List Char} (each : ∀ c ∈ digits, c.isDigit = true) :
    ∃ zeros, digits = List.replicate zeros '0' ++
      if digitsValue digits = 0 then [] else Nat.toDigits 10 (digitsValue digits) := by
  induction digits using List.reverseRecOn with
  | nil => exact ⟨0, rfl⟩
  | append_singleton digits c inductionHypothesis =>
    obtain ⟨eachFirst, last⟩ := List.forall_mem_append.1 each
    obtain ⟨small, written⟩ := toDigits_digitValue (last c List.mem_cons_self)
    obtain ⟨zeros, split⟩ := inductionHypothesis eachFirst
    rw [digitsValue_append_singleton]
    by_cases noValue : digitsValue digits = 0
    · rw [if_pos noValue, List.append_nil] at split
      rw [noValue, Nat.mul_zero, Nat.zero_add]
      by_cases zero : digitValue c = 0
      · obtain rfl : '0' = c := by simpa [zero] using written
        refine ⟨zeros + 1, ?_⟩
        rw [if_pos zero, List.append_nil, List.replicate_succ', ← split]
      · exact ⟨zeros, by rw [if_neg zero, written, ← split]⟩
    · rw [if_neg noValue] at split
      have positive : 0 < digitsValue digits := Nat.pos_of_ne_zero noValue
      refine ⟨zeros, ?_⟩
      rw [if_neg (by omega), ← Nat.toDigits_append_toDigits (by decide) positive small, written,
        ← List.append_assoc, ← split]

/-- Whether ASCII digits denote a number: they are its written form, behind zeros if there are any
more. -/
def Denotes (digits : List Char) (n : Nat) : Prop :=
  ∃ zeros, digits = List.replicate zeros '0' ++ Nat.toDigits 10 n

variable {digits : List Char} {n : Nat}

theorem Denotes.ne_nil (denotes : Denotes digits n) : digits ≠ [] := by
  obtain ⟨zeros, rfl⟩ := denotes
  simp [Nat.toDigits_ne_nil]

theorem Denotes.isDigit (denotes : Denotes digits n) : ∀ c ∈ digits, c.isDigit = true := by
  obtain ⟨zeros, rfl⟩ := denotes
  intro c member
  rcases List.mem_append.1 member with zero | digit
  · rw [List.eq_of_mem_replicate zero]
    rfl
  · exact isDigit_of_mem_toDigits digit

/-- Digits denote no other number than their value. -/
theorem Denotes.digitsValue_eq (denotes : Denotes digits n) : digitsValue digits = n := by
  obtain ⟨zeros, rfl⟩ := denotes
  rw [digitsValue_zeros_append, digitsValue_toDigits]

/-- Digits denote their value; of zeros alone, the last is the written form.  The relation asks for
zeros and a written form, so a row of zeros has to be split before its end. -/
theorem denotes_digitsValue (each : ∀ c ∈ digits, c.isDigit = true) (filled : digits ≠ []) :
    Denotes digits (digitsValue digits) := by
  obtain ⟨zeros, split⟩ := eq_zeros_append each
  by_cases noValue : digitsValue digits = 0
  · rw [if_pos noValue, List.append_nil] at split
    cases zeros with
    | zero => exact absurd split filled
    | succ zeros =>
      refine ⟨zeros, ?_⟩
      rw [noValue, Nat.toDigits_zero, ← List.replicate_succ', ← split]
  · exact ⟨zeros, by rwa [if_neg noValue] at split⟩

/-- Digits are read exactly as the number that they denote, if it is within the bound.  This is all
that other modules know of how numbers are read. -/
theorem digitsWithin?_eq_some_iff {bound : Nat} :
    digitsWithin? bound digits = some n ↔ n ≤ bound ∧ Denotes digits n := by
  unfold digitsWithin?
  simp only [Bool.and_eq_true, decide_eq_true_eq, List.all_eq_true, Option.ite_none_right_eq_some,
    Option.some.injEq]
  constructor
  · rintro ⟨⟨⟨filled, each⟩, within⟩, rfl⟩
    exact ⟨within, denotes_digitsValue each filled⟩
  · rintro ⟨within, denotes⟩
    rw [denotes.digitsValue_eq]
    exact ⟨⟨⟨denotes.ne_nil, denotes.isDigit⟩, within⟩, rfl⟩

/-- A plus sign, or nothing. -/
def plusChars (signed : Bool) : List Char := if signed then ['+'] else []

/-- A text is read as a number if it is a plus sign or nothing, zeros, and the written form of the
number.  So there are many texts of one number, but no other text is read. -/
theorem readNat?_eq_some_iff {bound : Nat} {text : String} :
    readNat? bound text = some n ↔
      n ≤ bound ∧ ∃ signed zeros,
        text.toList = plusChars signed ++ (List.replicate zeros '0' ++ Nat.toDigits 10 n) := by
  unfold readNat?
  split
  next digits sign =>
    rw [digitsWithin?_eq_some_iff, sign]
    refine and_congr_right fun _ => ⟨?_, ?_⟩
    · rintro ⟨zeros, rfl⟩
      exact ⟨true, zeros, rfl⟩
    · rintro ⟨signed, zeros, same⟩
      cases signed with
      | true => exact ⟨zeros, List.tail_eq_of_cons_eq same⟩
      | false =>
        have plus : '+' ∈ List.replicate zeros '0' ++ Nat.toDigits 10 n :=
          same ▸ List.mem_cons_self
        have denotes : Denotes _ n := ⟨zeros, rfl⟩
        exact absurd (denotes.isDigit '+' plus) (by decide)
  next unsigned =>
    rw [digitsWithin?_eq_some_iff]
    refine and_congr_right fun _ => ⟨?_, ?_⟩
    · rintro ⟨zeros, same⟩
      exact ⟨false, zeros, same⟩
    · rintro ⟨signed, zeros, same⟩
      cases signed with
      | true => exact absurd same (unsigned _)
      | false => exact ⟨zeros, same⟩

end Text

end Pushdown
