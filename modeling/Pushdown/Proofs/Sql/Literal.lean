/-
Module: Pushdown.Proofs.Sql.Literal
Purpose: The numbers that numeric literals of a statement stand for.
Main exports: ExactNumber.decimal, ExactNumber.toList_plain, ExactNumber.value_decimal,
  ExactNumber.eq_of_decimal_eq, Generator.statement_literal, Generator.exact_literal_value,
  Generator.double_literal_value
-/
import Pushdown.Number
import Pushdown.Proofs.Decimal
import Pushdown.Proofs.Dialect
import Pushdown.Proofs.Double.Nearest
import Pushdown.Proofs.Double.Text
import Pushdown.Sql.Render

namespace Pushdown

/-! ## Exact numbers

The digits of an exact number are cut at the point, with zeros before them if they are too few, or
continued by zeros if the point is behind them.  Neither changes what the digits stand for, and the
number of digits behind the point is that of the scale.
-/

namespace ExactNumber

variable (number : ExactNumber)

/-- The digits, with as many zeros before them as the places ask for. -/
def paddedDigits : List Char :=
  let digits := Nat.toDigits 10 number.unscaled.natAbs
  List.replicate (number.scale.toNat + 1 - digits.length) '0' ++ digits

/-- The parts of the plain text. -/
def decimal : Text.Decimal :=
  if number.scale ≤ 0 then
    { negative := decide (number.unscaled < 0)
      whole := Nat.toDigits 10 number.unscaled.natAbs ++
        List.replicate (-number.scale).toNat '0'
      fraction := []
      exponent := none }
  else
    let before := number.paddedDigits.length - number.scale.toNat
    { negative := decide (number.unscaled < 0)
      whole := number.paddedDigits.take before
      fraction := number.paddedDigits.drop before
      exponent := none }

/-- There is a digit before the point, if only a zero. -/
theorem length_paddedDigits : number.scale.toNat < number.paddedDigits.length := by
  rw [paddedDigits, List.length_append, List.length_replicate]
  omega

theorem isDigit_paddedDigits {c : Char} (member : c ∈ number.paddedDigits) : c.isDigit = true := by
  rcases List.mem_append.1 member with zero | digit
  · rw [List.eq_of_mem_replicate zero]
    rfl
  · exact Text.isDigit_of_mem_toDigits digit

theorem negative_decimal : number.decimal.negative = decide (number.unscaled < 0) := by
  unfold decimal
  split <;> rfl

theorem exponent_decimal : number.decimal.exponent = none := by
  unfold decimal
  split <;> rfl

/-- Behind the point there are as many digits as the scale says.  Zeros at the end are kept, so the
scale can be told from the text. -/
theorem length_fraction_decimal : number.decimal.fraction.length = number.scale.toNat := by
  have longer := number.length_paddedDigits
  unfold decimal
  split
  next notPositive =>
    rw [List.length_nil]
    omega
  next => rw [List.length_drop, Nat.sub_sub_self (Nat.le_of_lt longer)]

/-- An exact number is written as a decimal.  Its digits are digits and there is one before the
point, which is all that the reader asks for. -/
theorem wellFormed_decimal : number.decimal.WellFormed := by
  have longer := number.length_paddedDigits
  unfold decimal
  split
  · refine ⟨List.append_ne_nil_of_left_ne_nil Nat.toDigits_ne_nil _, ?_⟩
    intro c member
    rw [Text.Decimal.digits, List.append_nil] at member
    rcases List.mem_append.1 member with digit | zero
    · exact Text.isDigit_of_mem_toDigits digit
    · rw [List.eq_of_mem_replicate zero]
      rfl
  · refine ⟨?_, ?_⟩
    · apply List.ne_nil_of_length_pos
      rw [List.length_take]
      omega
    · intro c member
      rw [Text.Decimal.digits, List.take_append_drop] at member
      exact number.isDigit_paddedDigits member

/-- The plain text of an exact number consists of these parts: a sign, the digits before the point,
and those behind it, if there are any. -/
theorem toList_plain : number.plain.toList = number.decimal.chars := by
  have longer := number.length_paddedDigits
  have noExponent : number.decimal.exponentChars = [] := by
    rw [Text.Decimal.exponentChars, exponent_decimal]
  have sign : (if number.unscaled < 0 then ['-'] else []) =
      Text.signChars number.decimal.negative := by
    rw [negative_decimal, Text.signChars]
    simp only [decide_eq_true_eq]
  have magnitude : number.magnitudeText =
      number.decimal.whole ++ number.decimal.pointChars := by
    unfold magnitudeText decimal
    dsimp only
    split
    next => exact (List.append_nil _).symm
    next positive =>
      have filled : number.paddedDigits.drop
          (number.paddedDigits.length - number.scale.toNat) ≠ [] := by
        apply List.ne_nil_of_length_pos
        rw [List.length_drop]
        omega
      rw [Text.Decimal.pointChars, if_neg filled]
      rfl
  rw [plain, String.toList_ofList, sign, magnitude, Text.Decimal.chars, noExponent,
    List.append_nil]

/-- The digits of the parts stand for the magnitude. -/
theorem magnitude_decimal :
    number.decimal.magnitude = decimalValue number.unscaled.natAbs number.scale := by
  have places := number.length_fraction_decimal
  rw [Text.Decimal.magnitude, exponent_decimal, places]
  unfold decimal
  split
  next notPositive =>
    obtain ⟨zeros, scale⟩ : ∃ zeros : Nat, number.scale = -zeros :=
      ⟨(-number.scale).toNat, by omega⟩
    rw [Text.Decimal.digits, List.append_nil, Text.digitsValue_append_zeros,
      Text.digitsValue_toDigits, scale]
    have moved := decimalValue_add number.unscaled.natAbs (-zeros) zeros
    simpa using moved
  next positive =>
    rw [Text.Decimal.digits, List.take_append_drop, paddedDigits, Text.digitsValue_zeros_append,
      Text.digitsValue_toDigits]
    congr 1
    have whole : (number.scale.toNat : Int) = number.scale := Int.toNat_of_nonneg (by omega)
    simp [whole]

/-- The plain text of a number stands for it, to the last digit.  A negative scale is written out in
zeros. -/
theorem value_decimal :
    number.decimal.value = decimalValue number.unscaled number.scale := by
  rw [Text.Decimal.value, magnitude_decimal, negative_decimal]
  simp only [decide_eq_true_eq]
  split
  next negative =>
    have sign : (number.unscaled.natAbs : Int) = -number.unscaled := by omega
    rw [sign, decimalValue, decimalValue, Int.cast_neg, neg_mul, neg_neg]
  next positive =>
    have sign : (number.unscaled.natAbs : Int) = number.unscaled := by omega
    rw [sign]

variable {number} in
/-- Numbers without zeros to append have different texts.  Zeros that a negative scale appends
cannot be told from digits. -/
theorem eq_of_decimal_eq {other : ExactNumber} (whole : 0 ≤ number.scale)
    (otherWhole : 0 ≤ other.scale) (same : number.decimal = other.decimal) : number = other := by
  have places := number.length_fraction_decimal
  have scales : number.scale = other.scale := by
    rw [same, length_fraction_decimal] at places
    omega
  have values := number.value_decimal
  rw [same, value_decimal, scales, decimalValue_inj] at values
  cases number
  cases other
  simp only at scales values
  rw [scales, values]

end ExactNumber

/-! ## Doubles

A literal is written alike in all dialects.  An exact number has all digits of its unscaled number
and the point where the scale puts it; of a double the fewest digits are written that read back.
Reading the text of either as a decimal leads to the number again, for doubles after rounding.
-/

namespace Generator

/-- A literal alone makes a statement of its own text, if nesting is allowed at all.  A limit of
zero refuses even this. -/
theorem statement_literal (dialect : Dialect) (context : QueryContext) (limit : Nat)
    (literal : Literal) :
    (dialect.generator context (limit + 1)).statement (.literal literal) =
      (dialect.generator context (limit + 1)).literal literal := by
  have outer : ¬ (dialect.generator context (limit + 1)).depthLimit ≤ 0 :=
    Nat.not_succ_le_zero limit
  unfold statement renderFrom render Rendering.nested
  rw [if_neg outer]
  cases (dialect.generator context (limit + 1)).literal literal <;> rfl

/-- An exact number alone makes a statement in every dialect. -/
theorem statement_exact (dialect : Dialect) (context : QueryContext) (limit : Nat)
    (number : ExactNumber) :
    (dialect.generator context (limit + 1)).statement (.literal (.exact number)) =
      .ok (Sql.code number.plain) := by
  rw [statement_literal]
  rfl

theorem toText_code (text : String) : (Sql.code text).toText = text := by
  rw [Sql.toText, Sql.chars, Sql.code, List.flatMap_singleton, Span.chars, String.ofList_toList]

/-- Exact numeric literals keep value and scale.  The literal of a number is read as a decimal
without an exponent that stands for the number; it has as many digits behind the point as the scale
says, some before it, and a point only if the scale is positive.  Numbers without negative scales
can be told from their literals. -/
theorem exact_literal_value (dialect : Dialect) (context : QueryContext) (limit : Nat)
    (number : ExactNumber) :
    ∃ sql decimal,
      (dialect.generator context (limit + 1)).statement (.literal (.exact number)) = .ok sql ∧
      sql.toText.toList = decimal.chars ∧
      Text.Decimal.read? sql.toText.toList = some decimal ∧
      decimal.exponent = none ∧
      decimal.value = decimalValue number.unscaled number.scale ∧
      decimal.whole ≠ [] ∧
      decimal.fraction.length = number.scale.toNat ∧
      ('.' ∈ sql.toText.toList ↔ 0 < number.scale) ∧
      ∀ other otherSql,
        (dialect.generator context (limit + 1)).statement (.literal (.exact other)) =
          .ok otherSql →
        0 ≤ number.scale → 0 ≤ other.scale → otherSql.toText = sql.toText → other = number := by
  have text : (Sql.code number.plain).toText.toList = number.decimal.chars := by
    rw [toText_code, number.toList_plain]
  have read := Text.Decimal.read?_chars number.wellFormed_decimal
  refine ⟨Sql.code number.plain, number.decimal, ?rendered, text, ?read, ?exponent, ?value,
    ?whole, ?fraction, ?point, ?unique⟩
  case rendered => exact statement_exact dialect context limit number
  case read =>
    rw [text]
    exact read
  case exponent => exact number.exponent_decimal
  case value => exact number.value_decimal
  case whole => exact number.wellFormed_decimal.filled
  case fraction => exact number.length_fraction_decimal
  case point =>
    rw [text, number.wellFormed_decimal.point_mem_chars_iff, ← List.length_pos_iff,
      number.length_fraction_decimal]
    omega
  case unique =>
    intro other otherSql rendered whole otherWhole same
    rw [statement_exact] at rendered
    cases rendered
    have otherRead := Text.Decimal.read?_chars other.wellFormed_decimal
    rw [toText_code, toText_code] at same
    rw [← other.toList_plain, same, number.toList_plain, read] at otherRead
    exact (ExactNumber.eq_of_decimal_eq whole otherWhole (Option.some.inj otherRead)).symm

/-- The digits of `-12` with six places are fewer than the places, so zeros are put before them. -/
theorem exact_literal_value_padded :
    ∃ sql decimal,
      (Dialect.generic.generator {} 1).statement (.literal (.exact ⟨-12, 6⟩)) = .ok sql ∧
      sql.toText = "-0.000012" ∧
      Text.Decimal.read? sql.toText.toList = some decimal ∧
      decimal.value = decimalValue (-12) 6 := by
  obtain ⟨sql, decimal, rendered, -, read, -, value, -⟩ :=
    exact_literal_value .generic {} 0 ⟨-12, 6⟩
  refine ⟨sql, decimal, rendered, ?_, read, value⟩
  rw [statement_exact] at rendered
  cases rendered
  rw [toText_code]
  decide

theorem statement_double (dialect : Dialect) (context : QueryContext) (limit : Nat) {x : Double}
    (finite : x.isFinite = true) :
    (dialect.generator context (limit + 1)).statement (.literal (.double x)) =
      .ok (Sql.code x.scientific) := by
  rw [statement_literal, literal, if_pos finite]

/-- Double literals read back.  The literal of a finite double is scientific, with one digit before
the point and no zeros at the end of those behind it.  Read as a decimal it rounds to that double
and to no other, and so does any ratio that is the decimal; no decimal with fewer digits rounds to
the double.  There are no literals of other doubles. -/
theorem double_literal_value (dialect : Dialect) (context : QueryContext) (limit : Nat)
    (x : Double) :
    (x.isFinite = true →
      ∃ sql decimal,
        (dialect.generator context (limit + 1)).statement (.literal (.double x)) = .ok sql ∧
        sql.toText.toList = decimal.chars ∧
        Text.Decimal.read? sql.toText.toList = some decimal ∧
        (∃ digit, decimal.whole = [digit]) ∧
        decimal.fraction.getLast? ≠ some '0' ∧
        decimal.exponent.isSome = true ∧
        (∀ y, Double.Rounds decimal.negative decimal.magnitude y ↔ y = x) ∧
        (∀ numerator denominator : Nat, 0 < denominator →
          (numerator : ℚ) / denominator = decimal.magnitude →
          Double.ofRatio decimal.negative numerator denominator = x) ∧
        ∀ negative (significand : Nat) (exponent : Int),
          decimalLength significand < decimal.digits.length →
          ¬ Double.Rounds negative (significand * 10 ^ exponent) x) ∧
    (x.isFinite = false →
      (dialect.generator context (limit + 1)).statement (.literal (.double x)) =
        .error (.invalidLiteral (.notFinite x))) := by
  constructor
  · intro finite
    have rendered := statement_double dialect context limit finite
    have text : (Sql.code x.scientific).toText.toList = x.decimal.chars := by
      rw [toText_code, x.toList_scientific]
    have rounds := Double.decimal_rounds finite
    obtain ⟨single, last⟩ := x.scientific_decimal
    refine ⟨Sql.code x.scientific, x.decimal, rendered, text, ?read, single, last, rfl, ?only,
      ?ratio, ?fewer⟩
    case read =>
      rw [text]
      exact Text.Decimal.read?_chars x.wellFormed_decimal
    -- The literal rounds to the double, and no number rounds to two doubles.
    case only =>
      intro y
      constructor
      · intro other
        exact other.unique rounds
      · rintro rfl
        exact rounds
    case ratio =>
      intro numerator denominator positive same
      have bounded := rounds.bounded
      have nearest := Double.ofRatio_rounds x.isNegative positive (by rwa [same])
      rw [same] at nearest
      exact nearest.unique rounds
    case fewer =>
      intro negative significand exponent fewer other
      have sign := other.sign
      subst sign
      exact Double.not_rounds_of_fewer finite fewer other
  · intro notFinite
    rw [statement_literal, literal, if_neg (by rw [notFinite]; exact Bool.false_ne_true)]

/-- The greatest double below zero is written with one digit, and only this double is read from
it. -/
theorem double_literal_value_least :
    ∃ sql decimal,
      (Dialect.generic.generator {} 1).statement (.literal (.double ⟨0x8000000000000001⟩)) =
        .ok sql ∧
      sql.toText = "-5E-324" ∧
      Text.Decimal.read? sql.toText.toList = some decimal ∧
      ∀ y, Double.Rounds decimal.negative decimal.magnitude y ↔ y = ⟨0x8000000000000001⟩ := by
  have finite : Double.isFinite ⟨0x8000000000000001⟩ = true := by decide
  obtain ⟨sql, decimal, rendered, -, read, -, -, -, rounds, -, -⟩ :=
    (double_literal_value .generic {} 0 ⟨0x8000000000000001⟩).1 finite
  refine ⟨sql, decimal, rendered, ?_, read, rounds⟩
  rw [statement_double _ _ _ finite] at rendered
  cases rendered
  rw [toText_code]
  decide +kernel

end Generator

end Pushdown
