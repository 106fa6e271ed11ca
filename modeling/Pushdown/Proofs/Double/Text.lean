/-
Module: Pushdown.Proofs.Double.Text
Purpose: The literal of a double as a decimal, and the number that it stands for.
Main exports: ShortDecimal.digits_spec, Double.decimal, Double.toList_scientific,
  Double.magnitude_decimal, Double.decimal_rounds, Double.not_rounds_of_fewer
-/
import Pushdown.Number
import Pushdown.Proofs.Decimal
import Pushdown.Proofs.Double.Shortest

namespace Pushdown

/-!
What is written of the shortest decimal are its digits up to the last one that is not zero, with a
point behind the first, and the exponent makes up for the point.  The zeros that are left out are
the ones that a decimal found on the first grid may have, so the digits that are written are not
more than those of the grid, and no decimal with fewer digits reads back.
-/

/-! ### Digits without trailing zeros -/

namespace ShortDecimal

/-- A text is what is left without its trailing zeros, and zeros. -/
theorem exists_trailing_zeros (text : List Char) :
    ∃ zeros, text = (text.reverse.dropWhile (· == '0')).reverse ++ List.replicate zeros '0' := by
  have split := List.takeWhile_append_dropWhile (p := (· == '0')) (l := text.reverse)
  have each : ∀ c ∈ text.reverse.takeWhile (· == '0'), c = '0' := by
    intro c member
    simpa using List.all_eq_true.1 List.all_takeWhile c member
  refine ⟨(text.reverse.takeWhile (· == '0')).length, ?_⟩
  have zeros := List.eq_replicate_of_mem each
  rw [zeros] at split
  have reversed := congrArg List.reverse split
  rw [List.reverse_append, List.reverse_replicate, List.reverse_reverse] at reversed
  exact reversed.symm

/-- What is left does not end in a zero. -/
theorem getLast?_trimmed_ne (text : List Char) :
    (text.reverse.dropWhile (· == '0')).reverse.getLast? ≠ some '0' := by
  rw [List.getLast?_reverse]
  intro last
  have trimmed := List.head?_dropWhile_not (· == '0') text.reverse
  rw [last] at trimmed
  simp at trimmed

variable (decimal : ShortDecimal)

theorem isDigit_digits {c : Char} (member : c ∈ decimal.digits.1) : c.isDigit = true := by
  unfold digits at member
  dsimp only at member
  split at member
  · obtain rfl := List.mem_singleton.1 member
    rfl
  · have kept := (List.dropWhile_suffix _).mem (List.mem_reverse.1 member)
    exact Text.isDigit_of_mem_toDigits (List.mem_reverse.1 kept)

theorem digits_ne_nil : decimal.digits.1 ≠ [] := by
  unfold digits
  dsimp only
  split
  · exact List.cons_ne_nil _ _
  · assumption

/-- Several digits do not end in a zero.  A text with one could be made shorter, so it would not be
the shortest. -/
theorem getLast?_digits_ne (several : 1 < decimal.digits.1.length) :
    decimal.digits.1.getLast? ≠ some '0' := by
  unfold digits at several ⊢
  dsimp only at several ⊢
  split at several
  · exact absurd several (Nat.lt_irrefl 1)
  next filled =>
    rw [if_neg filled]
    exact getLast?_trimmed_ne _

/-- The digits stand for the decimal. -/
theorem value_digits :
    (Text.digitsValue decimal.digits.1 : ℚ) *
        10 ^ (decimal.digits.2 + 1 - decimal.digits.1.length) =
      decimal.significand * 10 ^ decimal.exponent := by
  obtain ⟨zeros, split⟩ := exists_trailing_zeros (Nat.toDigits 10 decimal.significand)
  have value := Text.digitsValue_toDigits decimal.significand
  have length := congrArg List.length split
  rw [split, Text.digitsValue_append_zeros] at value
  rw [List.length_append, List.length_replicate] at length
  unfold digits
  dsimp only
  split
  next empty =>
    -- Only zero has no other digits.
    rw [empty] at value
    have nothing : decimal.significand = 0 := by
      rw [← value]
      exact Nat.zero_mul _
    rw [nothing]
    simp [Text.digitsValue, Text.digitValue]
  next filled =>
    generalize (List.dropWhile (· == '0') _).reverse = kept at *
    have exponent : decimal.exponent + (Nat.toDigits 10 decimal.significand).length - 1 + 1 -
        kept.length = decimal.exponent + zeros := by omega
    rw [exponent, ten_zpow_add, ← mul_assoc, ← Nat.cast_mul, value]

/-- A power of ten and what is below it have no more digits than its exponent says.  The power
itself has more, but they are zeros and are left out. -/
theorem length_digits_le {count : Nat} (positive : 0 < count)
    (bound : decimal.significand ≤ 10 ^ count) : decimal.digits.1.length ≤ count := by
  obtain ⟨zeros, split⟩ := exists_trailing_zeros (Nat.toDigits 10 decimal.significand)
  have trimmed := getLast?_trimmed_ne (Nat.toDigits 10 decimal.significand)
  have length := congrArg List.length split
  rw [List.length_append, List.length_replicate] at length
  unfold digits
  dsimp only
  split
  next => exact positive
  next filled =>
    rcases Nat.lt_or_eq_of_le bound with less | power
    · have short := (decimalLength_le_iff positive).2 less
      unfold decimalLength at short
      omega
    · -- The last digit of a power of ten is a zero that is left out.
      have long : 10 ≤ decimal.significand := by
        rw [power]
        exact Nat.le_self_pow (by omega) 10
      have last : decimal.significand % 10 = 0 := by
        rw [power]
        exact Nat.mod_eq_zero_of_dvd (dvd_pow_self 10 (by omega))
      have several : zeros ≠ 0 := by
        rintro rfl
        rw [List.replicate_zero, List.append_nil] at split
        rw [← split, Nat.toDigits_of_base_le (by decide) long, last] at trimmed
        exact trimmed (List.getLast?_concat)
      have next : decimal.significand < 10 ^ (count + 1) := by
        rw [power]
        exact Nat.pow_lt_pow_succ (by decide)
      have short := (decimalLength_le_iff (by omega)).2 next
      unfold decimalLength at short
      omega

end ShortDecimal

/-! ### The literal -/

namespace Double

variable (x : Double)

/-- The parts of the literal of a finite double. -/
def decimal : Text.Decimal where
  negative := x.isNegative
  whole := (x.shortestDigits .greater).1.take 1
  fraction := (x.shortestDigits .greater).1.drop 1
  exponent := some (x.shortestDigits .greater).2

/-- The decimal that is read from the text of a double has its shortest digits. -/
theorem digits_decimal : x.decimal.digits = (x.shortestDigits .greater).1 :=
  List.take_append_drop 1 _

theorem wellFormed_decimal : x.decimal.WellFormed := by
  constructor
  · intro empty
    have filled : (x.shortestDigits .greater).1 ≠ [] := ShortDecimal.digits_ne_nil _
    rcases List.take_eq_nil_iff.1 empty with none | none
    · cases none
    · exact filled none
  · intro c member
    rw [digits_decimal] at member
    exact ShortDecimal.isDigit_digits _ member

/-- The literal of a double consists of these parts: a sign, digits with a point behind the first,
and an exponent. -/
theorem toList_scientific : x.scientific.toList = x.decimal.chars := by
  have sign : x.signText.toList = Text.signChars x.isNegative := by
    unfold signText Text.signChars
    split <;> rfl
  have point : (pointAfterFirst (x.shortestDigits .greater).1).toList =
      x.decimal.whole ++ x.decimal.pointChars := by
    have filled : (x.shortestDigits .greater).1 ≠ [] := ShortDecimal.digits_ne_nil _
    unfold decimal Text.Decimal.pointChars
    dsimp only
    generalize (x.shortestDigits .greater).1 = digits at *
    match digits with
    | [] => exact absurd rfl filled
    | [digit] => exact String.toList_ofList
    | digit :: second :: rest => exact String.toList_ofList
  have exponent : ("E" ++ toString (x.shortestDigits .greater).2).toList =
      x.decimal.exponentChars := by
    rw [String.toList_append, Text.toList_toString_int]
    rfl
  unfold scientific
  dsimp only
  rw [String.append_assoc, String.append_assoc, String.toList_append, String.toList_append, sign,
    point, exponent, List.append_assoc]
  rfl

/-- One digit stands before the point, and no zero at the end of those behind it. -/
theorem scientific_decimal :
    (∃ digit, x.decimal.whole = [digit]) ∧ x.decimal.fraction.getLast? ≠ some '0' := by
  have filled : (x.shortestDigits .greater).1 ≠ [] := ShortDecimal.digits_ne_nil _
  have last := ShortDecimal.getLast?_digits_ne (x.shortest .greater)
  change 1 < (x.shortestDigits .greater).1.length →
    (x.shortestDigits .greater).1.getLast? ≠ some '0' at last
  unfold decimal
  dsimp only
  generalize (x.shortestDigits .greater).1 = digits at *
  match digits with
  | [] => exact absurd rfl filled
  | [digit] => exact ⟨⟨digit, rfl⟩, nofun⟩
  | digit :: second :: rest =>
    refine ⟨⟨digit, rfl⟩, ?_⟩
    intro zero
    apply last (by simp)
    rw [List.getLast?_cons_cons]
    exact zero

/-- The literal stands for the shortest decimal, with the sign of the double.  The exponent that is
written counts from the first digit, and the scale of the decimal from the last. -/
theorem magnitude_decimal :
    x.decimal.magnitude =
      (x.shortest .greater).significand * 10 ^ (x.shortest .greater).exponent := by
  have length : x.decimal.fraction.length + 1 = (x.shortestDigits .greater).1.length := by
    have filled : (x.shortestDigits .greater).1 ≠ [] := ShortDecimal.digits_ne_nil _
    have positive := List.length_pos_of_ne_nil filled
    unfold decimal
    rw [List.length_drop]
    omega
  rw [← ShortDecimal.value_digits, Text.Decimal.magnitude, digits_decimal, decimalValue]
  change (_ : ℚ) * 10 ^ (-((x.decimal.fraction.length : Int) - (x.shortestDigits .greater).2)) =
    Text.digitsValue (x.shortestDigits .greater).1 *
      10 ^ ((x.shortestDigits .greater).2 + 1 - (x.shortestDigits .greater).1.length)
  congr 2
  omega

variable {x}

/-- The literal of a finite double rounds to it, so a reader that rounds correctly gets the same
double back. -/
theorem decimal_rounds (finite : x.isFinite = true) :
    Rounds x.isNegative x.decimal.magnitude x := by
  rw [magnitude_decimal]
  cases nonzero : x.isZero with
  | false =>
    obtain ⟨count, -, -, readsBack, -⟩ := shortest_spec finite nonzero .greater
    exact (rounds_iff_contains finite nonzero).2 readsBack
  | true =>
    have zero : x.magnitudeBits = 0 := by simpa [isZero] using nonzero
    have magnitude : x.magnitude = 0 := by rw [magnitude_eq, zero, rung_zero]
    have self := rounds_magnitude finite
    rw [magnitude] at self
    unfold shortest
    rw [nonzero]
    simpa using self

/-- No decimal with fewer digits rounds to the double, whatever its exponent is.  Zeros at either
end do not count as digits. -/
theorem not_rounds_of_fewer (finite : x.isFinite = true) {significand : Nat} {exponent : Int}
    (fewer : decimalLength significand < x.decimal.digits.length) :
    ¬ Rounds x.isNegative (significand * 10 ^ exponent) x := by
  have positive := decimalLength_pos significand
  rw [digits_decimal] at fewer
  cases nonzero : x.isZero with
  | false =>
    obtain ⟨count, some, bound, -, shorter⟩ := shortest_spec finite nonzero .greater
    have digits := ShortDecimal.length_digits_le (x.shortest .greater) some bound
    change (x.shortestDigits .greater).1.length ≤ count at digits
    rw [rounds_iff_contains finite nonzero]
    apply shorter (decimalLength significand - 1) significand exponent (by omega)
    rw [Nat.sub_add_cancel positive]
    exact lt_pow_decimalLength significand
  | true =>
    -- Zero is written with a single digit.
    have single : (x.shortestDigits .greater).1.length = 1 := by
      unfold shortestDigits shortest
      rw [nonzero, if_pos rfl, ShortDecimal.digits, Nat.toDigits_zero]
      rfl
    omega

end Double

end Pushdown
