/-
Module: Pushdown.Proofs.Double.Rounding
Purpose: Rounding of numbers to doubles, and the steps between one double and the next.
Main exports: Double.magnitude, Double.Rounds, Double.rung, Double.rung_succ,
  Double.rounds_iff_between, Double.Rounds.unique
-/
import Mathlib.Algebra.Order.Field.Power
import Mathlib.Algebra.Order.Ring.Rat
import Mathlib.Data.Rat.Cast.Defs
import Mathlib.Tactic.FieldSimp
import Mathlib.Tactic.Linarith
import Mathlib.Tactic.NormNum
import Mathlib.Tactic.Positivity
import Mathlib.Tactic.Ring
import Pushdown.Number

namespace Pushdown.Double

/-!
A number rounds to the finite double that is nearest to it, and of two that are equally near to the
one with the even significand; from the middle between the greatest double and the power of two
behind it on, numbers are too large.  Signs take no part in this.

The magnitudes of doubles grow with their bits, so they are the rungs of a ladder, which can be
continued beyond the greatest double.  Only the two rungs beside a double can compete with it: a
number rounds to it exactly if it lies between the middles to these two, and on such a middle only
if the significand is even.
-/

/-- The number that a finite double stands for, without its sign. -/
def magnitude (x : Double) : ℚ := x.significand * 2 ^ x.exponent

/-- From here on numbers are too large for a double. -/
def overflow : ℚ := 2 ^ 1024 - 2 ^ 970

/-- Whether a number, given by its sign and its magnitude, rounds to a double. -/
structure Rounds (negative : Bool) (number : ℚ) (x : Double) : Prop where
  sign : x.isNegative = negative
  finite : x.isFinite = true
  bounded : number < overflow
  nearest : ∀ y : Double, y.isFinite = true →
    |number - x.magnitude| ≤ |number - y.magnitude|
  even : ∀ y : Double, y.isFinite = true → y.magnitude ≠ x.magnitude →
    |number - x.magnitude| = |number - y.magnitude| → x.significand % 2 = 0

/-! ### The ladder of magnitudes -/

/-- The distance from one rung to the next. -/
def rungStep (bits : Nat) : ℚ := 2 ^ (leastExponent + (bits / hiddenBit - 1 : Nat))

/-- How many such distances a rung is away from zero. -/
def rungCount (bits : Nat) : Nat := bits - (bits / hiddenBit - 1) * hiddenBit

/-- The magnitude with given bits; those from infinity on continue the ladder. -/
def rung (bits : Nat) : ℚ := rungCount bits * rungStep bits

theorem rungStep_pos (bits : Nat) : 0 < rungStep bits := by
  exact zpow_pos two_pos _

/-- The significand of a double is the number of steps below its rung. -/
theorem significand_eq (x : Double) : x.significand = rungCount x.magnitudeBits := by
  unfold significand rungCount exponentField fractionField hiddenBit
  split <;> omega

/-- The exponent grows by one with each power of two, and does not fall below the least one. -/
theorem exponent_eq (x : Double) :
    x.exponent = leastExponent + (x.magnitudeBits / hiddenBit - 1 : Nat) := by
  unfold exponent exponentField hiddenBit
  split <;> omega

/-- The magnitude of a double is the rung of its bits, so that neighbouring doubles are neighbouring
rungs. -/
theorem magnitude_eq (x : Double) : x.magnitude = rung x.magnitudeBits := by
  rw [magnitude, rung, rungStep, significand_eq, exponent_eq]

/-- Each rung is one step above the one before, also where the exponent changes: the last double of
one power of two is followed by the first of the next. -/
theorem rung_succ (bits : Nat) : rung (bits + 1) = rung bits + rungStep bits := by
  by_cases same : (bits + 1) / hiddenBit - 1 = bits / hiddenBit - 1
  · have count : rungCount (bits + 1) = rungCount bits + 1 := by
      unfold rungCount
      rw [same]
      unfold hiddenBit
      omega
    have step : rungStep (bits + 1) = rungStep bits := by
      unfold rungStep
      rw [same]
    rw [rung, rung, count, step, Nat.cast_add, Nat.cast_one]
    ring
  · -- The significand was the greatest; the least one counts steps of twice the size.
    have next : (bits + 1) / hiddenBit - 1 = bits / hiddenBit - 1 + 1 := by
      unfold hiddenBit at *
      omega
    have count : rungCount bits + 1 = 2 * rungCount (bits + 1) := by
      unfold rungCount
      rw [next]
      unfold hiddenBit at *
      omega
    have step : rungStep (bits + 1) = 2 * rungStep bits := by
      unfold rungStep
      rw [next, Nat.cast_add, Nat.cast_one, ← add_assoc, zpow_add_one₀ two_ne_zero]
      ring
    have counts : (rungCount bits : ℚ) + 1 = 2 * rungCount (bits + 1) := by exact_mod_cast count
    calc rung (bits + 1) = 2 * rungCount (bits + 1) * rungStep bits := by
          rw [rung, step]
          ring
      _ = rung bits + rungStep bits := by
          rw [← counts, rung]
          ring

theorem rung_strictMono : StrictMono rung := by
  apply strictMono_nat_of_lt_succ
  intro bits
  rw [rung_succ]
  exact lt_add_of_pos_right _ (rungStep_pos bits)

theorem rung_zero : rung 0 = 0 := by
  simp [rung, rungCount]

/-- The last bits tell whether a significand is even. -/
theorem rungCount_mod_two (bits : Nat) : rungCount bits % 2 = bits % 2 := by
  unfold rungCount hiddenBit
  omega

/-- The step at a rung is a power of two that its bits tell. -/
theorem rungStep_eq {bits exponent : Nat}
    (same : leastExponent + (bits / hiddenBit - 1 : Nat) = exponent) :
    rungStep bits = 2 ^ exponent := by
  rw [rungStep, same, zpow_natCast]

/-- Where infinity stands, the ladder has the power of two behind the greatest double.  So the
greatest double has a next rung like any other, and overflow is rounding to that rung. -/
theorem rung_infinityBits : rung infinityBits = 2 ^ 1024 := by
  have count : rungCount infinityBits = 2 ^ 52 := by decide
  have step : rungStep infinityBits = 2 ^ 972 := rungStep_eq (by decide)
  rw [rung, count, step, Nat.cast_pow, Nat.cast_ofNat, ← pow_add]

/-- Too large is what lies behind the middle to that rung.  The bound for overflow needs no case of
its own in the proofs about middles. -/
theorem two_mul_overflow : 2 * overflow = rung (infinityBits - 1) + rung infinityBits := by
  have below := rung_succ (infinityBits - 1)
  have step : rungStep (infinityBits - 1) = 2 ^ 971 := rungStep_eq (by decide)
  have top : infinityBits - 1 + 1 = infinityBits := by decide
  have twice : (2 : ℚ) ^ 971 = 2 * 2 ^ 970 := pow_succ' 2 970
  rw [top, step, rung_infinityBits, twice] at below
  rw [rung_infinityBits, overflow]
  -- The powers are too large to be multiplied out.
  generalize (2 : ℚ) ^ 1024 = above at *
  generalize (2 : ℚ) ^ 970 = half at *
  linarith

/-! ### Doubles by their bits -/

/-- A double is known by its sign and its other bits. -/
theorem eq_of_bits {x y : Double} (sign : x.isNegative = y.isNegative)
    (bits : x.magnitudeBits = y.magnitudeBits) : x = y := by
  have bound := x.bits.toNat_lt
  have otherBound := y.bits.toNat_lt
  unfold isNegative at sign
  unfold magnitudeBits at bits
  have same : x.bits.toNat = y.bits.toNat := by
    rw [decide_eq_decide] at sign
    unfold signBit at sign bits
    omega
  cases x
  cases y
  exact congrArg Double.mk (UInt64.toNat_inj.1 same)

theorem magnitudeBits_ofMagnitude (negative : Bool) {bits : Nat} (bound : bits < infinityBits) :
    (ofMagnitude negative bits).magnitudeBits = bits := by
  unfold infinityBits at bound
  simp only [ofMagnitude, magnitudeBits, signBit, UInt64.toNat_ofNat']
  split <;> omega

theorem isNegative_ofMagnitude (negative : Bool) {bits : Nat} (bound : bits < infinityBits) :
    (ofMagnitude negative bits).isNegative = negative := by
  unfold infinityBits at bound
  simp only [ofMagnitude, isNegative, signBit, UInt64.toNat_ofNat']
  cases negative with
  | false =>
    rw [decide_eq_false_iff_not, if_neg Bool.false_ne_true]
    omega
  | true =>
    rw [decide_eq_true_eq, if_pos rfl]
    omega

/-- The finite doubles are those below infinity. -/
theorem isFinite_iff (x : Double) : x.isFinite = true ↔ x.magnitudeBits < infinityBits := by
  rw [isFinite, decide_eq_true_eq]

/-- Every rung below infinity is the magnitude of a double.  Doubles may be replaced by rungs, which
are numbered in order. -/
theorem exists_magnitude {bits : Nat} (bound : bits < infinityBits) :
    ∃ y : Double, y.isFinite = true ∧ y.magnitudeBits = bits ∧ y.magnitude = rung bits := by
  have same := magnitudeBits_ofMagnitude false bound
  refine ⟨ofMagnitude false bits, ?_, same, ?_⟩
  · rwa [isFinite_iff, same]
  · rw [magnitude_eq, same]

/-! ### Numbers between two middles -/

/-- Whether a number is below another one, or equal to it if the bound belongs to the range. -/
def AtMost (closed : Bool) (left right : ℚ) : Prop := if closed then left ≤ right else left < right

namespace AtMost

variable {closed : Bool} {left right other : ℚ}

/-- A bound holds in any case, whether it belongs to the range or not. -/
theorem le (atMost : AtMost closed left right) : left ≤ right := by
  cases closed with
  | true => exact atMost
  | false => exact le_of_lt atMost

theorem of_lt (less : left < right) : AtMost closed left right := by
  cases closed with
  | true => exact le_of_lt less
  | false => exact less

theorem of_le (le : left ≤ right) (equal : left = right → closed = true) :
    AtMost closed left right := by
  cases closed with
  | true => exact le
  | false => exact lt_of_le_of_ne le fun same => nomatch equal same

theorem trans_le (atMost : AtMost closed left right) (le : right ≤ other) :
    AtMost closed left other := by
  cases closed with
  | true => exact le_trans atMost le
  | false => exact lt_of_lt_of_le atMost le

theorem le_trans' (le : other ≤ left) (atMost : AtMost closed left right) :
    AtMost closed other right := by
  cases closed with
  | true => exact le_trans le atMost
  | false => exact lt_of_le_of_lt le atMost

/-- A bound that is reached belongs to the range. -/
theorem closed_of_le (atMost : AtMost closed left right) (le : right ≤ left) : closed = true := by
  cases closed with
  | true => rfl
  | false => exact absurd atMost (not_lt.2 le)

end AtMost

/-- Whether a number lies between the middles to the rungs beside one, these included if the last
bit is zero. -/
structure Between (bits : Nat) (number : ℚ) : Prop where
  lower : ∀ below, below + 1 = bits →
    AtMost (bits % 2 == 0) (rung below + rung bits) (2 * number)
  upper : AtMost (bits % 2 == 0) (2 * number) (rung bits + rung (bits + 1))

section Distance

variable {number near far : ℚ}

/-- Of two numbers the smaller one is nearer to what lies below their middle. -/
theorem abs_sub_le_iff_of_lt (less : near < far) :
    |number - near| ≤ |number - far| ↔ 2 * number ≤ near + far := by
  have squares : (number - far) ^ 2 - (number - near) ^ 2 =
      (far - near) * (near + far - 2 * number) := by ring
  rw [← sq_le_sq, ← sub_nonneg, squares, mul_nonneg_iff_of_pos_left (sub_pos.2 less), sub_nonneg]

/-- Of two numbers the greater one is nearer to what lies above their middle. -/
theorem abs_sub_le_iff_of_gt (less : far < near) :
    |number - near| ≤ |number - far| ↔ far + near ≤ 2 * number := by
  have squares : (number - far) ^ 2 - (number - near) ^ 2 =
      (near - far) * (2 * number - (far + near)) := by ring
  rw [← sq_le_sq, ← sub_nonneg, squares, mul_nonneg_iff_of_pos_left (sub_pos.2 less), sub_nonneg]

/-- On their middle two numbers are equally near. -/
theorem abs_sub_eq_iff (differ : near ≠ far) :
    |number - near| = |number - far| ↔ 2 * number = near + far := by
  have squares : (number - near) ^ 2 - (number - far) ^ 2 =
      (far - near) * (2 * number - (near + far)) := by ring
  rw [← sq_eq_sq_iff_abs_eq_abs, ← sub_eq_zero, squares, mul_eq_zero, sub_eq_zero, sub_eq_zero]
  exact or_iff_right fun same => differ same.symm

end Distance

section Rounds

variable {negative : Bool} {number : ℚ} {x y : Double}

/-- The last bit tells whether the significand is even, which is what decides a tie.  It is a fact
about bits on one side and about counts of steps on the other. -/
theorem even_iff (x : Double) : (x.magnitudeBits % 2 == 0) = true ↔ x.significand % 2 = 0 := by
  rw [beq_iff_eq, significand_eq, rungCount_mod_two]

/-- A number that rounds to a double lies between the middles beside it.  Its two neighbours are
enough to see this; the converse has to look at all doubles. -/
theorem Rounds.between (rounds : Rounds negative number x) : Between x.magnitudeBits number := by
  have finite := (isFinite_iff x).1 rounds.finite
  constructor
  · intro below next
    obtain ⟨y, yFinite, -, magnitude⟩ := exists_magnitude (show below < infinityBits by omega)
    have less : rung below < rung x.magnitudeBits := rung_strictMono (by omega)
    have nearest := rounds.nearest y yFinite
    have even := rounds.even y yFinite
    rw [magnitude, magnitude_eq] at nearest even
    apply AtMost.of_le
    · exact (abs_sub_le_iff_of_gt less).1 nearest
    · intro same
      rw [even_iff]
      apply even (ne_of_lt less)
      rw [abs_sub_eq_iff (ne_of_gt less), ← same, add_comm]
  · by_cases top : x.magnitudeBits + 1 < infinityBits
    · obtain ⟨y, yFinite, -, magnitude⟩ := exists_magnitude top
      have less : rung x.magnitudeBits < rung (x.magnitudeBits + 1) :=
        rung_strictMono (Nat.lt_succ_self _)
      have nearest := rounds.nearest y yFinite
      have even := rounds.even y yFinite
      rw [magnitude, magnitude_eq] at nearest even
      apply AtMost.of_le
      · exact (abs_sub_le_iff_of_lt less).1 nearest
      · intro same
        rw [even_iff]
        apply even (ne_of_gt less)
        rw [abs_sub_eq_iff (ne_of_lt less), same]
    · have last : x.magnitudeBits = infinityBits - 1 := by omega
      have next : x.magnitudeBits + 1 = infinityBits := by omega
      apply AtMost.of_lt
      rw [next, last, ← two_mul_overflow]
      exact mul_lt_mul_of_pos_left rounds.bounded two_pos

/-- A number between the middles beside a finite double is small enough. -/
theorem Between.lt_overflow (between : Between x.magnitudeBits number)
    (finite : x.isFinite = true) : number < overflow := by
  have inside := (isFinite_iff x).1 finite
  have upper := between.upper
  have twice : 2 * number < 2 * overflow := by
    rw [two_mul_overflow]
    by_cases top : x.magnitudeBits + 1 < infinityBits
    · have low : rung x.magnitudeBits < rung (infinityBits - 1) := rung_strictMono (by omega)
      have high : rung (x.magnitudeBits + 1) < rung infinityBits := rung_strictMono top
      exact lt_of_le_of_lt upper.le (add_lt_add low high)
    · have last : x.magnitudeBits = infinityBits - 1 := by omega
      have next : x.magnitudeBits + 1 = infinityBits := by omega
      have odd : (x.magnitudeBits % 2 == 0) = false := by
        rw [last]
        decide
      rw [odd, next, last] at upper
      exact upper
  exact lt_of_mul_lt_mul_left twice zero_le_two

/-- A number between the middles beside a finite double rounds to it.  All other doubles are at
least as far away as one of the two neighbours. -/
theorem Between.rounds (between : Between x.magnitudeBits number) (finite : x.isFinite = true)
    (sign : x.isNegative = negative) : Rounds negative number x where
  sign := sign
  finite := finite
  bounded := between.lt_overflow finite
  nearest := by
    -- The rungs of other doubles are at least as far away as the neighbours of this one.
    intro y _
    rw [magnitude_eq, magnitude_eq]
    rcases lt_trichotomy x.magnitudeBits y.magnitudeBits with above | same | below
    · rw [abs_sub_le_iff_of_lt (rung_strictMono above)]
      have next : rung (x.magnitudeBits + 1) ≤ rung y.magnitudeBits :=
        rung_strictMono.monotone above
      have upper := between.upper.le
      linarith
    · rw [same]
    · rw [abs_sub_le_iff_of_gt (rung_strictMono below)]
      obtain ⟨before, next⟩ : ∃ before, before + 1 = x.magnitudeBits :=
        ⟨x.magnitudeBits - 1, by omega⟩
      have previous : rung y.magnitudeBits ≤ rung before := rung_strictMono.monotone (by omega)
      have lower := (between.lower before next).le
      linarith
  even := by
    intro y _ differ tie
    rw [magnitude_eq, magnitude_eq] at differ tie
    rw [abs_sub_eq_iff differ.symm] at tie
    rw [← even_iff]
    rcases lt_trichotomy x.magnitudeBits y.magnitudeBits with above | same | below
    · have next : rung (x.magnitudeBits + 1) ≤ rung y.magnitudeBits :=
        rung_strictMono.monotone above
      apply between.upper.closed_of_le
      linarith
    · exact absurd (congrArg rung same.symm) differ
    · obtain ⟨before, next⟩ : ∃ before, before + 1 = x.magnitudeBits :=
        ⟨x.magnitudeBits - 1, by omega⟩
      have previous : rung y.magnitudeBits ≤ rung before := rung_strictMono.monotone (by omega)
      apply (between.lower before next).closed_of_le
      linarith

/-- Rounding to a finite double is lying between the middles beside it.  This turns a statement
about all doubles into two inequalities. -/
theorem rounds_iff_between (finite : x.isFinite = true) (sign : x.isNegative = negative) :
    Rounds negative number x ↔ Between x.magnitudeBits number :=
  ⟨Rounds.between, fun between => between.rounds finite sign⟩

/-- A double rounds to itself.  Its literal has to be as near to it as this, or the text would be
read as another one. -/
theorem rounds_magnitude (finite : x.isFinite = true) : Rounds x.isNegative x.magnitude x := by
  rw [rounds_iff_between finite rfl, magnitude_eq]
  constructor
  · intro below next
    have less : rung below < rung x.magnitudeBits := rung_strictMono (by omega)
    apply AtMost.of_lt
    linarith
  · have less : rung x.magnitudeBits < rung (x.magnitudeBits + 1) :=
      rung_strictMono (Nat.lt_succ_self _)
    apply AtMost.of_lt
    linarith

/-- No number lies between the middles beside a rung and between those beside a higher one. -/
theorem Between.not_lt {bits other : Nat} (between : Between bits number)
    (otherBetween : Between other number) : ¬ bits < other := by
  intro less
  obtain ⟨before, next⟩ : ∃ before, before + 1 = other := ⟨other - 1, by omega⟩
  have low : rung bits ≤ rung before := rung_strictMono.monotone (by omega)
  have high : rung (bits + 1) ≤ rung other := rung_strictMono.monotone less
  have upper := between.upper
  have lower := otherBetween.lower before next
  have even := upper.closed_of_le (by have := lower.le; linarith)
  have otherEven := lower.closed_of_le (by have := upper.le; linarith)
  have adjacent : bits + 1 = other := by
    apply rung_strictMono.injective
    have := lower.le
    have := upper.le
    linarith
  rw [beq_iff_eq] at even otherEven
  omega

/-- A number rounds to one double at most: no number lies between the middles beside two different
doubles. -/
theorem Rounds.unique (rounds : Rounds negative number x) (other : Rounds negative number y) :
    x = y := by
  apply eq_of_bits (rounds.sign.trans other.sign.symm)
  have notLess := rounds.between.not_lt other.between
  have notGreater := other.between.not_lt rounds.between
  omega

end Rounds

end Pushdown.Double
