/-
Module: Pushdown.Proofs.Double.Shortest
Purpose: The search for the shortest decimal finds one that reads back, and none shorter does.
Main exports: Double.Interval.Contains, Double.Interval.holds_iff,
  Double.Interval.Contains.convex, Double.rounds_iff_contains, Double.floorLog10_spec,
  Double.ReadsBack, Double.exists_readsBack_of_seventeen, Double.shortest_spec
-/
import Mathlib.Algebra.Order.Floor.Div
import Pushdown.Number
import Pushdown.Proofs.Double.Rounding

namespace Pushdown

/-! ## Intervals

The interval of a double is given in quarters of its last place, so its ends are whole numbers: the
next double is four quarters away, and the one below is, too, unless it has the next smaller
exponent.  The middles to both are then one or two quarters away, and the interval between them is
the set of numbers that round to the double.
-/

namespace Double

/-! ### Intervals over numbers -/

theorem AtMost.mul_left_iff {closed : Bool} {factor left right : ℚ} (positive : 0 < factor) :
    AtMost closed (factor * left) (factor * right) ↔ AtMost closed left right := by
  cases closed with
  | true => exact mul_le_mul_iff_right₀ positive
  | false => exact mul_lt_mul_iff_right₀ positive

namespace Interval

variable {interval : Interval} {unit number : ℚ}

/-- Whether a number lies in an interval, with the unit in which the interval is given. -/
def Contains (interval : Interval) (unit number : ℚ) : Prop :=
  AtMost interval.closed (unit * interval.lower) number ∧
    AtMost interval.closed number (unit * interval.upper)

/-- A change of the unit changes nothing.  The search works in units in which all of its numbers are
whole. -/
theorem contains_mul_iff {factor : ℚ} (positive : 0 < factor) :
    interval.Contains (factor * unit) (factor * number) ↔ interval.Contains unit number := by
  unfold Contains
  rw [mul_assoc, mul_assoc, AtMost.mul_left_iff positive, AtMost.mul_left_iff positive]

/-- What lies between two numbers of an interval is in it.  So a shorter decimal can only be found
next to the centre. -/
theorem Contains.convex {left right : ℚ} (atLeft : interval.Contains unit left)
    (atRight : interval.Contains unit right) (above : left ≤ number) (below : number ≤ right) :
    interval.Contains unit number :=
  ⟨atLeft.1.trans_le above, .le_trans' below atRight.2⟩

/-- The test that is made on whole numbers decides this condition on rational ones.  From here on
the search can be discussed in terms of rational numbers alone. -/
theorem holds_iff (interval : Interval) (scale point : Nat) :
    interval.holds scale point = true ↔ interval.Contains scale point := by
  unfold holds Contains
  cases interval.closed with
  | true =>
    simp only [if_true, AtMost, Bool.and_eq_true, decide_eq_true_eq]
    norm_cast
    rw [Nat.mul_comm interval.lower, Nat.mul_comm interval.upper]
  | false =>
    simp only [Bool.false_eq_true, if_false, AtMost, Bool.and_eq_true, decide_eq_true_eq]
    norm_cast
    rw [Nat.mul_comm interval.lower, Nat.mul_comm interval.upper]

end Interval

/-! ### The interval of a double -/

variable {x : Double}

/-- A quarter of the last place. -/
def quarter (x : Double) : ℚ := 2 ^ (x.exponent - 2)

theorem quarter_pos (x : Double) : 0 < x.quarter := zpow_pos two_pos _

theorem zpow_exponent (x : Double) : (2 : ℚ) ^ x.exponent = 4 * x.quarter := by
  have four : (4 : ℚ) = 2 ^ (2 : Int) := by norm_num
  rw [quarter, four, ← zpow_add₀ two_ne_zero]
  congr 1
  omega

theorem rungStep_magnitudeBits (x : Double) : rungStep x.magnitudeBits = 4 * x.quarter := by
  rw [rungStep, ← exponent_eq, zpow_exponent]

/-- The centre of its interval is the double itself. -/
theorem magnitude_eq_quarters (x : Double) : x.magnitude = x.quarter * x.interval.centre := by
  rw [magnitude, zpow_exponent, interval]
  push_cast
  ring

/-- The step from the double below is as large as the one to the next, or half of it. -/
theorem rungStep_below {below : Nat} (next : below + 1 = x.magnitudeBits) :
    rungStep below =
      if x.significand = hiddenBit ∧ leastExponent < x.exponent then 2 * x.quarter
      else 4 * x.quarter := by
  have bits : (x.significand = hiddenBit ∧ leastExponent < x.exponent) ↔
      below / hiddenBit - 1 + 1 = x.magnitudeBits / hiddenBit - 1 := by
    rw [significand_eq, exponent_eq, ← next]
    unfold rungCount hiddenBit
    omega
  rw [← rungStep_magnitudeBits]
  split
  next narrow =>
    have smaller := bits.1 narrow
    have twice : 4 * x.quarter = 2 * rungStep below := by
      rw [← rungStep_magnitudeBits, rungStep, ← smaller, Nat.cast_add, Nat.cast_one, ← add_assoc,
        zpow_add_one₀ two_ne_zero, rungStep]
      ring
    linarith
  next wide =>
    have equal := mt bits.2 wide
    have same : below / hiddenBit - 1 = x.magnitudeBits / hiddenBit - 1 := by
      unfold hiddenBit at *
      omega
    rw [rungStep, rungStep, same]

/-- The ends of the interval belong to it exactly if the last bit is even.  A number on a middle is
rounded to the even neighbour, so an even double is read back from both ends. -/
theorem closed_interval (x : Double) : x.interval.closed = (x.magnitudeBits % 2 == 0) := by
  have parity := rungCount_mod_two x.magnitudeBits
  rw [← significand_eq] at parity
  rw [interval, parity]

theorem magnitudeBits_pos (nonzero : x.isZero = false) : 0 < x.magnitudeBits := by
  have different : x.magnitudeBits ≠ 0 := by simpa [isZero] using nonzero
  omega

theorem significand_pos (nonzero : x.isZero = false) : 0 < x.significand := by
  have positive := magnitudeBits_pos nonzero
  rw [significand_eq]
  unfold rungCount hiddenBit
  omega

/-- Twice the upper end is the sum of the double and the next one. -/
theorem two_mul_upper (x : Double) :
    2 * (x.quarter * x.interval.upper) =
      rung x.magnitudeBits + rung (x.magnitudeBits + 1) := by
  rw [rung_succ, rungStep_magnitudeBits, ← magnitude_eq, magnitude_eq_quarters, interval]
  push_cast
  ring

/-- Twice the lower end is the sum of the double and the one below. -/
theorem two_mul_lower (nonzero : x.isZero = false) {below : Nat}
    (next : below + 1 = x.magnitudeBits) :
    2 * (x.quarter * x.interval.lower) = rung below + rung x.magnitudeBits := by
  have positive := significand_pos nonzero
  have step := rung_succ below
  rw [next, rungStep_below next] at step
  have magnitude : rung x.magnitudeBits = x.quarter * (4 * x.significand : ℕ) := by
    rw [← magnitude_eq, magnitude_eq_quarters, interval]
  rw [magnitude] at step ⊢
  simp only [interval, Bool.and_eq_true, decide_eq_true_eq]
  split at step
  next narrow =>
    rw [if_pos narrow, Nat.cast_sub (by omega)]
    push_cast at step ⊢
    linarith
  next wide =>
    rw [if_neg wide, Nat.cast_sub (by omega)]
    push_cast at step ⊢
    linarith

/-- The interval of a double lies between the middles to the doubles beside it.  With this the
search has to do with rounding, which it does not mention. -/
theorem between_iff_contains (nonzero : x.isZero = false) {number : ℚ} :
    Between x.magnitudeBits number ↔ x.interval.Contains x.quarter number := by
  have positive := magnitudeBits_pos nonzero
  have upper : AtMost (x.magnitudeBits % 2 == 0) (2 * number)
      (rung x.magnitudeBits + rung (x.magnitudeBits + 1)) ↔
      AtMost x.interval.closed number (x.quarter * x.interval.upper) := by
    rw [← two_mul_upper, AtMost.mul_left_iff two_pos, closed_interval]
  have lower : ∀ below, below + 1 = x.magnitudeBits →
      (AtMost (x.magnitudeBits % 2 == 0) (rung below + rung x.magnitudeBits) (2 * number) ↔
        AtMost x.interval.closed (x.quarter * x.interval.lower) number) := by
    intro below next
    rw [← two_mul_lower nonzero next, AtMost.mul_left_iff two_pos, closed_interval]
  constructor
  · intro between
    obtain ⟨below, next⟩ : ∃ below, below + 1 = x.magnitudeBits :=
      ⟨x.magnitudeBits - 1, by omega⟩
    exact ⟨(lower below next).1 (between.lower below next), upper.1 between.upper⟩
  · intro contains
    exact ⟨fun below next => (lower below next).2 contains.1, upper.2 contains.2⟩

/-- The numbers that round to a double other than zero are those of its interval, with its ends
exactly if the significand is even. -/
theorem rounds_iff_contains (finite : x.isFinite = true) (nonzero : x.isZero = false)
    {number : ℚ} :
    Rounds x.isNegative number x ↔ x.interval.Contains x.quarter number := by
  rw [rounds_iff_between finite rfl, between_iff_contains nonzero]

/-- A double lies in its interval. -/
theorem contains_magnitude (finite : x.isFinite = true) (nonzero : x.isZero = false) :
    x.interval.Contains x.quarter x.magnitude := by
  rw [← rounds_iff_contains finite nonzero]
  exact rounds_magnitude finite

end Double

/-! ## The shortest digits

On the grid of the decimals with one more digit, a double lies between two neighbours.  Since the
double itself is in its interval, and with two numbers everything between them is, a grid without a
neighbour in the interval has no point in it at all.  So the first grid with a neighbour is the
first with any point, and a decimal of fewer digits would be a point of an earlier one.

With seventeen digits the nearer of the neighbours is within half of a step of the grid, which is
less than the distance to either end of the interval.
-/

/-- Powers with a negative exponent, on the other side of an equation. -/
theorem zpow_mul_pow_toNat {base : ℚ} (nonzero : base ≠ 0) (exponent : Int) :
    base ^ exponent * base ^ (-exponent).toNat = base ^ exponent.toNat := by
  rw [← zpow_natCast, ← zpow_natCast, ← zpow_add₀ nonzero]
  congr 1
  omega

theorem ten_zpow_add (exponent : Int) (count : Nat) :
    (10 : ℚ) ^ (exponent + count) = (10 ^ count : ℕ) * 10 ^ exponent := by
  rw [zpow_add₀ (by norm_num), zpow_natCast, mul_comm]
  push_cast
  rfl

/-! ### The leading digit -/

theorem decimalLength_le_iff {n length : Nat} (positive : 0 < length) :
    decimalLength n ≤ length ↔ n < 10 ^ length :=
  Nat.length_toDigits_le_iff (by decide) positive

theorem decimalLength_pos (n : Nat) : 0 < decimalLength n := Nat.length_toDigits_pos

theorem lt_pow_decimalLength (n : Nat) : n < 10 ^ decimalLength n :=
  (decimalLength_le_iff (decimalLength_pos n)).1 (Nat.le_refl _)

theorem pow_le_of_decimalLength {n : Nat} (positive : 0 < n) : 10 ^ (decimalLength n - 1) ≤ n := by
  by_cases single : decimalLength n = 1
  · rw [single]
    exact positive
  · have long := decimalLength_pos n
    by_contra less
    have some : 0 < decimalLength n - 1 := by omega
    have shorter := (decimalLength_le_iff some).2 (Nat.lt_of_not_le less)
    omega

/-- The leading digit of a ratio from one on is that of its whole part. -/
theorem leading_of_whole {numerator denominator : Nat} (nonzero : 0 < denominator)
    (whole : denominator ≤ numerator) :
    (10 : ℚ) ^ ((decimalLength (numerator / denominator) : Int) - 1) ≤ numerator / denominator ∧
      (numerator : ℚ) / denominator < 10 ^ (decimalLength (numerator / denominator) : Int) := by
  have divisor : (0 : ℚ) < denominator := by exact_mod_cast nonzero
  have low := pow_le_of_decimalLength (Nat.div_pos whole nonzero)
  have high := lt_pow_decimalLength (numerator / denominator)
  have length := decimalLength_pos (numerator / denominator)
  generalize decimalLength (numerator / denominator) = count at low high length
  have below : (count : Int) - 1 = ((count - 1 : Nat) : Int) := by omega
  rw [below, zpow_natCast, zpow_natCast, le_div_iff₀ divisor, div_lt_iff₀ divisor]
  constructor
  · exact_mod_cast (Nat.le_div_iff_mul_le nonzero).1 low
  · exact_mod_cast (Nat.div_lt_iff_lt_mul nonzero).1 high

/-- The leading digit of a ratio below one is told by its reciprocal, rounded up: the ratio reaches
the reciprocal of a power of ten exactly if the power reaches that number. -/
theorem leading_of_fraction {numerator denominator : Nat} (positive : 0 < numerator)
    (fraction : numerator < denominator) :
    (10 : ℚ) ^ (-(decimalLength (denominator ⌈/⌉ numerator - 1) : Int)) ≤
        numerator / denominator ∧
      (numerator : ℚ) / denominator <
        10 ^ (-(decimalLength (denominator ⌈/⌉ numerator - 1) : Int) + 1) := by
  have divisor : (0 : ℚ) < denominator := by exact_mod_cast positive.trans fraction
  have rounded (n : Nat) : denominator ⌈/⌉ numerator ≤ n ↔ denominator ≤ numerator * n :=
    ceilDiv_le_iff_le_mul positive
  generalize denominator ⌈/⌉ numerator = ceiling at rounded
  have several : 1 < ceiling := by
    rw [← not_le, rounded, Nat.mul_one]
    exact Nat.not_le_of_lt fraction
  have low := pow_le_of_decimalLength (Nat.sub_pos_of_lt several)
  have high := lt_pow_decimalLength (ceiling - 1)
  have length := decimalLength_pos (ceiling - 1)
  generalize decimalLength (ceiling - 1) = count at low high length
  have above : -(count : Int) + 1 = -((count - 1 : Nat) : Int) := by omega
  rw [above, zpow_neg, zpow_neg, zpow_natCast, zpow_natCast, le_div_iff₀ divisor,
    div_lt_iff₀ divisor, inv_mul_le_iff₀ (by positivity), lt_inv_mul_iff₀ (by positivity)]
  constructor
  · have most : denominator ≤ numerator * 10 ^ count := (rounded _).1 (by omega)
    rw [Nat.mul_comm] at most
    exact_mod_cast most
  · have least : ¬ denominator ≤ numerator * 10 ^ (count - 1) := by
      rw [← rounded]
      omega
    rw [not_le, Nat.mul_comm] at least
    exact_mod_cast least

/-- The leading digit of a positive ratio has the exponent that is computed: a power of ten below
the ratio, and ten times that power above it. -/
theorem floorLog10_spec {numerator denominator : Nat} (positive : 0 < numerator)
    (nonzero : 0 < denominator) :
    (10 : ℚ) ^ floorLog10 numerator denominator ≤ numerator / denominator ∧
      (numerator : ℚ) / denominator < 10 ^ (floorLog10 numerator denominator + 1) := by
  unfold floorLog10
  split
  next whole =>
    rw [sub_add_cancel]
    exact leading_of_whole nonzero whole
  next fraction =>
    dsimp only
    rw [← Nat.ceilDiv_eq_add_pred_div, Int.zero_sub]
    exact leading_of_fraction positive (Nat.lt_of_not_le fraction)

namespace Double

variable {x : Double}

/-- The ratio of a double is its magnitude. -/
theorem ratio_eq (x : Double) : (x.ratio.1 : ℚ) / x.ratio.2 = x.magnitude := by
  have powers : (2 : ℚ) ^ x.exponent * 2 ^ (-x.exponent).toNat = 2 ^ x.exponent.toNat :=
    zpow_mul_pow_toNat two_ne_zero x.exponent
  simp only [ratio, Nat.pow_eq, Nat.cast_mul, Nat.cast_pow, Nat.cast_ofNat]
  rw [← powers, ← mul_assoc, mul_div_assoc, div_self (by positivity), mul_one, magnitude]

/-! ### Points of a grid -/

/-- The point that is found on a grid, given the exponents of the quarter and of the grid. -/
def gridPoint? (tie : Tie) (interval : Interval) (binary exponent : Int) : Option Nat :=
  onGrid? tie interval (Nat.pow 2 binary.toNat * Nat.pow 10 (-exponent).toNat)
    (Nat.pow 2 (-binary).toNat * Nat.pow 10 exponent.toNat)

/-- Whether a decimal reads back as a double. -/
def ReadsBack (x : Double) (significand : Nat) (exponent : Int) : Prop :=
  x.interval.Contains x.quarter (significand * 10 ^ exponent)

section Grid

variable {tie : Tie} {interval : Interval} {scale step point : Nat}

/-- A point that is found on the grid is in the interval, and is one of the two next to its
centre. -/
theorem onGrid?_eq_some (found : onGrid? tie interval scale step = some point) :
    interval.holds scale (point * step) = true ∧
      (point = interval.centre * scale / step ∨ point = interval.centre * scale / step + 1) := by
  unfold onGrid? at found
  dsimp only at found
  split at found
  next => cases found
  next below _ =>
    cases found
    exact ⟨below, .inl rfl⟩
  next _ above =>
    cases found
    exact ⟨above, .inr rfl⟩
  next below above =>
    split at found
    · cases found
      exact ⟨below, .inl rfl⟩
    · split at found
      · cases found
        exact ⟨above, .inr rfl⟩
      · split at found
        · cases found
          exact ⟨above, .inr rfl⟩
        · split at found <;> cases found
          · exact ⟨below, .inl rfl⟩
          · exact ⟨above, .inr rfl⟩

/-- If no point is found, neither of the two next to the centre is in the interval, and so no point
of the grid is. -/
theorem onGrid?_eq_none (missed : onGrid? tie interval scale step = none) :
    interval.holds scale (interval.centre * scale / step * step) = false ∧
      interval.holds scale ((interval.centre * scale / step + 1) * step) = false := by
  unfold onGrid? at missed
  dsimp only at missed
  split at missed
  next below above => exact ⟨below, above⟩
  next => cases missed
  next => cases missed
  next =>
    split at missed
    · cases missed
    · split at missed
      · cases missed
      · split at missed
        · cases missed
        · split at missed <;> cases missed

end Grid

/-- Scale and step of the search are a quarter of the last place and a step of the grid, both in one
unit, so the search can do without fractions. -/
theorem exists_common_unit (x : Double) (exponent : Int) : ∃ factor : ℚ, 0 < factor ∧
    ((Nat.pow 2 (x.exponent - 2).toNat * Nat.pow 10 (-exponent).toNat : ℕ) : ℚ) =
      factor * x.quarter ∧
    ((Nat.pow 2 (-(x.exponent - 2)).toNat * Nat.pow 10 exponent.toNat : ℕ) : ℚ) =
      factor * 10 ^ exponent := by
  refine ⟨2 ^ (-(x.exponent - 2)).toNat * 10 ^ (-exponent).toNat, by positivity, ?_, ?_⟩
  · simp only [Nat.pow_eq, Nat.cast_mul, Nat.cast_pow, Nat.cast_ofNat]
    rw [quarter, ← zpow_mul_pow_toNat two_ne_zero]
    ring
  · simp only [Nat.pow_eq, Nat.cast_mul, Nat.cast_pow, Nat.cast_ofNat]
    rw [← zpow_mul_pow_toNat (by norm_num) exponent]
    ring

/-- The two neighbours on a grid, and which of the results of the search is which. -/
theorem gridPoint?_spec (x : Double) (tie : Tie) (exponent : Int) :
    ∃ below : Nat, below * (10 : ℚ) ^ exponent ≤ x.magnitude ∧
      x.magnitude < (below + 1 : Nat) * (10 : ℚ) ^ exponent ∧
      (∀ point, gridPoint? tie x.interval (x.exponent - 2) exponent = some point →
        x.ReadsBack point exponent ∧ (point = below ∨ point = below + 1)) ∧
      (gridPoint? tie x.interval (x.exponent - 2) exponent = none →
        ¬ x.ReadsBack below exponent ∧ ¬ x.ReadsBack (below + 1) exponent) := by
  obtain ⟨factor, positive, scale, step⟩ := x.exists_common_unit exponent
  unfold gridPoint?
  generalize Nat.pow 2 (x.exponent - 2).toNat * Nat.pow 10 (-exponent).toNat = scaleNat at *
  generalize Nat.pow 2 (-(x.exponent - 2)).toNat * Nat.pow 10 exponent.toNat = stepNat at *
  have holds : ∀ point : Nat, x.interval.holds scaleNat (point * stepNat) = true ↔
      x.ReadsBack point exponent := by
    intro point
    have scaled : ((point * stepNat : ℕ) : ℚ) = factor * (point * 10 ^ exponent) := by
      rw [Nat.cast_mul, step]
      ring
    rw [Interval.holds_iff, scale, scaled, Interval.contains_mul_iff positive, ReadsBack]
  have stepPositive : 0 < stepNat := by
    have rational : (0 : ℚ) < stepNat := by
      rw [step]
      positivity
    exact_mod_cast rational
  have centre : ((x.interval.centre * scaleNat : ℕ) : ℚ) = factor * x.magnitude := by
    rw [Nat.cast_mul, scale, magnitude_eq_quarters]
    ring
  -- The lower neighbour is what division leaves of the centre.
  refine ⟨x.interval.centre * scaleNat / stepNat, ?_, ?_, ?_, ?_⟩
  · have bound : ((x.interval.centre * scaleNat / stepNat * stepNat : ℕ) : ℚ) ≤
        (x.interval.centre * scaleNat : ℕ) := by
      exact_mod_cast Nat.div_mul_le_self _ _
    rw [centre, Nat.cast_mul, step, mul_left_comm] at bound
    exact le_of_mul_le_mul_left bound positive
  · have bound : ((x.interval.centre * scaleNat : ℕ) : ℚ) <
        ((x.interval.centre * scaleNat / stepNat + 1 : ℕ) * stepNat : ℕ) := by
      rw [Nat.cast_lt, Nat.mul_comm _ stepNat]
      exact Nat.lt_mul_div_succ _ stepPositive
    rw [centre, Nat.cast_mul, step, mul_left_comm] at bound
    exact lt_of_mul_lt_mul_left bound (le_of_lt positive)
  · intro point found
    obtain ⟨inside, which⟩ := onGrid?_eq_some found
    exact ⟨(holds point).1 inside, which⟩
  · intro missed
    obtain ⟨below, above⟩ := onGrid?_eq_none missed
    rw [← holds, ← holds, below, above]
    exact ⟨Bool.false_ne_true, Bool.false_ne_true⟩

/-- If a grid has a point that reads back, one is found on it.  Two neighbours of the double are
looked at, and a point further away would have one of them between itself and the double. -/
theorem gridPoint?_isSome_iff (tie : Tie) (finite : x.isFinite = true)
    (nonzero : x.isZero = false) (exponent : Int) :
    (gridPoint? tie x.interval (x.exponent - 2) exponent).isSome = true ↔
      ∃ point, x.ReadsBack point exponent := by
  obtain ⟨below, low, high, found, missed⟩ := gridPoint?_spec x tie exponent
  have self := contains_magnitude finite nonzero
  constructor
  · intro present
    obtain ⟨point, same⟩ := Option.isSome_iff_exists.1 present
    exact ⟨point, (found point same).1⟩
  · rintro ⟨point, inside⟩
    by_contra absent
    obtain ⟨notBelow, notAbove⟩ := missed (by simpa using absent)
    -- The neighbours lie between the double and any other point on their side.
    rcases Nat.lt_or_ge below point with later | earlier
    · apply notAbove
      have between : ((below + 1 : Nat) : ℚ) * 10 ^ exponent ≤ point * 10 ^ exponent :=
        mul_le_mul_of_nonneg_right (by exact_mod_cast later) (by positivity)
      exact self.convex inside (le_of_lt high) between
    · apply notBelow
      have between : (point : ℚ) * 10 ^ exponent ≤ below * 10 ^ exponent :=
        mul_le_mul_of_nonneg_right (by exact_mod_cast earlier) (by positivity)
      exact inside.convex self between low

/-! ### Seventeen digits are enough -/

/-- What is within a quarter of the last place below a double, or half of it above, reads back. -/
theorem contains_of_near {number : ℚ} (nonzero : x.isZero = false)
    (low : x.magnitude - number <
      if x.significand = hiddenBit ∧ leastExponent < x.exponent then x.quarter
      else 2 * x.quarter)
    (high : number - x.magnitude < 2 * x.quarter) : x.interval.Contains x.quarter number := by
  have positive := significand_pos nonzero
  rw [magnitude_eq_quarters] at low high
  simp only [interval] at low high
  constructor
  · apply AtMost.of_lt
    simp only [interval, Bool.and_eq_true, decide_eq_true_eq]
    split at low
    next narrow =>
      rw [if_pos narrow, Nat.cast_sub (by omega)]
      push_cast at low ⊢
      linarith
    next wide =>
      rw [if_neg wide, Nat.cast_sub (by omega)]
      push_cast at low ⊢
      linarith
  · apply AtMost.of_lt
    simp only [interval]
    push_cast at high ⊢
    linarith

theorem significand_lt (x : Double) : x.significand < 2 * hiddenBit := by
  unfold significand fractionField hiddenBit
  split <;> omega

/-- On the grid of seventeen digits there is a point that reads back, so the search for the shortest
one ends there at the latest. -/
theorem exists_readsBack_of_seventeen (nonzero : x.isZero = false) {exponent : Int}
    (long : 10 ^ 16 * (10 : ℚ) ^ exponent ≤ x.magnitude) : ∃ point, x.ReadsBack point exponent := by
  obtain ⟨below, low, high, -⟩ := gridPoint?_spec x .even exponent
  have positive := x.quarter_pos
  have magnitude : x.magnitude = 4 * x.significand * x.quarter := by
    rw [magnitude_eq_quarters, interval]
    push_cast
    ring
  have significand : (x.significand : ℚ) < 2 ^ 53 := by
    exact_mod_cast x.significand_lt
  unfold ReadsBack
  generalize (10 : ℚ) ^ exponent = step at *
  -- Half of a step is less than the distance to either end.
  have half : step < 4 * x.quarter := by
    have product : 10 ^ 16 * step < 4 * 2 ^ 53 * x.quarter := by
      rw [magnitude] at long
      nlinarith
    norm_num at product
    linarith
  have quarter : step <
      if x.significand = hiddenBit ∧ leastExponent < x.exponent then 2 * x.quarter
      else 4 * x.quarter := by
    split
    next narrow =>
      rw [magnitude, narrow.1] at long
      norm_num [hiddenBit] at long
      linarith
    next => exact half
  push_cast at high
  by_cases near : 2 * (x.magnitude - below * step) ≤ step
  · refine ⟨below, contains_of_near nonzero ?_ (by linarith)⟩
    split at quarter
    next narrow =>
      rw [if_pos narrow]
      linarith
    next wide =>
      rw [if_neg wide]
      linarith
  · refine ⟨below + 1, contains_of_near nonzero ?_ ?_⟩
    · push_cast
      split <;> linarith
    · push_cast
      linarith

/-! ### The search -/

/-- The search ends at the first grid on which a point is found.  It goes from few digits to many,
so all grids before have no such point. -/
theorem searchGrids_found {tie : Tie} {interval : Interval} {binary leading : Int}
    {last fuel digits : Nat} (within : last < digits + fuel) (reached : digits ≤ last)
    (found : (gridPoint? tie interval binary (leading + 1 - last)).isSome = true) :
    ∃ count point, digits ≤ count ∧ count ≤ last ∧
      gridPoint? tie interval binary (leading + 1 - count) = some point ∧
      searchGrids tie interval binary leading digits fuel = ⟨point, leading + 1 - count⟩ ∧
      ∀ fewer : Nat, digits ≤ fewer → fewer < count →
        gridPoint? tie interval binary (leading + 1 - fewer) = none := by
  induction fuel generalizing digits with
  | zero => omega
  | succ fuel inductionHypothesis =>
    cases here : gridPoint? tie interval binary (leading + 1 - digits) with
    | some point =>
      refine ⟨digits, point, Nat.le_refl _, reached, here, ?_, ?_⟩
      · unfold gridPoint? at here
        simp only [searchGrids, here]
      · intro fewer atLeast less
        omega
    | none =>
      have later : digits ≠ last := by
        rintro rfl
        rw [here] at found
        cases found
      obtain ⟨count, point, from_, upTo, same, result, missed⟩ :=
        @inductionHypothesis (digits + 1) (by omega) (by omega)
      refine ⟨count, point, by omega, upTo, same, ?_, ?_⟩
      · unfold gridPoint? at here
        simp only [searchGrids, here, result]
      · intro fewer atLeast less
        rcases Nat.lt_or_eq_of_le atLeast with more | rfl
        · exact missed fewer more less
        · exact here

/-- The exponent of the leading digit.  It fixes the grids: a grid has as many digits as there are
powers of ten between its step and this exponent. -/
theorem exists_leading (nonzero : x.isZero = false) (tie : Tie) :
    ∃ leading : Int, 10 ^ leading ≤ x.magnitude ∧ x.magnitude < 10 ^ (leading + 1) ∧
      x.shortest tie = searchGrids tie x.interval (x.exponent - 2) leading 1 17 := by
  have numerator : 0 < x.ratio.1 := Nat.mul_pos (significand_pos nonzero) (Nat.pow_pos two_pos)
  have denominator : 0 < x.ratio.2 := Nat.pow_pos two_pos
  obtain ⟨low, high⟩ := floorLog10_spec numerator denominator
  rw [ratio_eq] at low high
  refine ⟨_, low, high, ?_⟩
  unfold shortest
  rw [nonzero]
  rfl

/-- If no decimal of a number of digits reads back, no decimal of fewer digits does, wherever its
point is. -/
theorem not_readsBack_of_fewer (finite : x.isFinite = true) (nonzero : x.isZero = false)
    {exponent other : Int} {count significand : Nat}
    (low : (10 : ℚ) ^ (exponent + count) ≤ x.magnitude)
    (absent : ∀ point, ¬ x.ReadsBack point exponent) (fewer : significand < 10 ^ (count + 1)) :
    ¬ x.ReadsBack significand other := by
  intro readsBack
  have self := contains_magnitude finite nonzero
  by_cases coarser : exponent ≤ other
  · -- The decimal is a point of the same grid.
    obtain ⟨zeros, rfl⟩ := Int.le.dest coarser
    apply absent (significand * 10 ^ zeros)
    unfold ReadsBack at readsBack ⊢
    rwa [Nat.cast_mul, mul_assoc, ← ten_zpow_add]
  · -- The decimal lies below the leading power of ten, which is a point of the same grid.
    apply absent (10 ^ count)
    unfold ReadsBack at readsBack ⊢
    rw [← ten_zpow_add]
    refine readsBack.convex self ?_ low
    calc (significand : ℚ) * 10 ^ other ≤ (10 ^ (count + 1) : ℕ) * 10 ^ other :=
          mul_le_mul_of_nonneg_right (by exact_mod_cast Nat.le_of_lt fewer) (by positivity)
      _ = 10 ^ (other + (count + 1 : ℕ)) := (ten_zpow_add _ _).symm
      _ ≤ 10 ^ (exponent + count) := zpow_le_zpow_right₀ (by norm_num) (by push_cast; omega)

/-- The shortest decimal of a double other than zero reads back, it is not greater than a power of
ten, and no decimal with fewer digits than the exponent of this power reads back. -/
theorem shortest_spec (finite : x.isFinite = true) (nonzero : x.isZero = false) (tie : Tie) :
    ∃ count : Nat, 0 < count ∧ (x.shortest tie).significand ≤ 10 ^ count ∧
      x.ReadsBack (x.shortest tie).significand (x.shortest tie).exponent ∧
      ∀ fewer significand exponent, fewer + 1 < count → significand < 10 ^ (fewer + 1) →
        ¬ x.ReadsBack significand exponent := by
  obtain ⟨leading, low, high, search⟩ := exists_leading nonzero tie
  have long : 10 ^ 16 * (10 : ℚ) ^ (leading + 1 - (17 : Nat)) ≤ x.magnitude := by
    rw [← zpow_natCast, ← zpow_add₀ (by norm_num)]
    have leads : (16 : Nat) + (leading + 1 - (17 : Nat)) = leading := by omega
    rwa [leads]
  -- The search ends at seventeen digits at the latest, and stops at the first count that has a
  -- point.
  have found := (gridPoint?_isSome_iff tie finite nonzero _).2
    (exists_readsBack_of_seventeen nonzero long)
  have within : 17 < 1 + 17 := by omega
  have first : 1 ≤ 17 := by omega
  obtain ⟨count, point, positive, -, here, result, missed⟩ :=
    searchGrids_found within first found
  obtain ⟨below, above, -, spec, -⟩ :=
    gridPoint?_spec x tie (leading + 1 - count)
  obtain ⟨readsBack, which⟩ := spec point here
  rw [search, result]
  refine ⟨count, positive, ?_, readsBack, ?_⟩
  · have bound : (below : ℚ) * 10 ^ (leading + 1 - count) <
        (10 ^ count : ℕ) * 10 ^ (leading + 1 - count) := by
      rw [← ten_zpow_add, Int.sub_add_cancel]
      exact lt_of_le_of_lt above high
    have less : below < 10 ^ count := by
      exact_mod_cast lt_of_mul_lt_mul_right bound (by positivity)
    change point ≤ 10 ^ count
    rcases which with rfl | rfl <;> omega
  · intro fewer significand exponent less few
    have nothing := missed (fewer + 1) (by omega) less
    have leads : leading + 1 - (fewer + 1 : Nat) + fewer = leading := by omega
    rw [← leads] at low
    apply not_readsBack_of_fewer finite nonzero low
    · intro other inside
      have present := (gridPoint?_isSome_iff tie finite nonzero _).2 ⟨other, inside⟩
      rw [nothing] at present
      cases present
    · exact few

end Double

end Pushdown
