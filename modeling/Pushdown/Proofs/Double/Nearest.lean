/-
Module: Pushdown.Proofs.Double.Nearest
Purpose: The rounding of ratios yields the nearest double.
Main exports: Double.roundHalfEven_spec, Double.floorLog2_spec, Double.ofRatio_rounds
-/
import Pushdown.Proofs.Double.Shortest

namespace Pushdown.Double

/-!
The significand of a ratio is rounded in steps that are fixed by its leading bit, as if doubles
had no greatest exponent.  The result counts the rung of the ladder of magnitudes whose middles
enclose the ratio.  Only below the least significand of a step are the rungs closer together, but a
ratio that is rounded to that significand does not lie below it.
-/

/-- A ratio is its whole part and a proper fraction.  Comparing the remainder with the denominator
tells on which side of a half the fraction is. -/
theorem exists_fraction (numerator : Nat) {denominator : Nat} (positive : 0 < denominator) :
    ∃ fraction : ℚ, 0 ≤ fraction ∧ fraction < 1 ∧
      (numerator : ℚ) / denominator = (numerator / denominator : ℕ) + fraction ∧
      (2 * (numerator % denominator) < denominator ↔ 2 * fraction < 1) ∧
      (denominator < 2 * (numerator % denominator) ↔ 1 < 2 * fraction) := by
  have divisor : (0 : ℚ) < denominator := by exact_mod_cast positive
  refine ⟨(numerator % denominator : ℕ) / denominator, by positivity, ?_, ?_, ?_, ?_⟩
  · rw [div_lt_one divisor]
    exact_mod_cast Nat.mod_lt numerator positive
  · have whole : (denominator : ℚ) * (numerator / denominator : ℕ) +
        (numerator % denominator : ℕ) = numerator := by
      exact_mod_cast Nat.div_add_mod numerator denominator
    rw [← whole]
    field_simp
  · rw [← mul_div_assoc, div_lt_one divisor]
    exact_mod_cast Iff.rfl
  · rw [← mul_div_assoc, one_lt_div divisor]
    exact_mod_cast Iff.rfl

/-- The nearest whole number is at most a half away, and less if it is odd.  This is all that is
used of rounding; everything else is scaling. -/
theorem roundHalfEven_spec {numerator denominator nearest : Nat} (positive : 0 < denominator)
    (rounded : roundHalfEven numerator denominator = nearest) :
    AtMost (nearest % 2 == 0) (2 * nearest - 1) (2 * ((numerator : ℚ) / denominator)) ∧
      AtMost (nearest % 2 == 0) (2 * ((numerator : ℚ) / denominator)) (2 * nearest + 1) := by
  obtain ⟨fraction, positivePart, part, split, below, above⟩ := exists_fraction numerator positive
  unfold roundHalfEven at rounded
  simp only [below, above] at rounded
  rw [split]
  generalize numerator / denominator = floor at *
  split at rounded
  next low =>
    subst rounded
    constructor <;> apply AtMost.of_lt <;> linarith
  next notLow =>
    split at rounded
    next high =>
      subst rounded
      push_cast
      constructor <;> apply AtMost.of_lt <;> linarith
    next notHigh =>
      -- The fraction is a half, so the even one of both neighbours is taken and reaches it.
      split at rounded
      next even =>
        subst rounded
        have closed : (floor % 2 == 0) = true := by rwa [beq_iff_eq]
        exact ⟨.of_lt (by linarith), .of_le (by linarith) fun _ => closed⟩
      next odd =>
        subst rounded
        have closed : ((floor + 1) % 2 == 0) = true := by
          rw [beq_iff_eq]
          omega
        push_cast
        exact ⟨.of_le (by linarith) fun _ => closed, .of_lt (by linarith)⟩

/-- A ratio of whole numbers is counted in steps of a power of two by another one. -/
theorem scaled_ratio (numerator denominator : Nat) (exponent : Int) :
    ((numerator * Nat.pow 2 (-exponent).toNat : ℕ) : ℚ) /
        (denominator * Nat.pow 2 exponent.toNat : ℕ) =
      numerator / denominator / 2 ^ exponent := by
  have powers : (2 : ℚ) ^ exponent * 2 ^ (-exponent).toNat = 2 ^ exponent.toNat :=
    zpow_mul_pow_toNat two_ne_zero _
  simp only [Nat.pow_eq, Nat.cast_mul, Nat.cast_pow, Nat.cast_ofNat]
  rw [← powers, ← mul_assoc, mul_div_mul_right _ _ (by positivity), div_div]

/-- The comparison that is made on whole numbers decides whether a ratio reaches a power of two. -/
theorem zpow_le_ratio_iff (numerator : Nat) {denominator : Nat} (nonzero : 0 < denominator)
    (exponent : Int) :
    denominator * Nat.pow 2 exponent.toNat ≤ numerator * Nat.pow 2 (-exponent).toNat ↔
      (2 : ℚ) ^ exponent ≤ numerator / denominator := by
  have divisor : (0 : ℚ) < (denominator * Nat.pow 2 exponent.toNat : ℕ) := by
    exact_mod_cast Nat.mul_pos nonzero (Nat.pow_pos Nat.two_pos)
  rw [← one_le_div (by positivity : (0 : ℚ) < 2 ^ exponent), ← scaled_ratio, one_le_div divisor,
    Nat.cast_le]

/-- The leading bit of a positive ratio has the exponent that is computed: a power of two below the
ratio, and twice that power above it. -/
theorem floorLog2_spec {numerator denominator : Nat} (positive : 0 < numerator)
    (nonzero : 0 < denominator) :
    (2 : ℚ) ^ floorLog2 numerator denominator ≤ numerator / denominator ∧
      (numerator : ℚ) / denominator < 2 ^ (floorLog2 numerator denominator + 1) := by
  have divisor : (0 : ℚ) < denominator := by exact_mod_cast nonzero
  have low : (2 : ℚ) ^ Nat.log2 numerator ≤ numerator := by
    exact_mod_cast Nat.log2_self_le (Nat.ne_of_gt positive)
  have high : (numerator : ℚ) < 2 ^ (Nat.log2 numerator + 1) := by
    exact_mod_cast Nat.lt_log2_self
  have otherLow : (2 : ℚ) ^ Nat.log2 denominator ≤ denominator := by
    exact_mod_cast Nat.log2_self_le (Nat.ne_of_gt nonzero)
  have otherHigh : (denominator : ℚ) < 2 ^ (Nat.log2 denominator + 1) := by
    exact_mod_cast Nat.lt_log2_self
  unfold floorLog2
  dsimp only
  generalize difference : (Nat.log2 numerator : Int) - Nat.log2 denominator = estimate
  have reaches := zpow_le_ratio_iff numerator nonzero estimate
  -- The estimate by the lengths is right or too great by one; one comparison tells which.
  split
  next least =>
    refine ⟨reaches.1 least, ?_⟩
    have power : (2 : ℚ) ^ (estimate + 1) * 2 ^ Nat.log2 denominator =
        2 ^ (Nat.log2 numerator + 1) := by
      rw [← zpow_natCast, ← zpow_natCast, ← zpow_add₀ two_ne_zero]
      congr 1
      omega
    rw [div_lt_iff₀ divisor]
    calc (numerator : ℚ) < 2 ^ (estimate + 1) * 2 ^ Nat.log2 denominator := by rwa [power]
      _ ≤ 2 ^ (estimate + 1) * denominator := by gcongr
  next less =>
    have power : (2 : ℚ) ^ (estimate - 1) * 2 ^ (Nat.log2 denominator + 1) =
        2 ^ Nat.log2 numerator := by
      rw [← zpow_natCast, ← zpow_natCast, ← zpow_add₀ two_ne_zero]
      congr 1
      omega
    constructor
    · rw [le_div_iff₀ divisor]
      calc (2 : ℚ) ^ (estimate - 1) * denominator
          ≤ 2 ^ (estimate - 1) * 2 ^ (Nat.log2 denominator + 1) := by gcongr
        _ ≤ numerator := by rwa [power]
    · rw [sub_add_cancel]
      exact lt_of_not_ge fun le => less (reaches.2 le)

/-- The rungs with one distance, up to the first with the next. -/
theorem rung_eq {index count : Nat} (normal : hiddenBit ≤ count ∨ index = 0)
    (bound : count ≤ 2 * hiddenBit) :
    rung (index * hiddenBit + count) = count * 2 ^ (leastExponent + index) := by
  by_cases last : count = 2 * hiddenBit
  · have quotient : (index * hiddenBit + count) / hiddenBit - 1 = index + 1 := by
      unfold hiddenBit at *
      omega
    have counts : rungCount (index * hiddenBit + count) = hiddenBit := by
      unfold rungCount
      rw [quotient]
      unfold hiddenBit at *
      omega
    rw [rung, rungStep, counts, quotient, last, Nat.cast_add, ← add_assoc, Nat.cast_one,
      zpow_add_one₀ two_ne_zero, Nat.cast_mul]
    push_cast
    ring
  · have quotient : (index * hiddenBit + count) / hiddenBit - 1 = index := by
      unfold hiddenBit at *
      omega
    have counts : rungCount (index * hiddenBit + count) = count := by
      unfold rungCount
      rw [quotient, Nat.add_sub_cancel_left]
    rw [rung, rungStep, counts, quotient]

section Nearest

variable {index count : Nat} {ratio : ℚ}

/-- The nearest significand is neither too short for its exponent nor longer than by one step. -/
theorem count_of_nearest (normal : index = 0 ∨ (hiddenBit : ℚ) ≤ ratio)
    (bound : ratio < 2 * hiddenBit) (lower : (2 * count - 1 : ℚ) ≤ 2 * ratio)
    (upper : 2 * ratio ≤ 2 * count + 1) :
    (hiddenBit ≤ count ∨ index = 0) ∧ count ≤ 2 * hiddenBit := by
  constructor
  · refine normal.symm.imp_left fun least => ?_
    have close : ((2 * hiddenBit : ℕ) : ℚ) ≤ (2 * count + 1 : ℕ) := by
      push_cast
      linarith
    have whole : 2 * hiddenBit ≤ 2 * count + 1 := by exact_mod_cast close
    omega
  · have close : ((2 * count : ℕ) : ℚ) < (4 * hiddenBit + 1 : ℕ) := by
      push_cast
      linarith
    have whole : 2 * count < 4 * hiddenBit + 1 := by exact_mod_cast close
    omega

/-- The number is not below the middle to the rung below that of its nearest significand. -/
theorem atMost_of_below (normal : index = 0 ∨ (hiddenBit : ℚ) ≤ ratio)
    (long : hiddenBit ≤ count ∨ index = 0) (short : count ≤ 2 * hiddenBit)
    (lower : AtMost (count % 2 == 0) (2 * count - 1) (2 * ratio)) {below : Nat}
    (next : below + 1 = index * hiddenBit + count) :
    AtMost (count % 2 == 0) (rung below + rung (index * hiddenBit + count))
      (2 ^ (leastExponent + index) * (2 * ratio)) := by
  have power : (0 : ℚ) < 2 ^ (leastExponent + index) := by positivity
  have here := rung_eq long short
  by_cases inside : hiddenBit < count ∨ index = 0
  · obtain ⟨fewer, rfl⟩ : ∃ fewer, count = fewer + 1 := by
      refine ⟨count - 1, ?_⟩
      rcases inside with more | first
      · omega
      · rw [first] at next
        omega
    have before : rung below = fewer * 2 ^ (leastExponent + index) := by
      obtain rfl : below = index * hiddenBit + fewer := by omega
      exact rung_eq (inside.imp_left Nat.le_of_lt_succ) (by omega)
    have sum : rung below + rung (index * hiddenBit + (fewer + 1)) =
        2 ^ (leastExponent + index) * (2 * (fewer + 1 : ℕ) - 1) := by
      rw [before, here]
      push_cast
      ring
    rw [sum, AtMost.mul_left_iff power]
    exact lower
  · -- The rung below is nearer than a step, but the number does not lie below this one.
    have least := normal.resolve_left fun first => inside (.inr first)
    have first : count = hiddenBit := by
      have far := long.resolve_right fun first => inside (.inr first)
      omega
    have less : rung below < rung (index * hiddenBit + count) := rung_strictMono (by omega)
    apply AtMost.of_lt
    rw [here, first] at less ⊢
    have reaches : 2 ^ (leastExponent + index) * (hiddenBit : ℚ) ≤
        2 ^ (leastExponent + index) * ratio :=
      mul_le_mul_of_nonneg_left least (le_of_lt power)
    linarith

/-- The number is not above the middle to the rung above that of its nearest significand. -/
theorem atMost_of_above (bound : ratio < 2 * hiddenBit) (long : hiddenBit ≤ count ∨ index = 0)
    (short : count ≤ 2 * hiddenBit)
    (upper : AtMost (count % 2 == 0) (2 * ratio) (2 * count + 1)) :
    AtMost (count % 2 == 0) (2 ^ (leastExponent + index) * (2 * ratio))
      (rung (index * hiddenBit + count) + rung (index * hiddenBit + count + 1)) := by
  have power : (0 : ℚ) < 2 ^ (leastExponent + index) := by positivity
  have here := rung_eq long short
  by_cases last : count = 2 * hiddenBit
  · -- The step above is twice as wide here, but the number lies below the rung itself.
    have more : rung (index * hiddenBit + count) < rung (index * hiddenBit + count + 1) :=
      rung_strictMono (Nat.lt_succ_self _)
    apply AtMost.of_lt
    rw [here, last] at more ⊢
    have misses : 2 ^ (leastExponent + index) * ratio <
        2 ^ (leastExponent + index) * (2 * hiddenBit : ℚ) :=
      mul_lt_mul_of_pos_left bound power
    push_cast at more ⊢
    linarith
  · have behind : rung (index * hiddenBit + count + 1) =
        (count + 1 : ℕ) * 2 ^ (leastExponent + index) := by
      rw [Nat.add_assoc]
      exact rung_eq (long.imp_left Nat.le_succ_of_le) (by omega)
    have sum : rung (index * hiddenBit + count) + rung (index * hiddenBit + count + 1) =
        2 ^ (leastExponent + index) * (2 * count + 1) := by
      rw [behind, here]
      push_cast
      ring
    rw [sum, AtMost.mul_left_iff power]
    exact upper

/-- A number lies between the middles beside the rung that its nearest significand counts. -/
theorem between_of_nearest (normal : index = 0 ∨ (hiddenBit : ℚ) ≤ ratio)
    (bound : ratio < 2 * hiddenBit)
    (lower : AtMost (count % 2 == 0) (2 * count - 1) (2 * ratio))
    (upper : AtMost (count % 2 == 0) (2 * ratio) (2 * count + 1)) :
    Between (index * hiddenBit + count) (2 ^ (leastExponent + index) * ratio) := by
  obtain ⟨long, short⟩ := count_of_nearest normal bound lower.le upper.le
  have parity : (index * hiddenBit + count) % 2 = count % 2 := by
    unfold hiddenBit
    omega
  have doubled : 2 * (2 ^ (leastExponent + index) * ratio) =
      2 ^ (leastExponent + index) * (2 * ratio) := mul_left_comm _ _ _
  constructor
  · intro below next
    rw [parity, doubled]
    exact atMost_of_below normal long short lower next
  · rw [parity, doubled]
    exact atMost_of_above bound long short upper

end Nearest

/-- Numbers that are not too large lie between middles beside finite doubles.  The rung that is
computed for such a number is one of a double, so cutting it off at infinity changes nothing. -/
theorem Between.lt_infinityBits {bits : Nat} {number : ℚ} (between : Between bits number)
    (bounded : number < overflow) : bits < infinityBits := by
  by_contra beyond
  obtain ⟨below, next⟩ : ∃ below, below + 1 = bits := by
    refine ⟨bits - 1, ?_⟩
    unfold infinityBits at beyond
    omega
  have low : rung (infinityBits - 1) ≤ rung below := rung_strictMono.monotone (by omega)
  have high : rung infinityBits ≤ rung bits := rung_strictMono.monotone (by omega)
  have lower := (between.lower below next).le
  have twice := two_mul_overflow
  linarith

/-- Zero lies between the middles beside the lowest rung. -/
theorem between_zero : Between 0 0 := by
  constructor
  · intro below next
    cases next
  · apply AtMost.of_lt
    have above : rung 0 < rung (0 + 1) := rung_strictMono Nat.zero_lt_one
    rw [rung_zero] at above ⊢
    linarith

/-- With its leading bit at the top of a significand, or with the least exponent if the bit stands
lower than that, a ratio counts its steps by a number with the length of a significand. -/
theorem steps_of_leading {ratio : ℚ} {leading : Int} {index : Nat}
    (exponent : max leastExponent (leading - 52) = leastExponent + index)
    (low : 2 ^ leading ≤ ratio) (high : ratio < 2 ^ (leading + 1)) :
    (index = 0 ∨ (hiddenBit : ℚ) ≤ ratio / 2 ^ (leastExponent + index)) ∧
      ratio / 2 ^ (leastExponent + index) < 2 * hiddenBit := by
  have power : (0 : ℚ) < 2 ^ (leastExponent + index) := by positivity
  constructor
  · by_cases first : index = 0
    · exact .inl first
    · have hidden : (hiddenBit : ℚ) = 2 ^ (52 : Int) := by norm_num [hiddenBit]
      have leads : leading = 52 + (leastExponent + index) := by omega
      rw [leads, zpow_add₀ two_ne_zero, ← hidden] at low
      rw [le_div_iff₀ power]
      exact .inr low
  · have twice : (2 : ℚ) ^ (53 : Int) = 2 * hiddenBit := by norm_num [hiddenBit]
    have leads : leading + 1 ≤ 53 + (leastExponent + index) := by omega
    rw [div_lt_iff₀ power]
    calc ratio < 2 ^ (leading + 1) := high
      _ ≤ 2 ^ (53 + (leastExponent + index)) := zpow_le_zpow_right₀ one_le_two leads
      _ = 2 * hiddenBit * 2 ^ (leastExponent + index) := by rw [zpow_add₀ two_ne_zero, twice]

/-- The rung that a ratio is rounded to, whether it is one of a double or not.  Its step is fixed by
the leading digit, and its count by the remainder of the division. -/
theorem between_ofRatio (negative : Bool) (numerator : Nat) {denominator : Nat}
    (positive : 0 < denominator) :
    ∃ bits, Between bits ((numerator : ℚ) / denominator) ∧
      ofRatio negative numerator denominator = ofMagnitude negative (min bits infinityBits) := by
  by_cases zero : numerator = 0
  · refine ⟨0, ?_, ?_⟩
    · rw [zero, Nat.cast_zero, zero_div]
      exact between_zero
    · rw [ofRatio, if_pos zero]
      rfl
  · obtain ⟨low, high⟩ := floorLog2_spec (Nat.pos_of_ne_zero zero) positive
    unfold ofRatio
    rw [if_neg zero]
    dsimp only
    generalize floorLog2 numerator denominator = leading at *
    obtain ⟨index, exponent⟩ : ∃ index : Nat,
        max leastExponent (leading - 52) = leastExponent + index :=
      ⟨(max leastExponent (leading - 52) - leastExponent).toNat, by omega⟩
    rw [exponent]
    have divisor : 0 < denominator * Nat.pow 2 (leastExponent + index).toNat :=
      Nat.mul_pos positive (Nat.pow_pos Nat.two_pos)
    obtain ⟨normal, bound⟩ := steps_of_leading exponent low high
    generalize rounded : roundHalfEven _ _ = count
    obtain ⟨lower, upper⟩ := roundHalfEven_spec divisor rounded
    rw [scaled_ratio] at lower upper
    have between := between_of_nearest normal bound lower upper
    rw [mul_div_cancel₀ _ (by positivity)] at between
    refine ⟨index * hiddenBit + count, between, ?_⟩
    -- The field of the exponent and the hidden bit together count the rungs below.
    have field : (leastExponent + index - leastExponent + 1).toNat = index + 1 := by omega
    have bits : (index + 1) * hiddenBit + count - hiddenBit = index * hiddenBit + count := by
      unfold hiddenBit
      omega
    rw [field, bits]

/-- A ratio that is not too large is rounded to the nearest double, with ties going to the even
significand, also where the double is subnormal. -/
theorem ofRatio_rounds (negative : Bool) {numerator denominator : Nat} (positive : 0 < denominator)
    (bounded : (numerator : ℚ) / denominator < overflow) :
    Rounds negative (numerator / denominator) (ofRatio negative numerator denominator) := by
  obtain ⟨bits, between, result⟩ := between_ofRatio negative numerator positive
  have inside := between.lt_infinityBits bounded
  have same := magnitudeBits_ofMagnitude negative inside
  rw [result, Nat.min_eq_left (Nat.le_of_lt inside)]
  rw [rounds_iff_between ?finite (isNegative_ofMagnitude negative inside), same]
  · exact between
  · rwa [isFinite_iff, same]

end Pushdown.Double
