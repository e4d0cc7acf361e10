import ViewPreview.Proofs.Number.Interval
import ViewPreview.Proofs.Number.Packing

/-!
# Rounding to Binary Numbers

Arithmetic rounds a mantissa of any length with two residual bits: the first bit that was shifted
out, and whether any later one was set.  The bits stand for the rational that the mantissa is taken
from, a shift to the right keeps what they stand for, and they suffice to find the nearest whole
number.  The result of rounding is the canonical binary number that the rational rounds to.
-/

namespace ViewPreview.Number

open Float.Model (Format UnpackedFloat totalExponent)
open Float.Model.UnpackedFloat

/-- Whether a rational is what a mantissa with two residual bits is taken from. -/
def Represents : ExtendedMantissa → ℚ → Prop
  | ⟨mantissa, false, false⟩, q => q = mantissa
  | ⟨mantissa, false, true⟩, q => mantissa < q ∧ q < mantissa + 1 / 2
  | ⟨mantissa, true, false⟩, q => q = mantissa + 1 / 2
  | ⟨mantissa, true, true⟩, q => mantissa + 1 / 2 < q ∧ q < mantissa + 1

/-- Whether a whole number is the nearest to a rational, and even if the rational lies halfway. -/
structure Nearest (whole : ℕ) (q : ℚ) : Prop where
  below : whole - 1 / 2 ≤ q
  above : q ≤ whole + 1 / 2
  inside : whole % 2 ≠ 0 → whole - 1 / 2 < q ∧ q < whole + 1 / 2

theorem nearest_of_inside {whole : ℕ} {q : ℚ} (above : whole - 1 / 2 < q)
    (below : q < whole + 1 / 2) : Nearest whole q :=
  ⟨above.le, below.le, fun _ ↦ ⟨above, below⟩⟩

section Mantissas

variable {extended : ExtendedMantissa} {q : ℚ}

theorem represents_exact (mantissa : ℕ) :
    Represents (.ofMantissaAndAccuracy mantissa .exact) mantissa :=
  rfl

theorem Represents.mantissa_le (represents : Represents extended q) : extended.mantissa ≤ q := by
  obtain ⟨mantissa, round, sticky⟩ := extended
  cases round <;> cases sticky <;> simp only [Represents] at represents <;> dsimp only <;>
    linarith

/-- The residual bits say how to round. -/
theorem Represents.nearest (represents : Represents extended q) :
    Nearest extended.roundedMantissa q := by
  obtain ⟨mantissa, round, sticky⟩ := extended
  cases round <;> cases sticky <;> simp only [Represents] at represents
  case false.false =>
    show Nearest mantissa q
    apply nearest_of_inside <;> linarith
  case false.true =>
    show Nearest mantissa q
    apply nearest_of_inside <;> linarith
  case true.true =>
    show Nearest (mantissa + 1) q
    apply nearest_of_inside <;> push_cast <;> linarith
  case true.false =>
    show Nearest (mantissa + mantissa % 2) q
    rcases Nat.mod_two_eq_zero_or_one mantissa with even | odd
    · rw [even, Nat.add_zero]
      exact ⟨by linarith, by linarith, fun isOdd ↦ absurd even isOdd⟩
    · rw [odd]
      refine ⟨?_, ?_, fun isOdd ↦ absurd (by omega) isOdd⟩ <;> push_cast <;> linarith

/-- A shift to the right halves what is represented, and keeps how to round it. -/
theorem Represents.shiftRightOne (represents : Represents extended q) :
    Represents extended.shiftRightOne (q / 2) := by
  obtain ⟨mantissa, round, sticky⟩ := extended
  obtain ⟨half, rfl | rfl⟩ := Nat.even_or_odd' mantissa
  · have shifted : (⟨2 * half, round, sticky⟩ : ExtendedMantissa).shiftRightOne =
        ⟨half, false, round || sticky⟩ := by
      simp [ExtendedMantissa.shiftRightOne]
    rw [shifted]
    cases round <;> cases sticky <;> simp only [Represents, Bool.or_false, Bool.or_true] at * <;>
      push_cast at represents
    case false.false => linarith
    all_goals constructor <;> linarith
  · have shifted : (⟨2 * half + 1, round, sticky⟩ : ExtendedMantissa).shiftRightOne =
        ⟨half, true, round || sticky⟩ := by
      simp [ExtendedMantissa.shiftRightOne, Nat.mul_add_div]
    rw [shifted]
    cases round <;> cases sticky <;> simp only [Represents, Bool.or_false, Bool.or_true] at * <;>
      push_cast at represents
    case false.false => linarith
    all_goals constructor <;> linarith

theorem Represents.shiftRight (represents : Represents extended q) (count : ℕ) :
    Represents (extended >>> count) (q / 2 ^ count) := by
  show Represents (count.repeat ExtendedMantissa.shiftRightOne extended) _
  induction count with
  | zero =>
    rw [pow_zero, div_one]
    exact represents
  | succ count ih =>
    have shifted := ih.shiftRightOne
    rwa [div_div, ← pow_succ] at shifted

theorem mantissa_shiftRight (extended : ExtendedMantissa) (count : ℕ) :
    (extended >>> count).mantissa = extended.mantissa / 2 ^ count := by
  show (count.repeat ExtendedMantissa.shiftRightOne extended).mantissa = _
  induction count with
  | zero => exact (Nat.div_one _).symm
  | succ count ih =>
    rw [pow_succ, ← Nat.div_div_eq_div_mul, ← ih]
    rfl

theorem mantissa_ofMantissaAndAccuracy (mantissa : ℕ) (accuracy : Accuracy) :
    (ExtendedMantissa.ofMantissaAndAccuracy mantissa accuracy).mantissa = mantissa := by
  unfold ExtendedMantissa.ofMantissaAndAccuracy
  split <;> rfl

theorem le_roundedMantissa (extended : ExtendedMantissa) :
    extended.mantissa ≤ extended.roundedMantissa ∧
      extended.roundedMantissa ≤ extended.mantissa + 1 := by
  obtain ⟨mantissa, round, sticky⟩ := extended
  cases round <;> cases sticky <;>
    simp only [ExtendedMantissa.roundedMantissa, ExtendedMantissa.accuracy,
      Accuracy.roundToNearestEven] <;> omega

end Mantissas

/-! ## Binary numbers -/

/-- A binary number with a mantissa and an exponent, narrow where it has to be. -/
def Binary.scaled (negative : Bool) (mantissa : ℕ) (exponent : ℤ) : Binary :=
  ⟨negative, mantissa, exponent, decide (mantissa = 2 ^ 52 ∧ -1074 < exponent)⟩

section Scaled

variable {negative : Bool} {mantissa : ℕ} {exponent : ℤ} {q : ℚ}

theorem isCanonical_scaled (short : mantissa < 2 ^ 53) (least : -1074 ≤ exponent)
    (full : -1074 < exponent → 2 ^ 52 ≤ mantissa) :
    (Binary.scaled negative mantissa exponent).IsCanonical :=
  ⟨short, least, full, decide_eq_true_iff⟩

theorem unpacked_scaled (negative : Bool) (mantissa : ℕ) (exponent : ℤ) :
    (Binary.scaled negative mantissa exponent).unpacked =
      if none : mantissa = 0 then .zero (signOf negative)
      else .finite (signOf negative) mantissa exponent (Nat.pos_of_ne_zero none) := by
  cases mantissa with
  | zero => rfl
  | succ mantissa => rfl

/-- What is nearest to a mantissa rounds to it, if it is not below the places of the exponent. -/
theorem rounds_scaled (nearest : Nearest mantissa q)
    (full : mantissa = 2 ^ 52 → -1074 < exponent → 2 ^ 52 ≤ q) :
    (Binary.scaled negative mantissa exponent).Rounds (q * 2 ^ exponent) := by
  have positive : (0 : ℚ) < 2 ^ exponent := zpow_pos two_pos exponent
  have lowest : (Binary.scaled negative mantissa exponent).lowest ≤ q ∧
      (mantissa % 2 ≠ 0 → (Binary.scaled negative mantissa exponent).lowest < q) := by
    rw [Binary.lowest]
    split
    · next isNarrow =>
      obtain ⟨same, above⟩ := of_decide_eq_true isNarrow
      have least := full same above
      have whole : (mantissa : ℚ) = 2 ^ 52 := by exact_mod_cast same
      have below : (mantissa : ℚ) - 1 / 4 < q := by linarith
      exact ⟨below.le, fun _ ↦ below⟩
    · exact ⟨nearest.below, fun odd ↦ (nearest.inside odd).1⟩
  refine ⟨?_, ?_, fun odd ↦ ⟨?_, ?_⟩⟩
  · exact mul_le_mul_of_nonneg_right lowest.1 positive.le
  · exact mul_le_mul_of_nonneg_right nearest.above positive.le
  · exact mul_lt_mul_of_pos_right (lowest.2 odd) positive
  · exact mul_lt_mul_of_pos_right (nearest.inside odd).2 positive

/-- What is nearest to the end of the places of an exponent rounds to the begin of the next. -/
theorem rounds_scaled_next (above : -1074 ≤ exponent) (nearest : Nearest (2 ^ 53) q) :
    (Binary.scaled negative (2 ^ 52) (exponent + 1)).Rounds (q * 2 ^ exponent) := by
  have place : (2 : ℚ) ^ (exponent + 1) = 2 * 2 ^ exponent := by
    rw [zpow_add_one₀ two_ne_zero, mul_comm]
  have positive : (0 : ℚ) < 2 ^ exponent := zpow_pos two_pos exponent
  have isNarrow : (Binary.scaled negative (2 ^ 52) (exponent + 1)).narrow = true :=
    decide_eq_true ⟨rfl, by omega⟩
  have lowest : (Binary.scaled negative (2 ^ 52) (exponent + 1)).lowest = 2 ^ 52 - 1 / 4 := by
    rw [Binary.lowest, if_pos isNarrow]
    norm_num [Binary.scaled]
  have highest : (Binary.scaled negative (2 ^ 52) (exponent + 1)).highest = 2 ^ 52 + 1 / 2 := by
    norm_num [Binary.highest, Binary.scaled]
  have below := nearest.below
  have above := nearest.above
  push_cast at below above
  have isEven : (Binary.scaled negative (2 ^ 52) (exponent + 1)).mantissa % 2 = 0 := by
    show 2 ^ 52 % 2 = 0
    norm_num
  refine ⟨?_, ?_, fun odd ↦ absurd isEven odd⟩
  · rw [lowest, Binary.place]
    show (2 ^ 52 - 1 / 4) * (2 : ℚ) ^ (exponent + 1) ≤ _
    rw [place, ← mul_assoc]
    exact mul_le_mul_of_nonneg_right (by linarith) positive.le
  · rw [highest, Binary.place]
    show _ ≤ (2 ^ 52 + 1 / 2) * (2 : ℚ) ^ (exponent + 1)
    rw [place, ← mul_assoc]
    exact mul_le_mul_of_nonneg_right (by linarith) positive.le

end Scaled

/-- Two rationals that round to one number are no further from each other than its places. -/
theorem abs_sub_le_of_rounds {a : Binary} (canonical : a.IsCanonical) (exponent : ℤ)
    (least : -1074 ≤ exponent) {q r : ℚ} (first : a.Rounds q) (second : a.Rounds r)
    (le : q ≤ 2 ^ 52 * 2 ^ exponent) : |q - r| ≤ 2 ^ exponent := by
  let bound : Binary := .scaled false (2 ^ 52) exponent
  have isCanonical : bound.IsCanonical := isCanonical_scaled (by decide) least fun _ ↦ le_refl _
  have size : bound.size = 2 ^ 52 * 2 ^ exponent := by
    show ((2 ^ 52 : ℕ) : ℚ) * 2 ^ exponent = _
    push_cast
    rfl
  have less := Binary.size_le_of_rounds canonical isCanonical first bound.rounds_size (size ▸ le)
  have near := Binary.abs_sub_size_le_of_size_le canonical isCanonical less first
  have others := Binary.abs_sub_size_le_of_size_le canonical isCanonical less second
  have place : bound.place = 2 ^ exponent := rfl
  rw [place] at near others
  have triangle := abs_sub_le q a.size r
  rw [abs_sub_comm a.size r] at triangle
  linarith

/-! ## Rounding -/

theorem targetExponent_eq (total : ℤ) :
    Format.binary64.targetExponent total = max (total - 53) (-1074) :=
  rfl

section Rounding

variable {mantissa : ℕ} {exponent : ℤ}

/-- A shift to the exponent that is aimed at leaves a mantissa of 53 bits, or of fewer at the least
exponent. -/
theorem shift_bounds {count : ℕ} (shift : exponent + count =
      Format.binary64.targetExponent (totalExponent mantissa exponent)) :
    mantissa / 2 ^ count < 2 ^ 53 ∧ -1074 ≤ exponent + count ∧
      (-1074 < exponent + count → 2 ^ 52 ≤ mantissa / 2 ^ count) := by
  rw [targetExponent_eq, totalExponent] at shift
  refine ⟨?_, by omega, fun above ↦ ?_⟩
  · have bits : mantissa.log2 + 1 ≤ count + 53 := by omega
    apply Nat.div_lt_of_lt_mul
    rw [← pow_add]
    exact Nat.lt_log2_self.trans_le (Nat.pow_le_pow_right two_pos bits)
  · have bits : mantissa.log2 = 52 + count := by omega
    have nonzero : mantissa ≠ 0 := by
      rintro rfl
      have : Nat.log2 0 = 0 := by decide
      omega
    rw [Nat.le_div_iff_mul_le (Nat.two_pow_pos count), ← pow_add, ← bits]
    exact Nat.log2_self_le nonzero

theorem shiftToTargetExponent_eq {accuracy : Accuracy} {count : ℕ}
    (shift : (Format.binary64.targetExponent (totalExponent mantissa exponent) - exponent).toNat =
      count) :
    shiftToTargetExponent Format.binary64 mantissa exponent accuracy =
      (ExtendedMantissa.ofMantissaAndAccuracy mantissa accuracy >>> count, exponent + count) := by
  rw [← shift]
  rfl

/-- A mantissa of no more than 53 bits stays as it is. -/
theorem shiftToTargetExponent_short (short : mantissa < 2 ^ 53) (least : -1074 ≤ exponent) :
    shiftToTargetExponent Format.binary64 mantissa exponent .exact =
      (⟨mantissa, false, false⟩, exponent) := by
  have bits : mantissa.log2 < 53 := by
    rcases Nat.eq_zero_or_pos mantissa with rfl | positive
    · decide
    · exact (Nat.log2_lt positive.ne').mpr short
  have none : (Format.binary64.targetExponent (totalExponent mantissa exponent) - exponent).toNat =
      0 := by
    rw [targetExponent_eq, totalExponent]
    omega
  rw [shiftToTargetExponent_eq none, Nat.cast_zero, add_zero]
  rfl

/-- The least mantissa of 54 bits is halved. -/
theorem shiftToTargetExponent_carry (least : -1074 ≤ exponent) :
    shiftToTargetExponent Format.binary64 (2 ^ 53) exponent .exact =
      (⟨2 ^ 52, false, false⟩, exponent + 1) := by
  have bits : Nat.log2 (2 ^ 53) = 53 := Nat.log2_two_pow
  have one : (Format.binary64.targetExponent (totalExponent (2 ^ 53) exponent) - exponent).toNat =
      1 := by
    rw [targetExponent_eq, totalExponent, bits]
    omega
  rw [shiftToTargetExponent_eq one]
  rfl

/-- Whether a result of arithmetic is the canonical binary number that a rational with a sign rounds
to. -/
def RoundsTo (result : UnpackedFloat) (negative : Bool) (q : ℚ) : Prop :=
  ∃ value : Binary, value.IsCanonical ∧ value.negative = negative ∧ value.Rounds q ∧
    result = value.unpacked

/-- Rounding gives the binary number that a rational rounds to. -/
theorem roundsTo_roundWithAccuracy (negative : Bool) {accuracy : Accuracy} {q : ℚ}
    (represents : Represents (.ofMantissaAndAccuracy mantissa accuracy) q)
    (fine : exponent ≤ Format.binary64.targetExponent (totalExponent mantissa exponent)) :
    RoundsTo (roundWithAccuracy Format.binary64 (signOf negative) mantissa exponent accuracy)
      negative (q * 2 ^ exponent) := by
  obtain ⟨count, shift⟩ := Int.le.dest fine
  obtain ⟨short, least, full⟩ := shift_bounds shift
  have shifted := represents.shiftRight count
  have first : shiftToTargetExponent Format.binary64 mantissa exponent accuracy =
      (ExtendedMantissa.ofMantissaAndAccuracy mantissa accuracy >>> count, exponent + count) :=
    shiftToTargetExponent_eq (by omega)
  generalize isExtended :
    ExtendedMantissa.ofMantissaAndAccuracy mantissa accuracy >>> count = extended at *
  have truncated : extended.mantissa = mantissa / 2 ^ count := by
    rw [← isExtended, mantissa_shiftRight, mantissa_ofMantissaAndAccuracy]
  rw [← truncated] at short full
  have scale : q * 2 ^ exponent = q / 2 ^ count * 2 ^ (exponent + count) := by
    rw [zpow_add₀ two_ne_zero, zpow_natCast, mul_comm (2 ^ exponent), ← mul_assoc,
      div_mul_cancel₀ q (by positivity)]
  have nearest := shifted.nearest
  obtain ⟨above, below⟩ := le_roundedMantissa extended
  rw [scale]
  unfold roundWithAccuracy
  rw [first]
  dsimp only
  have bits : extended.roundedMantissa ≤ 2 ^ 53 := by omega
  rcases Nat.lt_or_eq_of_le bits with small | carry
  · refine ⟨.scaled negative extended.roundedMantissa (exponent + count),
      isCanonical_scaled small least fun more ↦ (full more).trans above, rfl,
      rounds_scaled nearest fun _ more ↦ ?_, ?_⟩
    · have := shifted.mantissa_le
      have : (2 ^ 52 : ℚ) ≤ extended.mantissa := by exact_mod_cast full more
      linarith
    · rw [shiftToTargetExponent_short small least]
      exact (unpacked_scaled negative extended.roundedMantissa _).symm
  · rw [carry] at nearest ⊢
    refine ⟨.scaled negative (2 ^ 52) (exponent + count + 1),
      isCanonical_scaled (by decide) (by omega) fun _ ↦ le_refl _, rfl,
      rounds_scaled_next least nearest, ?_⟩
    rw [shiftToTargetExponent_carry least]
    exact (unpacked_scaled negative (2 ^ 52) _).symm

end Rounding

end ViewPreview.Number
