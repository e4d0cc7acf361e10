import ViewPreview.Proofs.Number.Rounding
import ViewPreview.Proofs.Number.Shortest
import Mathlib.Tactic.FieldSimp

/-!
# Arithmetic with Numbers

The product, the quotient and the order of numbers in terms of what they denote.  A product or a
quotient of finite numbers is the number that the exact one rounds to, or infinite if that is too
great; natural numbers of at most 53 bits are exact; and numbers are in the order of the values that
they denote.
-/

namespace ViewPreview.Number

open Float.Model (Format UnpackedFloat totalExponent)
open Float.Model.UnpackedFloat

/-- What a canonical binary number denotes: itself, or infinity if its exponent is too great. -/
def Binary.denoted (value : Binary) : Denotation :=
  if value.exponent ≤ 971 then .finite value else .infinite value.negative

/-- The value of a binary number with its sign. -/
def Binary.signed (value : Binary) : ℚ :=
  if value.negative then -value.size else value.size

theorem Binary.abs_signed (a : Binary) : |a.signed| = a.size := by
  unfold signed
  split
  · rw [abs_neg, abs_of_nonneg a.size_nonneg]
  · exact abs_of_nonneg a.size_nonneg

/-! ## Products and quotients -/

theorem signOf_mul (first second : Bool) :
    signOf first * signOf second = signOf (first ^^ second) := by
  cases first <;> cases second <;> rfl

theorem signOf_div (first second : Bool) :
    signOf first / signOf second = signOf (first ^^ second) := by
  cases first <;> cases second <;> rfl

/-- A shift to the right never goes too far for a mantissa of at least 53 bits, nor below the least
exponent. -/
theorem le_targetExponent {mantissa : ℕ} {exponent : ℤ}
    (enough : 2 ^ 52 ≤ mantissa ∨ exponent ≤ -1074) :
    exponent ≤ Format.binary64.targetExponent (totalExponent mantissa exponent) := by
  rw [targetExponent_eq, totalExponent]
  rcases enough with full | small
  · have nonzero : mantissa ≠ 0 := by
      rintro rfl
      exact absurd full (by decide)
    have bits : 52 ≤ mantissa.log2 := (Nat.le_log2 nonzero).mpr full
    omega
  · omega

theorem roundsTo_zero (negative : Bool) : RoundsTo (.zero (signOf negative)) negative 0 := by
  have rounds := (Binary.scaled negative 0 (-1074)).rounds_size
  rw [Binary.size_of_zero rfl] at rounds
  exact ⟨_, isCanonical_scaled (by decide) (le_refl _) fun above ↦ absurd above (lt_irrefl _), rfl,
    rounds, (unpacked_scaled negative 0 (-1074)).symm⟩

/-- A product is rounded. -/
theorem roundsTo_mul {a b : Binary} (first : a.IsCanonical) (second : b.IsCanonical) :
    RoundsTo (UnpackedFloat.mul Format.binary64 a.unpacked b.unpacked)
      (a.negative ^^ b.negative) (a.size * b.size) := by
  have zero := roundsTo_zero (a.negative ^^ b.negative)
  rw [← signOf_mul] at zero
  rcases Nat.eq_zero_or_pos a.mantissa with none | positive <;>
    rcases Nat.eq_zero_or_pos b.mantissa with otherNone | otherPositive
  · rw [Binary.size_of_zero none, zero_mul, Binary.unpacked_of_zero none,
      Binary.unpacked_of_zero otherNone]
    exact zero
  · rw [Binary.size_of_zero none, zero_mul, Binary.unpacked_of_zero none,
      Binary.unpacked_of_pos otherPositive]
    exact zero
  · rw [Binary.size_of_zero otherNone, mul_zero, Binary.unpacked_of_zero otherNone,
      Binary.unpacked_of_pos positive]
    exact zero
  have fine : a.exponent + b.exponent ≤ Format.binary64.targetExponent
      (totalExponent (a.mantissa * b.mantissa) (a.exponent + b.exponent)) := by
    have least := first.least_le
    have otherLeast := second.least_le
    apply le_targetExponent
    by_cases above : -1074 < a.exponent
    · exact .inl ((first.le_mantissa above).trans (Nat.le_mul_of_pos_right _ otherPositive))
    · by_cases otherAbove : -1074 < b.exponent
      · exact .inl ((second.le_mantissa otherAbove).trans (Nat.le_mul_of_pos_left _ positive))
      · right
        omega
  have product : a.size * b.size =
      ((a.mantissa * b.mantissa : ℕ) : ℚ) * 2 ^ (a.exponent + b.exponent) := by
    rw [Binary.size, Binary.size, Binary.place, Binary.place, zpow_add₀ two_ne_zero]
    push_cast
    ring
  rw [product, Binary.unpacked_of_pos positive, Binary.unpacked_of_pos otherPositive]
  have rounded := roundsTo_roundWithAccuracy (a.negative ^^ b.negative)
    (represents_exact (a.mantissa * b.mantissa)) fine
  rwa [← signOf_mul] at rounded

/-- The remainder of a division says how the quotient is to be rounded. -/
theorem represents_accuracyOfFraction (numerator : ℕ) {denominator : ℕ}
    (positive : 0 < denominator) :
    Represents (.ofMantissaAndAccuracy (numerator / denominator)
      (accuracyOfFraction (numerator % denominator) denominator)) (numerator / denominator) := by
  have divisor : (0 : ℚ) < denominator := by exact_mod_cast positive
  have parts : (numerator : ℚ) =
      denominator * (numerator / denominator : ℕ) + (numerator % denominator : ℕ) := by
    exact_mod_cast (Nat.div_add_mod numerator denominator).symm
  have less := Nat.mod_lt numerator positive
  generalize numerator / denominator = whole at *
  generalize numerator % denominator = rest at *
  have quotient : (numerator : ℚ) / denominator = whole + rest / denominator := by
    rw [parts, add_div, mul_div_cancel_left₀ _ divisor.ne']
  rw [quotient, accuracyOfFraction]
  split
  · next none =>
    rw [none]
    simp [Represents, ExtendedMantissa.ofMantissaAndAccuracy]
  · next some =>
    have above : (0 : ℚ) < rest / denominator := by
      have : (0 : ℚ) < rest := by exact_mod_cast Nat.pos_of_ne_zero some
      positivity
    have below : (rest : ℚ) / denominator < 1 := by
      rw [div_lt_one divisor]
      exact_mod_cast less
    have half : (1 : ℚ) / 2 * denominator = denominator / 2 := by ring
    rcases lt_trichotomy (2 * rest) denominator with lower | middle | upper
    · have short : (2 : ℚ) * rest < denominator := by exact_mod_cast lower
      have : (rest : ℚ) / denominator < 1 / 2 := by
        rw [div_lt_iff₀ divisor, half]
        linarith
      rw [compare_lt_iff_lt.mpr lower]
      constructor <;> linarith
    · have same : (2 : ℚ) * rest = denominator := by exact_mod_cast middle
      have : (rest : ℚ) / denominator = 1 / 2 := by
        rw [div_eq_iff divisor.ne', half]
        linarith
      rw [compare_eq_iff_eq.mpr middle]
      show (whole : ℚ) + rest / denominator = whole + 1 / 2
      linarith
    · have long : (denominator : ℚ) < 2 * rest := by exact_mod_cast upper
      have : (1 : ℚ) / 2 < rest / denominator := by
        rw [lt_div_iff₀ divisor, half]
        linarith
      rw [compare_gt_iff_gt.mpr upper]
      constructor <;> linarith

/-- The dividend is shifted to the left until the quotient has at least 53 bits, unless the least
exponent is reached before. -/
theorem exists_divCore_eq {mantissa divisor : ℕ} (exponent divisorExponent : ℤ)
    (positive : 0 < mantissa) (divisor_pos : 0 < divisor) :
    ∃ (count : ℕ) (target : ℤ), target + count = exponent - divisorExponent ∧
      divCore Format.binary64 mantissa exponent divisor divisorExponent =
        (mantissa * 2 ^ count / divisor, target,
          accuracyOfFraction (mantissa * 2 ^ count % divisor) divisor) ∧
      (2 ^ 52 ≤ mantissa * 2 ^ count / divisor ∨ target ≤ -1074) := by
  obtain ⟨target, isTarget⟩ : ∃ target, min (exponent - divisorExponent)
      (Format.binary64.targetExponent
        (totalExponent mantissa exponent - totalExponent divisor divisorExponent)) = target :=
    ⟨_, rfl⟩
  have atMost : target ≤ exponent - divisorExponent := isTarget ▸ min_le_left _ _
  obtain ⟨count, shift⟩ := Int.le.dest atMost
  have count_eq : (exponent - divisorExponent - target).toNat = count := by omega
  refine ⟨count, target, shift, ?_, ?_⟩
  · unfold divCore
    simp only [isTarget, count_eq, Nat.shiftLeft_eq]
  · rw [targetExponent_eq, totalExponent, totalExponent] at isTarget
    rcases le_or_gt target (-1074) with least | above
    · exact .inr least
    · left
      have bits : divisor.log2 + 1 + 52 ≤ mantissa.log2 + count := by omega
      rw [Nat.le_div_iff_mul_le divisor_pos]
      calc 2 ^ 52 * divisor ≤ 2 ^ 52 * 2 ^ (divisor.log2 + 1) :=
            Nat.mul_le_mul_left _ Nat.lt_log2_self.le
        _ = 2 ^ (divisor.log2 + 1 + 52) := by rw [← pow_add, Nat.add_comm]
        _ ≤ 2 ^ (mantissa.log2 + count) := Nat.pow_le_pow_right two_pos bits
        _ = 2 ^ mantissa.log2 * 2 ^ count := pow_add 2 _ _
        _ ≤ mantissa * 2 ^ count := Nat.mul_le_mul_right _ (Nat.log2_self_le positive.ne')

/-- A quotient is rounded. -/
theorem roundsTo_div {a b : Binary} (divisor : 0 < b.mantissa) :
    RoundsTo (UnpackedFloat.div Format.binary64 a.unpacked b.unpacked)
      (a.negative ^^ b.negative) (a.size / b.size) := by
  have zero := roundsTo_zero (a.negative ^^ b.negative)
  rw [← signOf_div] at zero
  rw [Binary.unpacked_of_pos divisor]
  rcases Nat.eq_zero_or_pos a.mantissa with none | positive
  · rw [Binary.size_of_zero none, zero_div, Binary.unpacked_of_zero none]
    exact zero
  obtain ⟨count, target, shift, core, enough⟩ :=
    exists_divCore_eq a.exponent b.exponent positive divisor
  have rounded := roundsTo_roundWithAccuracy (a.negative ^^ b.negative)
    (represents_accuracyOfFraction (a.mantissa * 2 ^ count) divisor) (le_targetExponent enough)
  have quotient : ((a.mantissa * 2 ^ count : ℕ) / b.mantissa : ℚ) * 2 ^ target =
      a.size / b.size := by
    have places : (2 : ℚ) ^ a.exponent = 2 ^ target * 2 ^ count * 2 ^ b.exponent := by
      rw [← zpow_natCast, ← zpow_add₀ two_ne_zero, shift, ← zpow_add₀ two_ne_zero, sub_add_cancel]
    have nonzero : (b.mantissa : ℚ) ≠ 0 := by exact_mod_cast divisor.ne'
    have place : (2 : ℚ) ^ b.exponent ≠ 0 := (zpow_pos two_pos _).ne'
    rw [Binary.size, Binary.size, Binary.place, Binary.place, places]
    push_cast
    field_simp
  rw [quotient, ← signOf_div] at rounded
  rw [Binary.unpacked_of_pos positive]
  unfold UnpackedFloat.div
  dsimp only
  rw [core]
  exact rounded

/-! ## Finite numbers -/

section Numbers

variable {x y : Float} {a b : Binary} {negative : Bool} {q : ℚ}

/-- Whether a number is the one that a rational with a sign rounds to, or infinite where no number
is great enough. -/
def IsRounded (x : Float) (negative : Bool) (q : ℚ) : Prop :=
  ∃ value : Binary, value.IsCanonical ∧ value.negative = negative ∧ value.Rounds q ∧
    denotation x = value.denoted

theorem isRounded_pack {result : UnpackedFloat} (rounds : RoundsTo result negative q) :
    IsRounded (.ofModel (.pack result)) negative q := by
  obtain ⟨value, canonical, sign, rounds, rfl⟩ := rounds
  exact ⟨value, canonical, sign, rounds, denotation_pack canonical⟩

theorem unpack_of_denotes (denotes : denotation x = .finite a) :
    x.toModel.unpack = a.unpacked :=
  unpack_eq denotes

/-- The product of finite numbers is the number that the exact product rounds to. -/
theorem isRounded_mul (first : denotation x = .finite a) (second : denotation y = .finite b) :
    IsRounded (x * y) (a.negative ^^ b.negative) (a.size * b.size) := by
  have unfolded : x * y = .ofModel (.pack (UnpackedFloat.mul Format.binary64 x.toModel.unpack
      y.toModel.unpack)) := rfl
  rw [unfolded, unpack_of_denotes first, unpack_of_denotes second]
  exact isRounded_pack
    (roundsTo_mul (isCanonical_of_denotes first) (isCanonical_of_denotes second))

/-- The quotient of finite numbers is the number that the exact quotient rounds to. -/
theorem isRounded_div (first : denotation x = .finite a) (second : denotation y = .finite b)
    (divisor : 0 < b.mantissa) :
    IsRounded (x / y) (a.negative ^^ b.negative) (a.size / b.size) := by
  have unfolded : x / y = .ofModel (.pack (UnpackedFloat.div Format.binary64 x.toModel.unpack
      y.toModel.unpack)) := rfl
  rw [unfolded, unpack_of_denotes first, unpack_of_denotes second]
  exact isRounded_pack (roundsTo_div divisor)

/-- What a number is rounded from exactly is what it denotes. -/
theorem IsRounded.exact (rounded : IsRounded x a.negative a.size) (canonical : a.IsCanonical)
    (small : a.exponent ≤ 971) : denotation x = .finite a := by
  obtain ⟨value, isCanonical, sign, rounds, denotes⟩ := rounded
  obtain rfl := Binary.eq_of_rounds isCanonical canonical sign rounds a.rounds_size
  rw [denotes, Binary.denoted, if_pos small]

theorem IsRounded.rounds (rounded : IsRounded x negative q) (denotes : denotation x = .finite a) :
    a.Rounds q := by
  obtain ⟨value, -, -, rounds, same⟩ := rounded
  rw [denotes, Binary.denoted] at same
  split at same
  · cases same
    exact rounds
  · cases same

/-- Negation changes the sign and nothing else. -/
theorem denotation_neg (denotes : denotation x = .finite a) (small : a.exponent ≤ 971) :
    denotation (-x) = .finite { a with negative := !a.negative } := by
  have canonical := isCanonical_of_denotes denotes
  have unfolded : -x = .ofModel (.pack x.toModel.unpack.neg) := rfl
  have negated : a.unpacked.neg = Binary.unpacked { a with negative := !a.negative } := by
    obtain ⟨negative, mantissa, exponent, narrow⟩ := a
    cases mantissa with
    | zero => cases negative <;> rfl
    | succ mantissa => cases negative <;> rfl
  have other : Binary.IsCanonical { a with negative := !a.negative } :=
    ⟨canonical.mantissa_lt, canonical.least_le, canonical.le_mantissa, canonical.narrow_iff⟩
  rw [unfolded, unpack_of_denotes denotes, negated, denotation_pack other]
  exact if_pos small

end Numbers

/-! ## Infinite numbers -/

section Infinite

variable {x y : Float} {b : Binary} {negative : Bool}

theorem denotation_infinity (negative : Bool) :
    denotation (.ofModel (.pack (.infinity (signOf negative)))) = .infinite negative := by
  cases negative <;> decide

theorem unpack_of_infinite (infinite : denotation x = .infinite negative) :
    x.toModel.unpack = .infinity (signOf negative) :=
  unpack_eq infinite

theorem infinite_mul (infinite : denotation x = .infinite negative)
    (denotes : denotation y = .finite b) (positive : 0 < b.mantissa) :
    denotation (x * y) = .infinite (negative ^^ b.negative) := by
  have unfolded : x * y = .ofModel (.pack (UnpackedFloat.mul Format.binary64 x.toModel.unpack
      y.toModel.unpack)) := rfl
  rw [unfolded, unpack_of_infinite infinite, unpack_of_denotes denotes,
    Binary.unpacked_of_pos positive, ← denotation_infinity, ← signOf_mul]
  rfl

theorem infinite_div (infinite : denotation x = .infinite negative)
    (denotes : denotation y = .finite b) :
    denotation (x / y) = .infinite (negative ^^ b.negative) := by
  have unfolded : x / y = .ofModel (.pack (UnpackedFloat.div Format.binary64 x.toModel.unpack
      y.toModel.unpack)) := rfl
  rw [unfolded, unpack_of_infinite infinite, unpack_of_denotes denotes, ← denotation_infinity,
    ← signOf_div]
  rcases Nat.eq_zero_or_pos b.mantissa with none | positive
  · rw [Binary.unpacked_of_zero none]
    rfl
  · rw [Binary.unpacked_of_pos positive]
    rfl

theorem beq_infinite (infinite : denotation x = .infinite negative)
    (denotes : denotation y = .finite b) : (x == y) = false := by
  have unfolded : (x == y) = (x.toModel.unpack.compare y.toModel.unpack == some .eq) := rfl
  rw [unfolded, unpack_of_infinite infinite, unpack_of_denotes denotes]
  rcases Nat.eq_zero_or_pos b.mantissa with none | positive
  · rw [Binary.unpacked_of_zero none]
    cases negative <;> rfl
  · rw [Binary.unpacked_of_pos positive]
    cases negative <;> rfl

end Infinite

/-! ## Natural numbers -/

theorem shifted_back (n count : ℕ) : ((n * 2 ^ count : ℕ) : ℚ) * 2 ^ (-count : ℤ) = n := by
  rw [zpow_neg, zpow_natCast]
  push_cast
  rw [mul_assoc, mul_inv_cancel₀ (by positivity), mul_one]

/-- A natural number is rounded. -/
theorem roundsTo_ofNat (n : ℕ) : RoundsTo (UnpackedFloat.ofNat Format.binary64 n) false n := by
  rcases Nat.eq_zero_or_pos n with rfl | positive
  · rw [Nat.cast_zero]
    exact roundsTo_zero false
  · obtain ⟨count, isCount⟩ : ∃ count, (-Format.binary64.targetExponent
        (totalExponent n 0)).toNat = count := ⟨_, rfl⟩
    have unfolded : UnpackedFloat.ofNat Format.binary64 n =
        roundWithAccuracy Format.binary64 (signOf false) (n * 2 ^ count) (-count) .exact := by
      have above : compare (n : ℤ) 0 = .gt := compare_gt_iff_gt.mpr (by omega)
      unfold UnpackedFloat.ofNat UnpackedFloat.ofInt UnpackedFloat.normalize UnpackedFloat.round
        UnpackedFloat.decreaseExponent
      simp only [above, Int.toNat_natCast, zero_sub, isCount, Nat.shiftLeft_eq]
      rfl
    have full : 2 ^ 52 ≤ n * 2 ^ count := by
      rw [targetExponent_eq, totalExponent] at isCount
      have bits : 52 ≤ n.log2 + count := by omega
      calc 2 ^ 52 ≤ 2 ^ (n.log2 + count) := Nat.pow_le_pow_right two_pos bits
        _ = 2 ^ n.log2 * 2 ^ count := pow_add 2 _ _
        _ ≤ n * 2 ^ count := Nat.mul_le_mul_right _ (Nat.log2_self_le positive.ne')
    have fine : -(count : ℤ) ≤ Format.binary64.targetExponent
        (totalExponent (n * 2 ^ count) (-count)) := le_targetExponent (.inl full)
    have rounded := roundsTo_roundWithAccuracy false (represents_exact (n * 2 ^ count)) fine
    rw [shifted_back] at rounded
    rwa [unfolded]

/-- A natural number of at most 53 bits is a canonical binary number. -/
theorem exists_natural {n : ℕ} (short : n < 2 ^ 53) : ∃ value : Binary, value.IsCanonical ∧
    value.negative = false ∧ value.size = n ∧ value.exponent ≤ 971 := by
  rcases Nat.eq_zero_or_pos n with rfl | positive
  · refine ⟨.scaled false 0 (-1074), isCanonical_scaled (by decide) (le_refl _) fun above ↦
      absurd above (lt_irrefl _), rfl, ?_, by decide⟩
    rw [Binary.size_of_zero rfl, Nat.cast_zero]
  · have log : n.log2 < 53 := (Nat.log2_lt positive.ne').mpr short
    obtain ⟨count, bits⟩ : ∃ count, n.log2 + count = 52 := ⟨52 - n.log2, by omega⟩
    have full : 2 ^ 52 ≤ n * 2 ^ count := by
      rw [← bits, pow_add]
      exact Nat.mul_le_mul_right _ (Nat.log2_self_le positive.ne')
    have less : n * 2 ^ count < 2 ^ 53 := by
      have : 2 ^ 53 = 2 ^ (n.log2 + 1) * 2 ^ count := by
        rw [← pow_add]
        congr 1
        omega
      rw [this]
      exact Nat.mul_lt_mul_of_pos_right Nat.lt_log2_self (Nat.two_pow_pos count)
    exact ⟨.scaled false (n * 2 ^ count) (-count),
      isCanonical_scaled less (by omega) fun _ ↦ full, rfl, shifted_back n count, by
        show -(count : ℤ) ≤ 971
        omega⟩

/-- What is no greater than a natural number of at most 53 bits does not round to a greater one. -/
theorem size_le_natural {a : Binary} (canonical : a.IsCanonical) {q : ℚ} (rounds : a.Rounds q)
    {n : ℕ} (short : n < 2 ^ 53) (le : q ≤ n) : a.size ≤ n ∧ a.exponent ≤ 971 := by
  obtain ⟨bound, isCanonical, -, size, small⟩ := exists_natural short
  have least := Binary.size_le_of_rounds canonical isCanonical rounds bound.rounds_size (size ▸ le)
  exact ⟨size ▸ least, (Binary.exponent_le_of_size_le canonical isCanonical least).trans small⟩

theorem denotation_one : denotation (Float.ofBits 0x3FF0000000000000) =
    .finite ⟨false, 2 ^ 52, -52, true⟩ := by
  decide

/-- A natural number of at most 53 bits is denoted exactly. -/
theorem denotation_ofNat {n : ℕ} (short : n < 2 ^ 53) {value : Binary}
    (canonical : value.IsCanonical) (sign : value.negative = false) (size : value.size = n)
    (small : value.exponent ≤ 971) :
    denotation (Float.ofNat n) = .finite value := by
  have toNat : n.toUInt64.toNat = n := Nat.mod_eq_of_lt (short.trans (by decide))
  have first : IsRounded n.toUInt64.toFloat value.negative value.size := by
    rw [sign, size]
    show IsRounded (.ofModel (.pack (UnpackedFloat.ofNat Format.binary64 n.toUInt64.toNat))) false n
    rw [toNat]
    exact isRounded_pack (roundsTo_ofNat n)
  have one : Binary.size ⟨false, 2 ^ 52, -52, true⟩ = 1 := by
    rw [Binary.size, Binary.place]
    norm_num
  have product := isRounded_mul (first.exact canonical small) denotation_one
  rw [one, mul_one, Bool.xor_false] at product
  have unfolded : Float.ofNat n = n.toUInt64.toFloat * Float.ofBits 0x3FF0000000000000 :=
    dif_pos ⟨short, by decide⟩
  rw [unfolded]
  exact product.exact canonical small

/-! ## Comparing -/

section Comparing

variable {x y : Float} {a b : Binary}

/-- The exponents are compared first, and then the mantissas. -/
theorem compare_size (first : a.IsCanonical) (second : b.IsCanonical) :
    (compare a.exponent b.exponent).then (compare a.mantissa b.mantissa) =
      compare a.size b.size := by
  rcases lt_trichotomy a.exponent b.exponent with less | same | greater
  · rw [compare_lt_iff_lt.mpr less,
      compare_lt_iff_lt.mpr (Binary.size_lt_of_exponent_lt first second less)]
    rfl
  · have samePlace : a.place = b.place := by rw [Binary.place, Binary.place, same]
    rw [compare_eq_iff_eq.mpr same]
    show compare a.mantissa b.mantissa = compare a.size b.size
    have scaled := Binary.size_lt_iff_of_exponent_eq same
    have scaledBack := Binary.size_lt_iff_of_exponent_eq same.symm
    rcases lt_trichotomy a.mantissa b.mantissa with less | same | greater
    · rw [compare_lt_iff_lt.mpr less, compare_lt_iff_lt.mpr (scaled.mpr less)]
    · rw [Binary.size, Binary.size, samePlace, same, compare_eq_iff_eq.mpr rfl,
        compare_eq_iff_eq.mpr rfl]
    · rw [compare_gt_iff_gt.mpr greater, compare_gt_iff_gt.mpr (scaledBack.mpr greater)]
  · rw [compare_gt_iff_gt.mpr greater,
      compare_gt_iff_gt.mpr (Binary.size_lt_of_exponent_lt second first greater)]
    rfl

theorem compare_neg (p q : ℚ) : compare (-p) (-q) = (compare p q).swap := by
  rcases lt_trichotomy p q with less | same | greater
  · rw [compare_lt_iff_lt.mpr less, compare_gt_iff_gt.mpr (neg_lt_neg less)]
    rfl
  · rw [same, compare_eq_iff_eq.mpr rfl, compare_eq_iff_eq.mpr rfl]
    rfl
  · rw [compare_gt_iff_gt.mpr greater, compare_lt_iff_lt.mpr (neg_lt_neg greater)]
    rfl

/-- Comparing compares what is denoted. -/
theorem compare_unpacked (first : a.IsCanonical) (second : b.IsCanonical) :
    a.unpacked.compare b.unpacked = some (compare a.signed b.signed) := by
  have sizes := compare_size first second
  rcases Nat.eq_zero_or_pos a.mantissa with zero | positive <;>
    rcases Nat.eq_zero_or_pos b.mantissa with otherZero | otherPositive
  · rw [Binary.unpacked_of_zero zero, Binary.unpacked_of_zero otherZero, Binary.signed,
      Binary.signed, Binary.size_of_zero zero, Binary.size_of_zero otherZero, neg_zero, ite_self,
      ite_self, compare_eq_iff_eq.mpr rfl]
    rfl
  · have size := Binary.size_pos otherPositive
    rw [Binary.unpacked_of_zero zero, Binary.unpacked_of_pos otherPositive, Binary.signed,
      Binary.size_of_zero zero, neg_zero, ite_self, Binary.signed]
    cases b.negative with
    | true =>
      rw [if_pos rfl, compare_gt_iff_gt.mpr (neg_lt_zero.mpr size)]
      rfl
    | false =>
      rw [if_neg Bool.false_ne_true, compare_lt_iff_lt.mpr size]
      rfl
  · have size := Binary.size_pos positive
    rw [Binary.unpacked_of_pos positive, Binary.unpacked_of_zero otherZero, Binary.signed,
      Binary.signed, Binary.size_of_zero otherZero, neg_zero, ite_self]
    cases a.negative with
    | true =>
      rw [if_pos rfl, compare_lt_iff_lt.mpr (neg_lt_zero.mpr size)]
      rfl
    | false =>
      rw [if_neg Bool.false_ne_true, compare_gt_iff_gt.mpr size]
      rfl
  · have size := Binary.size_pos positive
    have otherSize := Binary.size_pos otherPositive
    rw [Binary.unpacked_of_pos positive, Binary.unpacked_of_pos otherPositive, Binary.signed,
      Binary.signed]
    -- magnitudes are compared only where the signs agree, and backwards where both are negative
    cases a.negative <;> cases b.negative
    case false.false => exact congrArg some sizes
    case true.true =>
      show _ = some (compare (-a.size) (-b.size))
      rw [compare_neg, ← sizes]
      rfl
    case false.true =>
      show _ = some (compare a.size (-b.size))
      rw [compare_gt_iff_gt.mpr (show -b.size < a.size by linarith)]
      rfl
    case true.false =>
      show _ = some (compare (-a.size) b.size)
      rw [compare_lt_iff_lt.mpr (show -a.size < b.size by linarith)]
      rfl

theorem compare_of_denotes (first : denotation x = .finite a) (second : denotation y = .finite b) :
    x.toModel.unpack.compare y.toModel.unpack = some (compare a.signed b.signed) := by
  rw [unpack_of_denotes first, unpack_of_denotes second]
  exact compare_unpacked (isCanonical_of_denotes first) (isCanonical_of_denotes second)

/-- Numbers are in the order of what they denote. -/
theorem lt_iff (first : denotation x = .finite a) (second : denotation y = .finite b) :
    x < y ↔ a.signed < b.signed := by
  have unfolded : x < y ↔ (x.toModel.unpack.compare y.toModel.unpack == some .lt) = true := by
    show decide (x.toModel < y.toModel) = true ↔ _
    exact decide_eq_true_iff
  rw [unfolded, compare_of_denotes first second, beq_iff_eq, Option.some.injEq, compare_lt_iff_lt]

theorem beq_iff (first : denotation x = .finite a) (second : denotation y = .finite b) :
    (x == y) = true ↔ a.signed = b.signed := by
  have unfolded : (x == y) = (x.toModel.unpack.compare y.toModel.unpack == some .eq) := rfl
  rw [unfolded, compare_of_denotes first second, beq_iff_eq, Option.some.injEq, compare_eq_iff_eq]

/-- Clamping takes the value between the bounds that is nearest. -/
theorem exists_clamp {low high : Float} {c : Binary} (denotes : denotation x = .finite a)
    (isLow : denotation low = .finite b) (isHigh : denotation high = .finite c)
    (le : b.signed ≤ c.signed) : ∃ value, denotation (clamp x low high) = .finite value ∧
      value.signed = max b.signed (min c.signed a.signed) := by
  unfold clamp
  split
  · next less =>
    rw [lt_iff denotes isLow] at less
    exact ⟨b, isLow, (max_eq_left ((min_le_right _ _).trans less.le)).symm⟩
  · next atLeast =>
    rw [lt_iff denotes isLow, not_lt] at atLeast
    split
    · next more =>
      rw [lt_iff isHigh denotes] at more
      exact ⟨c, isHigh, by rw [min_eq_left more.le, max_eq_right le]⟩
    · next atMost =>
      rw [lt_iff isHigh denotes, not_lt] at atMost
      exact ⟨a, denotes, by rw [min_eq_right atMost, max_eq_right atLeast]⟩

end Comparing

end ViewPreview.Number
