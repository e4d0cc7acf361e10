import ViewPreview.Proofs.Number.Denotation

/-!
# Packed Numbers

Arithmetic takes the bits of a number apart into a sign, a mantissa and an exponent, and packs its
result into bits again.  What it takes apart is what the number denotes, and a canonical binary
number is packed into a number that denotes it, or into infinity if its exponent is too great.
-/

namespace ViewPreview.Number

open Float.Model (Format UnpackedFloat)
open Float.Model.UnpackedFloat

/-! ## The fields of the bits -/

theorem toNat_unpackMantissa (bits : BitVec Format.binary64.numBits) :
    (unpackMantissa bits).toNat = bits.toNat % 2 ^ 52 := by
  simp [unpackMantissa]

theorem toNat_unpackExponent (bits : BitVec Format.binary64.numBits) :
    (unpackExponent bits).toNat = bits.toNat / 2 ^ 52 % 2 ^ 11 := by
  simp [unpackExponent, Nat.shiftRight_eq_div_pow]

theorem toNat_unpackSign (bits : BitVec Format.binary64.numBits) :
    (unpackSign bits).toNat = bits.toNat / 2 ^ 63 % 2 := by
  show (bits.extractLsb' 63 1).toNat = _
  simp [Nat.shiftRight_eq_div_pow]

/-- The sign of a number, as arithmetic has it. -/
def signOf (negative : Bool) : Sign :=
  if negative then .negative else .positive

theorem toNat_toBitVec_signOf (negative : Bool) :
    (signOf negative).toBitVec.toNat = negative.toNat := by
  cases negative <;> rfl

theorem toNat_packComponents (negative : Bool) (exponent mantissa : Nat) :
    (packComponents Format.binary64 (signOf negative) (BitVec.ofNat 11 exponent)
      (BitVec.ofNat 52 mantissa)).toNat =
      negative.toNat * 2 ^ 63 + (exponent % 2 ^ 11 * 2 ^ 52 + mantissa % 2 ^ 52) := by
  unfold packComponents
  rw [BitVec.toNat_append, BitVec.toNat_append,
    ← Nat.shiftLeft_add_eq_or_of_lt (BitVec.ofNat 11 exponent).isLt,
    ← Nat.shiftLeft_add_eq_or_of_lt (BitVec.ofNat 52 mantissa).isLt, Nat.shiftLeft_eq,
    Nat.shiftLeft_eq, toNat_toBitVec_signOf, BitVec.toNat_ofNat, BitVec.toNat_ofNat]
  omega

theorem ofBitVec_eq (sign : BitVec 1) : Sign.ofBitVec sign = signOf (sign.toNat == 1) := by
  rcases BitVec.eq_zero_or_eq_one sign with rfl | rfl
  · rfl
  · rfl

/-! ## Taking apart -/

/-- A binary number as arithmetic takes it apart. -/
def Binary.unpacked (x : Binary) : UnpackedFloat :=
  if positive : 0 < x.mantissa then .finite (signOf x.negative) x.mantissa x.exponent positive
  else .zero (signOf x.negative)

theorem Binary.unpacked_of_pos {a : Binary} (positive : 0 < a.mantissa) :
    a.unpacked = .finite (signOf a.negative) a.mantissa a.exponent positive :=
  dif_pos positive

theorem Binary.unpacked_of_zero {a : Binary} (zero : a.mantissa = 0) :
    a.unpacked = .zero (signOf a.negative) :=
  dif_neg (Nat.not_lt_of_ge (Nat.le_of_eq zero))

/-- What is denoted, as arithmetic takes it apart. -/
def Denotation.unpacked : Denotation → UnpackedFloat
  | .notANumber => .notANumber
  | .infinite negative => .infinity (signOf negative)
  | .finite value => value.unpacked

theorem finite_congr {sign : Sign} {m n : Nat} {e f : Int} {first : 0 < m} {second : 0 < n}
    (sameMantissa : m = n) (sameExponent : e = f) :
    UnpackedFloat.finite sign m e first = .finite sign n f second := by
  subst sameMantissa sameExponent
  rfl

/-- A number is taken apart into what it denotes. -/
theorem unpack_eq {x : Float} {denoted : Denotation} (denotes : denotation x = denoted) :
    x.toModel.unpack = denoted.unpacked := by
  have bound : x.toBits.toNat < 2 ^ 64 := x.toBits.toNat_lt
  let bits : BitVec Format.binary64.numBits := x.toModel.toBits.toBitVec
  have sign : Sign.ofBitVec (unpackSign bits) = signOf (x.toBits.toNat / 2 ^ 63 == 1) := by
    rw [ofBitVec_eq, toNat_unpackSign]
    congr 2
    exact Nat.mod_eq_of_lt (Nat.div_lt_of_lt_mul bound)
  have mantissa : (unpackMantissa bits).toNat = x.toBits.toNat % 2 ^ 52 :=
    toNat_unpackMantissa bits
  have exponent : (unpackExponent bits).toNat = x.toBits.toNat / 2 ^ 52 % 2 ^ 11 :=
    toNat_unpackExponent bits
  have full : unpackExponent bits = -1#_ ↔ x.toBits.toNat / 2 ^ 52 % 2 ^ 11 = 2047 := by
    rw [← BitVec.toNat_inj, exponent]
    rfl
  have none : unpackExponent bits = 0#_ ↔ x.toBits.toNat / 2 ^ 52 % 2 ^ 11 = 0 := by
    rw [← BitVec.toNat_inj, exponent]
    rfl
  have empty : unpackMantissa bits = 0#_ ↔ x.toBits.toNat % 2 ^ 52 = 0 := by
    rw [← BitVec.toNat_inj, mantissa]
    rfl
  subst denotes
  unfold denotation
  simp only [Nat.pow_eq, beq_iff_eq]
  show UnpackedFloat.unpack Format.binary64 bits = _
  unfold UnpackedFloat.unpack
  dsimp only
  rw [sign]
  by_cases isFull : unpackExponent bits = -1#_
  · rw [if_pos isFull, if_pos (full.mp isFull)]
    by_cases isEmpty : unpackMantissa bits = 0#_
    · rw [if_pos isEmpty, if_pos (empty.mp isEmpty)]
      rfl
    · rw [if_neg isEmpty, if_neg (mt empty.mpr isEmpty)]
      rfl
  rw [if_neg isFull, if_neg (mt full.mpr isFull)]
  by_cases noExponent : unpackExponent bits = 0#_
  · rw [if_pos noExponent, if_pos (none.mp noExponent)]
    show _ = Binary.unpacked _
    by_cases isEmpty : unpackMantissa bits = 0#_
    · rw [dif_pos isEmpty]
      exact Eq.symm (Binary.unpacked_of_zero (empty.mp isEmpty))
    · have positive : 0 < x.toBits.toNat % 2 ^ 52 := Nat.pos_of_ne_zero (mt empty.mpr isEmpty)
      rw [dif_neg isEmpty, Binary.unpacked, dif_pos positive]
      refine finite_congr mantissa ?_
      rw [exponent, none.mp noExponent]
      rfl
  · rw [if_neg noExponent, if_neg (mt none.mpr noExponent)]
    show _ = Binary.unpacked _
    have implicit : (1#1 ++ unpackMantissa bits).toNat = 2 ^ 52 + x.toBits.toNat % 2 ^ 52 := by
      rw [BitVec.toNat_append, ← Nat.shiftLeft_add_eq_or_of_lt (unpackMantissa bits).isLt,
        mantissa]
      rfl
    have positive : 0 < 2 ^ 52 + x.toBits.toNat % 2 ^ 52 := Nat.add_pos_left (by decide) _
    rw [Binary.unpacked, dif_pos positive]
    refine finite_congr implicit ?_
    rw [exponent]
    rfl

/-! ## Packing -/

/-- The denotation of a number with a sign bit, the bits of an exponent and those of a fraction. -/
theorem denotation_of_bits {x : Float} {negative : Bool} {biased fraction : Nat}
    (biased_lt : biased < 2048) (fraction_lt : fraction < 2 ^ 52)
    (bits : x.toBits.toNat = negative.toNat * 2 ^ 63 + biased * 2 ^ 52 + fraction) :
    denotation x =
      if biased = 2047 then if fraction = 0 then .infinite negative else .notANumber
      else .finite (.ofParts negative.toNat biased fraction) := by
  have sign : x.toBits.toNat / 2 ^ 63 = negative.toNat := by omega
  have exponent : x.toBits.toNat / 2 ^ 52 % 2 ^ 11 = biased := by omega
  have mantissa : x.toBits.toNat % 2 ^ 52 = fraction := by omega
  have isNegative : (negative.toNat == 1) = negative := by cases negative <;> rfl
  unfold denotation
  simp only [Nat.pow_eq, sign, exponent, mantissa, isNegative, beq_iff_eq]
  split
  · rfl
  · rw [Binary.ofParts, isNegative]
    split
    · rfl
    · rfl

theorem toNat_toBits_pack (unpacked : UnpackedFloat) :
    (Float.ofModel (.pack unpacked)).toBits.toNat =
      (UnpackedFloat.pack Format.binary64 unpacked).toNat := rfl

/-- The parts that a canonical binary number is packed into. -/
theorem ofParts_eq {value : Binary} (canonical : value.IsCanonical) :
    value = .ofParts value.negative.toNat
      (if value.mantissa < 2 ^ 52 then 0 else (value.exponent + 1075).toNat)
      (value.mantissa % 2 ^ 52) := by
  have least := canonical.least_le
  have full := canonical.le_mantissa
  have short := canonical.mantissa_lt
  have isNegative : (value.negative.toNat == 1) = value.negative := by
    cases value.negative <;> rfl
  have parts := @isCanonical_ofParts value.negative.toNat
    (if value.mantissa < 2 ^ 52 then 0 else (value.exponent + 1075).toNat) (value.mantissa % 2 ^ 52)
    (Nat.mod_lt _ (by decide))
  by_cases small : value.mantissa < 2 ^ 52
  · rw [if_pos small, Binary.ofParts, if_pos rfl] at *
    refine canonical.eq parts isNegative.symm ?_ ?_
    · exact (Nat.mod_eq_of_lt small).symm
    · dsimp only
      omega
  · have positive : (value.exponent + 1075).toNat ≠ 0 := by omega
    rw [if_neg small, Binary.ofParts, if_neg positive] at *
    refine canonical.eq parts isNegative.symm ?_ ?_
    · dsimp only
      omega
    · dsimp only
      omega

/-- The bits of a canonical binary number: one with an exponent that is too great has all bits of the
exponent and none of the fraction. -/
theorem toNat_pack_unpacked {value : Binary} (canonical : value.IsCanonical) :
    (UnpackedFloat.pack Format.binary64 value.unpacked).toNat =
      value.negative.toNat * 2 ^ 63 +
        if value.exponent ≤ 971 then
          (if value.mantissa < 2 ^ 52 then 0 else (value.exponent + 1075).toNat) * 2 ^ 52 +
            value.mantissa % 2 ^ 52
        else 2047 * 2 ^ 52 := by
  have least := canonical.least_le
  have full := canonical.le_mantissa
  have short := canonical.mantissa_lt
  rcases Nat.eq_zero_or_pos value.mantissa with none | positive
  · have small : value.exponent ≤ 971 := by omega
    have less : value.mantissa < 2 ^ 52 := by omega
    rw [Binary.unpacked_of_zero none]
    refine (toNat_packComponents value.negative 0 0).trans ?_
    rw [if_pos small, if_pos less]
    omega
  · have biased : (value.exponent + (Format.binary64.exponentBias : Int) +
        (Format.binary64.mantissaBitsWithoutImplicit : Int)).toNat =
        (value.exponent + 1075).toNat := congrArg Int.toNat (Int.add_assoc _ _ _)
    rw [Binary.unpacked_of_pos positive]
    unfold UnpackedFloat.pack
    dsimp only
    rw [biased]
    have log : value.mantissa.log2 < 52 ↔ value.mantissa < 2 ^ 52 :=
      Nat.log2_lt (Nat.pos_iff_ne_zero.mp positive)
    have log_lt : value.mantissa.log2 < 53 :=
      (Nat.log2_lt (Nat.pos_iff_ne_zero.mp positive)).mpr short
    split
    · next overflow =>
      have overflow : 2 ^ 11 ≤ (value.exponent + 1075).toNat + 1 := overflow
      have large : ¬value.exponent ≤ 971 := by omega
      refine (toNat_packComponents value.negative 2047 0).trans ?_
      rw [if_neg large]
      omega
    · next fits =>
      have fits : ¬2 ^ 11 ≤ (value.exponent + 1075).toNat + 1 := fits
      have small : value.exponent ≤ 971 := by omega
      rw [if_pos small]
      split
      · next normal =>
        have normal : value.mantissa.log2 + 1 = 53 := normal
        have whole : ¬value.mantissa < 2 ^ 52 := by omega
        refine (toNat_packComponents value.negative _ _).trans ?_
        rw [if_neg whole, Nat.mod_eq_of_lt (by omega)]
      · next subnormal =>
        have subnormal : ¬value.mantissa.log2 + 1 = 53 := subnormal
        have less : value.mantissa < 2 ^ 52 := by omega
        refine (toNat_packComponents value.negative 0 _).trans ?_
        rw [if_pos less]
        rfl

/-- What a canonical binary number denotes when it is packed. -/
theorem denotation_pack {value : Binary} (canonical : value.IsCanonical) :
    denotation (.ofModel (.pack value.unpacked)) =
      if value.exponent ≤ 971 then .finite value else .infinite value.negative := by
  have least := canonical.least_le
  have full := canonical.le_mantissa
  have short := canonical.mantissa_lt
  have bits := (toNat_toBits_pack value.unpacked).trans (toNat_pack_unpacked canonical)
  split
  · next small =>
    rw [if_pos small, ← Nat.add_assoc] at bits
    rw [denotation_of_bits (by split <;> omega) (Nat.mod_lt _ (by decide)) bits,
      if_neg (by split <;> omega), ← ofParts_eq canonical]
  · next large =>
    rw [if_neg large] at bits
    have parts := bits.trans (Nat.add_zero _).symm
    rw [denotation_of_bits (by decide) (by decide) parts, if_pos rfl, if_pos rfl]

end ViewPreview.Number
