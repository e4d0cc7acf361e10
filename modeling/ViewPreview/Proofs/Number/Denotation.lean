import ViewPreview.Number.Binary
import Mathlib.Algebra.Ring.Nat
import Mathlib.Tactic.Common

/-!
# What Numbers Denote

The binary numbers that finite numbers denote use all places of the mantissa, unless the exponent is
the least one.  No two finite numbers denote the same binary number.
-/

namespace ViewPreview.Number

/-- Whether a binary number is set out as a number denotes it. -/
structure Binary.IsCanonical (x : Binary) : Prop where
  mantissa_lt : x.mantissa < 2 ^ 53
  least_le : -1074 ≤ x.exponent
  le_mantissa : -1074 < x.exponent → 2 ^ 52 ≤ x.mantissa
  narrow_iff : x.narrow = true ↔ x.mantissa = 2 ^ 52 ∧ -1074 < x.exponent

/-- A canonical binary number is known by its sign, its mantissa and its exponent. -/
theorem Binary.IsCanonical.eq {x y : Binary} (first : x.IsCanonical) (second : y.IsCanonical)
    (sameSign : x.negative = y.negative) (sameMantissa : x.mantissa = y.mantissa)
    (sameExponent : x.exponent = y.exponent) : x = y := by
  have sameNarrow : x.narrow = y.narrow := by
    rw [Bool.eq_iff_iff, first.narrow_iff, second.narrow_iff, sameExponent, sameMantissa]
  cases x
  cases y
  cases sameSign
  cases sameMantissa
  cases sameExponent
  cases sameNarrow
  rfl

/-- The binary number with a sign bit, the bits of an exponent and the bits of a fraction. -/
def Binary.ofParts (sign biased fraction : Nat) : Binary :=
  if biased = 0 then ⟨sign == 1, fraction, -1074, false⟩
  else ⟨sign == 1, 2 ^ 52 + fraction, (biased : Int) - 1075, fraction == 0 && biased > 1⟩

theorem toBits_inj {x y : Float} (same : x.toBits.toNat = y.toBits.toNat) : x = y := by
  obtain ⟨⟨bits, valid⟩⟩ := x
  obtain ⟨⟨others, otherValid⟩⟩ := y
  obtain rfl : bits = others := UInt64.toNat_inj.mp same
  rfl

/-- A finite number denotes what the parts of its bits do. -/
theorem exists_parts {x : Float} {value : Binary} (denotes : denotation x = .finite value) :
    ∃ sign biased fraction : Nat, sign < 2 ∧ biased < 2047 ∧ fraction < 2 ^ 52 ∧
      x.toBits.toNat = sign * 2 ^ 63 + biased * 2 ^ 52 + fraction ∧
      value = Binary.ofParts sign biased fraction := by
  have bound : x.toBits.toNat < 2 ^ 64 := x.toBits.toNat_lt
  unfold denotation at denotes
  simp only [Nat.pow_eq, beq_iff_eq] at denotes
  refine ⟨x.toBits.toNat / 2 ^ 63, x.toBits.toNat / 2 ^ 52 % 2 ^ 11, x.toBits.toNat % 2 ^ 52,
    by omega, ?_, by omega, by omega, ?_⟩
  · split at denotes
    · split at denotes <;> cases denotes
    · omega
  · split at denotes
    · split at denotes <;> cases denotes
    · split at denotes
      all_goals
        cases denotes
        rw [Binary.ofParts]
        simp only [*, if_true, if_false]

theorem isCanonical_ofParts {sign biased fraction : Nat} (fraction_lt : fraction < 2 ^ 52) :
    (Binary.ofParts sign biased fraction).IsCanonical := by
  unfold Binary.ofParts
  split
  all_goals
    constructor
    all_goals
      simp
      try omega

theorem ofParts_inj {sign biased fraction sign' biased' fraction' : Nat} (sign_lt : sign < 2)
    (sign_lt' : sign' < 2) (fraction_lt : fraction < 2 ^ 52) (fraction_lt' : fraction' < 2 ^ 52)
    (same : Binary.ofParts sign biased fraction = Binary.ofParts sign' biased' fraction') :
    sign = sign' ∧ biased = biased' ∧ fraction = fraction' := by
  unfold Binary.ofParts at same
  split at same <;> split at same <;>
    simp only [Binary.mk.injEq, Bool.beq_eq_decide_eq, decide_eq_decide] at same <;> omega

theorem exists_denotes {x : Float} (finite : isFinite x = true) :
    ∃ value, denotation x = .finite value := by
  unfold isFinite at finite
  split at finite
  · next value denotes => exact ⟨value, denotes⟩
  · cases finite

theorem isCanonical_of_denotes {x : Float} {value : Binary}
    (denotes : denotation x = .finite value) : value.IsCanonical := by
  obtain ⟨sign, biased, fraction, -, -, fraction_lt, -, rfl⟩ := exists_parts denotes
  exact isCanonical_ofParts fraction_lt

theorem exponent_le_of_denotes {x : Float} {a : Binary} (denotes : denotation x = .finite a) :
    a.exponent ≤ 971 := by
  obtain ⟨sign, biased, fraction, -, biased_lt, -, -, rfl⟩ := exists_parts denotes
  unfold Binary.ofParts
  split
  · dsimp only
    decide
  · dsimp only
    omega

/-- No two finite numbers denote the same binary number. -/
theorem denotation_inj {x y : Float} {value : Binary} (first : denotation x = .finite value)
    (second : denotation y = .finite value) : x = y := by
  obtain ⟨sign, biased, fraction, sign_lt, -, fraction_lt, bits, rfl⟩ := exists_parts first
  obtain ⟨sign', biased', fraction', sign_lt', -, fraction_lt', bits', same⟩ := exists_parts second
  obtain ⟨rfl, rfl, rfl⟩ := ofParts_inj sign_lt sign_lt' fraction_lt fraction_lt' same
  exact toBits_inj (bits.trans bits'.symm)

end ViewPreview.Number
