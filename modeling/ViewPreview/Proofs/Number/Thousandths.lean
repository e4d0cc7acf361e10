import ViewPreview.Proofs.Number.Arithmetic
import ViewPreview.Proofs.Number.Written

/-!
# Numbers to Three Places

A style sheet shows a number by its thousandths: the number is multiplied by a thousand, the product
is rounded to a whole number, this is divided again, and the shortest decimal of the quotient is
written.  The product, the quotient and the decimal are only near to what they stand for, so that
`Thousandths` keeps them apart.  Still a whole number is a bound of what is shown exactly when its
thousandths are a bound of the count, and what is shown of a number of moderate size is not much
further from it than half a thousandth.
-/

namespace ViewPreview.Number

open ViewPreview.Text

/-! ## Whole numbers -/

/-- Rounding a fraction with the upper half leaves less than a half, or a half below. -/
theorem half_bounds (numerator : ℕ) {denominator count : ℕ} (positive : 0 < denominator)
    (isCount : (2 * numerator + denominator) / (denominator * 2) = count) :
    (count - 1 / 2 : ℚ) ≤ numerator / denominator ∧
      (numerator / denominator : ℚ) < count + 1 / 2 := by
  have below : count * (denominator * 2) ≤ 2 * numerator + denominator := by
    rw [← isCount]
    exact Nat.div_mul_le_self _ _
  have above : 2 * numerator + denominator < count * (denominator * 2) + denominator * 2 := by
    rw [← isCount]
    exact Nat.lt_div_mul_add (Nat.mul_pos positive two_pos)
  have low : (count * (denominator * 2) : ℚ) ≤ 2 * numerator + denominator := by
    exact_mod_cast below
  have high : (2 * numerator + denominator : ℚ) < count * (denominator * 2) + denominator * 2 := by
    exact_mod_cast above
  have divisor : (0 : ℚ) < denominator := by exact_mod_cast positive
  rw [le_div_iff₀ divisor, div_lt_iff₀ divisor]
  constructor <;> linarith

/-- A finite number is rounded to a whole number of its sign, with the upper half. -/
theorem exists_whole {x : Float} {a : Binary} (denotes : denotation x = .finite a) :
    ∃ (count : ℕ) (whole : Binary), denotation (roundHalfAway x) = .finite whole ∧
      whole.negative = a.negative ∧ whole.size = count ∧
      count - 1 / 2 ≤ a.size ∧ a.size < count + 1 / 2 := by
  have canonical := isCanonical_of_denotes denotes
  obtain ⟨negative, mantissa, exponent, narrow⟩ := a
  cases exponent with
  | ofNat k =>
    have same : roundHalfAway x = x := by
      unfold roundHalfAway
      rw [denotes]
    have size : Binary.size ⟨negative, mantissa, .ofNat k, narrow⟩ = (mantissa * 2 ^ k : ℕ) := by
      rw [Binary.size, Binary.place, Nat.cast_mul, Nat.cast_pow, Nat.cast_ofNat]
      rfl
    refine ⟨mantissa * 2 ^ k, _, same.symm ▸ denotes, rfl, size, ?_, ?_⟩
    · rw [size]
      linarith
    · rw [size]
      linarith
  | negSucc k =>
    have short : mantissa < 2 ^ 53 := canonical.mantissa_lt
    have size : Binary.size ⟨negative, mantissa, .negSucc k, narrow⟩ =
        mantissa / (2 ^ (k + 1) : ℕ) := by
      rw [Binary.size, Binary.place, zpow_negSucc, Nat.cast_pow, Nat.cast_ofNat, div_eq_mul_inv]
    obtain ⟨count, isCount⟩ :
        ∃ count, (2 * mantissa + 2 ^ (k + 1)) / (2 ^ (k + 1) * 2) = count := ⟨_, rfl⟩
    have rounded : roundHalfAway x =
        if negative then -Float.ofNat count else Float.ofNat count := by
      unfold roundHalfAway
      rw [denotes]
      dsimp only
      rw [Nat.pow_eq, Nat.pow_eq, Nat.pow_succ 2 (k + 1), isCount]
    have positive : 0 < 2 ^ (k + 1) := Nat.two_pow_pos _
    have less : count < 2 ^ 53 := by
      rw [← isCount]
      apply Nat.div_lt_of_lt_mul
      omega
    obtain ⟨whole, isCanonical, sign, wholeSize, small⟩ := exists_natural less
    have isWhole := denotation_ofNat less isCanonical sign wholeSize small
    rw [size]
    cases negative with
    | false =>
      exact ⟨count, whole, rounded ▸ isWhole, sign, wholeSize, half_bounds mantissa positive isCount⟩
    | true =>
      refine ⟨count, { whole with negative := true }, ?_, rfl, wholeSize,
        half_bounds mantissa positive isCount⟩
      rw [rounded, if_pos rfl, denotation_neg isWhole small, sign]
      rfl

/-! ## What a text shows -/

/-- Whether a text is a numeral of a value, with its sign. -/
def Shows (text : String) (value : ℚ) : Prop :=
  ∃ negative body size, text.toList = signChars negative ++ body ∧ Denotes body size ∧
    value = if negative then -size else size

theorem Shows.unique {text : String} {p q : ℚ} (first : Shows text p) (second : Shows text q) :
    p = q := by
  obtain ⟨negative, body, size, same, denotes, rfl⟩ := first
  obtain ⟨negative', body', size', same', denotes', rfl⟩ := second
  obtain ⟨rfl, rfl⟩ := signChars_inj denotes denotes' (same.symm.trans same')
  rw [← denotes.size, ← denotes'.size]

theorem endsInZeros_plain : Layout.plain.EndsInZeros :=
  ⟨0, rfl⟩

theorem shows_plainText {x : Float} {a : Binary} (denotes : denotation x = .finite a) :
    Shows (plainText x)
      (if a.negative then -Layout.plain.writtenDecimal a else Layout.plain.writtenDecimal a) := by
  obtain ⟨body, written, size⟩ := exists_text_eq endsInZeros_plain denotes
  exact ⟨a.negative, body, _, written, size, rfl⟩

theorem shows_zero : Shows "0" 0 := by
  let numeral : Numeral :=
    ⟨false, ['0'], zeros 0, List.cons_ne_nil _ _, List.forall_mem_singleton.mpr rfl,
      fun _ ↦ isAsciiDigit_of_mem_zeros⟩
  have zero : numeral.size = 0 := (placesSize_zeros ['0'] 0).trans rfl
  exact ⟨false, ['0'], 0, rfl, zero ▸ numeral.denotes_unsigned, rfl⟩

/-- The text of an infinite number is no numeral. -/
theorem not_shows_infinite (negative : Bool) (q : ℚ) :
    ¬ Shows (if negative then "-inf" else "inf") q := by
  rintro ⟨sign, body, size, same, ⟨⟨c, rest, rfl, digit⟩, -⟩, -⟩
  have written : (if negative then "-inf" else "inf").toList =
      signChars negative ++ ['i', 'n', 'f'] := by
    cases negative <;> rfl
  rw [written] at same
  cases negative <;> cases sign <;> cases same <;> cases digit

theorem rounds_writtenDecimal {layout : Layout} {a : Binary} (canonical : a.IsCanonical) :
    a.Rounds (layout.writtenDecimal a) := by
  unfold Layout.writtenDecimal
  split
  · next zero =>
    have rounds := a.rounds_size
    rwa [Binary.size_of_zero zero] at rounds
  · next nonzero => exact Binary.rounds_shortest canonical (Nat.pos_of_ne_zero nonzero) layout.tie

theorem writtenDecimal_of_signed_eq_zero {layout : Layout} {a : Binary} (zero : a.signed = 0) :
    layout.writtenDecimal a = 0 := by
  apply if_pos
  by_contra nonzero
  have positive := Binary.size_pos (Nat.pos_of_ne_zero nonzero)
  unfold Binary.signed at zero
  split at zero <;> linarith

theorem writtenDecimal_of_pos {layout : Layout} {a : Binary} (positive : 0 < a.mantissa) :
    layout.writtenDecimal a = (a.shortest layout.tie).size :=
  if_neg positive.ne'

theorem writtenDecimal_one (negative : Bool) :
    Layout.plain.writtenDecimal (.scaled negative (2 ^ 52) (-52)) = (1 : ℕ) := by
  have shortest : (Binary.scaled negative (2 ^ 52) (-52)).shortest Layout.plain.tie = ⟨1, 0⟩ := by
    cases negative <;> decide +kernel
  rw [writtenDecimal_of_pos (Nat.two_pow_pos 52), shortest, Decimal.size]
  norm_num

theorem writtenDecimal_hundred (negative : Bool) :
    Layout.plain.writtenDecimal (.scaled negative (100 * 2 ^ 46) (-46)) = (100 : ℕ) := by
  have shortest : (Binary.scaled negative (100 * 2 ^ 46) (-46)).shortest Layout.plain.tie =
      ⟨1, 2⟩ := by
    cases negative <;> decide +kernel
  rw [writtenDecimal_of_pos (Nat.mul_pos (by decide) (Nat.two_pow_pos 46)), shortest, Decimal.size]
  norm_num

/-! ## Three places -/

/-- How a magnitude is brought to three places: a whole number of thousandths is counted, and what
the count comes to is written. -/
structure Thousandths (q : ℚ) where
  product : Binary
  count : ℕ
  quotient : Binary
  product_canonical : product.IsCanonical
  rounds_product : product.Rounds (q * 1000)
  count_le : count - 1 / 2 ≤ product.size
  lt_count : product.size < count + 1 / 2
  quotient_canonical : quotient.IsCanonical
  rounds_quotient : quotient.Rounds (count / 1000)

/-- The decimal that is written. -/
def Thousandths.shown {q : ℚ} (thousandths : Thousandths q) : ℚ :=
  Layout.plain.writtenDecimal thousandths.quotient

namespace Thousandths

variable {q : ℚ} (thousandths : Thousandths q)

theorem rounds_shown : thousandths.quotient.Rounds thousandths.shown :=
  rounds_writtenDecimal thousandths.quotient_canonical

theorem count_le_iff (n : ℕ) : thousandths.count ≤ n ↔ thousandths.product.size < n + 1 / 2 := by
  have below := thousandths.count_le
  have above := thousandths.lt_count
  constructor
  · intro le
    have : (thousandths.count : ℚ) ≤ n := by exact_mod_cast le
    linarith
  · intro less
    have : (thousandths.count : ℚ) < n + 1 := by linarith
    exact Nat.le_of_lt_succ (by exact_mod_cast this)

/-- A natural number that is written as it is bounds what is shown exactly when its thousandths bound
the count. -/
theorem shown_le_iff (bound : Binary) (n : ℕ) (canonical : bound.IsCanonical)
    (sameSign : thousandths.quotient.negative = bound.negative) (size : bound.size = n)
    (fine : bound.place < 1 / 500) (written : Layout.plain.writtenDecimal bound = n) :
    thousandths.shown ≤ n ↔ thousandths.count ≤ 1000 * n := by
  have own := thousandths.quotient_canonical
  have rounds := thousandths.rounds_quotient
  have shows := thousandths.rounds_shown
  have boundRounds : bound.Rounds n := size ▸ bound.rounds_size
  -- a count that differs does not round to the bound
  have differs (same : thousandths.quotient.size = bound.size) :
      |(thousandths.count : ℚ) / 1000 - n| < 1 / 1000 := by
    have near := Binary.abs_sub_size_le_of_size_le own canonical same.le rounds
    rw [same, size] at near
    linarith
  have atLeast (le : (n : ℚ) ≤ thousandths.shown ∨ (n : ℚ) ≤ thousandths.count / 1000) :
      bound.size ≤ thousandths.quotient.size :=
    le.elim (Binary.size_le_of_rounds canonical own boundRounds shows)
      (Binary.size_le_of_rounds canonical own boundRounds rounds)
  have atMost (le : thousandths.shown ≤ n ∨ (thousandths.count : ℚ) / 1000 ≤ n) :
      thousandths.quotient.size ≤ bound.size :=
    le.elim (Binary.size_le_of_rounds own canonical shows boundRounds)
      (Binary.size_le_of_rounds own canonical rounds boundRounds)
  constructor
  · intro le
    by_contra greater
    have more : (1000 * n + 1 : ℚ) ≤ thousandths.count := by exact_mod_cast not_le.mp greater
    have near := differs ((atMost (.inl le)).antisymm (atLeast (.inr (by linarith))))
    rw [abs_lt] at near
    linarith
  · intro le
    rcases Nat.lt_or_eq_of_le le with less | same
    · have more : (thousandths.count + 1 : ℚ) ≤ 1000 * n := by exact_mod_cast less
      by_contra greater
      have near := differs ((atMost (.inr (by linarith))).antisymm
        (atLeast (.inl (not_le.mp greater).le)))
      rw [abs_lt] at near
      linarith
    · have counted : (thousandths.count : ℚ) / 1000 = n := by
        rw [same]
        push_cast
        linarith
      rw [counted] at rounds
      rw [shown, Binary.eq_of_rounds own canonical sameSign rounds boundRounds, written]

theorem shown_nonneg : 0 ≤ thousandths.shown := by
  unfold shown Layout.writtenDecimal
  split
  · exact le_refl 0
  · rw [Decimal.size]
    positivity

/-- Nothing is shown when there are no thousandths to count. -/
theorem shown_eq_zero_iff : thousandths.shown = 0 ↔ thousandths.count = 0 := by
  have zero := thousandths.shown_le_iff (.scaled thousandths.quotient.negative 0 (-1074)) 0
    (isCanonical_scaled (by decide) (le_refl _) fun above ↦ absurd above (lt_irrefl _)) rfl
    (Binary.size_of_zero rfl) ?_ ?_
  · rw [Nat.cast_zero, mul_zero, Nat.le_zero] at zero
    rw [← zero]
    exact ⟨le_of_eq, fun le ↦ le.antisymm thousandths.shown_nonneg⟩
  · have small : (2 : ℚ) ^ (-1074 : ℤ) ≤ 2 ^ (-9 : ℤ) := zpow_le_zpow_right₀ one_le_two (by decide)
    exact small.trans_lt (by norm_num)
  · rfl

theorem shown_of_zero (zero : q = 0) : thousandths.shown = 0 := by
  have none : q * 1000 = 0 := by rw [zero, zero_mul]
  have product := thousandths.rounds_product
  rw [none] at product
  have near := abs_sub_le_of_rounds thousandths.product_canonical (-2) (by decide) product
    thousandths.product.rounds_size (by positivity)
  norm_num only [abs_le] at near
  rw [thousandths.shown_eq_zero_iff, ← Nat.le_zero, thousandths.count_le_iff]
  push_cast
  linarith

theorem shown_le_one_iff : thousandths.shown ≤ 1 ↔ thousandths.count ≤ 1000 := by
  have one := thousandths.shown_le_iff (.scaled thousandths.quotient.negative (2 ^ 52) (-52)) 1
    (isCanonical_scaled (by decide) (by decide) fun _ ↦ le_refl _) rfl ?_ ?_ ?_
  · rwa [Nat.cast_one] at one
  · norm_num [Binary.size, Binary.place, Binary.scaled]
  · norm_num [Binary.place, Binary.scaled]
  · exact writtenDecimal_one _

theorem shown_le_hundred_iff : thousandths.shown ≤ 100 ↔ thousandths.count ≤ 100000 := by
  have hundred := thousandths.shown_le_iff
    (.scaled thousandths.quotient.negative (100 * 2 ^ 46) (-46)) 100
    (isCanonical_scaled (by decide) (by decide) fun _ ↦ by decide) rfl ?_ ?_ ?_
  · exact_mod_cast hundred
  · norm_num [Binary.size, Binary.place, Binary.scaled]
  · norm_num [Binary.place, Binary.scaled]
  · exact writtenDecimal_hundred _

/-- What is shown of a number up to a hundred is no further from it than half a thousandth, apart
from the roundings of the product, the quotient and the decimal. -/
theorem abs_shown_sub_le (le : q ≤ 101) : |thousandths.shown - q| ≤ 1 / 2000 + 1 / 10 ^ 13 := by
  have below := thousandths.count_le
  have above := thousandths.lt_count
  have product := abs_sub_le_of_rounds thousandths.product_canonical (-35) (by decide)
    thousandths.rounds_product thousandths.product.rounds_size (by norm_num; linarith)
  norm_num only [abs_le] at product
  have quotient := abs_sub_le_of_rounds thousandths.quotient_canonical (-44) (by decide)
    thousandths.rounds_quotient thousandths.rounds_shown (by norm_num; linarith)
  norm_num only [abs_le] at quotient
  rw [abs_le]
  constructor <;> linarith

end Thousandths

/-! ## Texts of numbers -/

theorem denotation_thousand :
    denotation 1000.0 = .finite (.scaled false (1000 * 2 ^ 43) (-43)) := by
  decide

theorem denotation_zero : denotation 0.0 = .finite (.scaled false 0 (-1074)) := by
  decide

theorem size_thousand : (Binary.scaled false (1000 * 2 ^ 43) (-43)).size = 1000 := by
  norm_num [Binary.size, Binary.place, Binary.scaled]

theorem styleText_of_infinite {x : Float} {negative : Bool}
    (infinite : denotation (x * 1000.0) = .infinite negative) :
    styleText x = if negative then "-inf" else "inf" := by
  have rounded : roundHalfAway (x * 1000.0) = x * 1000.0 := by
    unfold roundHalfAway
    rw [infinite]
  have quotient := infinite_div infinite denotation_thousand
  unfold styleText
  simp only [rounded, beq_infinite quotient denotation_zero]
  unfold plainText Layout.text
  rw [quotient]
  show (if negative ^^ false then "-inf" else "inf") = _
  rw [Bool.xor_false]

/-- The text of a number in a style sheet shows it to three places, unless the number is too great
to be multiplied. -/
theorem styleText_cases {x : Float} {a : Binary} (denotes : denotation x = .finite a) :
    (∃ thousandths : Thousandths a.size, Shows (styleText x)
      (if a.negative then -thousandths.shown else thousandths.shown)) ∨
      (10 ^ 12 < a.size ∧ ∀ q, ¬ Shows (styleText x) q) := by
  obtain ⟨product, canonical, sign, rounds, multiplied⟩ :=
    isRounded_mul denotes denotation_thousand
  rw [Binary.denoted] at multiplied
  rw [size_thousand] at rounds
  split at multiplied
  · next small =>
    left
    obtain ⟨count, whole, isWhole, sameSign, size, below, above⟩ := exists_whole multiplied
    obtain ⟨quotient, isCanonical, sign', rounds', divided⟩ :=
      isRounded_div isWhole denotation_thousand (by decide)
    rw [size_thousand] at rounds'
    -- a quotient is no greater than the dividend, so that it is finite as that is
    have least : quotient.exponent ≤ whole.exponent := by
      have wholeCanonical := isCanonical_of_denotes isWhole
      have nonneg := whole.size_nonneg
      exact Binary.exponent_le_of_size_le isCanonical wholeCanonical
        (Binary.size_le_of_rounds isCanonical wholeCanonical rounds' whole.rounds_size
          (by linarith))
    rw [Binary.denoted, if_pos (least.trans (exponent_le_of_denotes isWhole))] at divided
    rw [size] at rounds'
    refine ⟨⟨product, count, quotient, canonical, rounds, below, above, isCanonical, rounds'⟩, ?_⟩
    have negative : quotient.negative = a.negative := by
      rw [sign', sameSign, sign]
      cases a.negative <;> rfl
    unfold styleText Thousandths.shown
    dsimp only
    split
    · next isZero =>
      have zero : (Binary.scaled false 0 (-1074)).signed = 0 := Binary.size_of_zero rfl
      have none := (beq_iff divided denotation_zero).mp isZero
      rw [zero] at none
      rw [writtenDecimal_of_signed_eq_zero none, neg_zero, ite_self]
      exact shows_zero
    · rw [← negative]
      exact shows_plainText divided
  · next large =>
    right
    refine ⟨?_, ?_⟩
    · by_contra less
      exact large (size_le_natural canonical rounds (n := 10 ^ 15) (by decide)
        (by push_cast; linarith)).2
    · rw [styleText_of_infinite multiplied]
      exact not_shows_infinite _

end ViewPreview.Number
