import ViewPreview.Proofs.Number.Denotation
import Mathlib.Algebra.Order.Field.Power
import Mathlib.Data.Rat.Lemmas
import Mathlib.Tactic.Linarith
import Mathlib.Tactic.Positivity
import Mathlib.Tactic.NormNum
import Mathlib.Tactic.Ring

/-!
# Rounding Intervals

The rationals that round to a binary number: those nearer to it than to the binary numbers next to
it, and the ones halfway when its mantissa is even.  Of two binary numbers that numbers denote, no
rational rounds to both, and the greater rational rounds to the greater number.  What rounds to a
number is no further from it than half a place.
-/

namespace ViewPreview.Number

namespace Binary

variable (x : Binary)

/-- The unit in the last place of a binary number. -/
def place : ℚ :=
  2 ^ x.exponent

/-- The magnitude of a binary number. -/
def size : ℚ :=
  x.mantissa * x.place

/-- The point halfway to the binary number next below, in units in the last place. -/
def lowest : ℚ :=
  x.mantissa - if x.narrow then 1 / 4 else 1 / 2

/-- The point halfway to the binary number next above, in units in the last place. -/
def highest : ℚ :=
  x.mantissa + 1 / 2

/-- Whether a rational rounds to a positive binary number. -/
structure Rounds (q : ℚ) : Prop where
  lowest_le : x.lowest * x.place ≤ q
  le_highest : q ≤ x.highest * x.place
  inside : x.mantissa % 2 ≠ 0 → x.lowest * x.place < q ∧ q < x.highest * x.place

theorem place_pos : 0 < x.place :=
  zpow_pos two_pos x.exponent

variable {x} {y : Binary}

theorem rounds_of_inside {q : ℚ} (above : x.lowest * x.place < q)
    (below : q < x.highest * x.place) : x.Rounds q :=
  ⟨above.le, below.le, fun _ ↦ ⟨above, below⟩⟩

/-! ## Two intervals -/

/-- Places double with each step of the exponent. -/
theorem two_mul_place_le (less : x.exponent < y.exponent) : 2 * x.place ≤ y.place := by
  have doubled : 2 * x.place = 2 ^ (x.exponent + 1) := by
    rw [place, zpow_add_one₀ two_ne_zero, mul_comm]
  rw [doubled, place]
  exact zpow_le_zpow_right₀ one_le_two (by omega)

/-- Above the least exponent the point halfway to the number next below lies at the end of the
places of the exponents below. -/
theorem le_lowest (canonical : x.IsCanonical) (above : -1074 < x.exponent) :
    2 ^ 52 - 1 / 4 ≤ x.lowest := by
  have full := canonical.le_mantissa above
  unfold lowest
  split
  · have : (2 ^ 52 : ℚ) ≤ x.mantissa := by exact_mod_cast full
    linarith
  · next wide =>
    have more : 2 ^ 52 + 1 ≤ x.mantissa := by
      refine Nat.lt_of_le_of_ne full fun same ↦ wide (canonical.narrow_iff.mpr ⟨same.symm, above⟩)
    have : (2 ^ 52 + 1 : ℚ) ≤ x.mantissa := by exact_mod_cast more
    linarith

/-- No rational rounds to two binary numbers with different exponents. -/
theorem not_rounds_of_exponent_lt (first : x.IsCanonical) (second : y.IsCanonical)
    (less : x.exponent < y.exponent) {q : ℚ} (rounds : x.Rounds q) : ¬ y.Rounds q := by
  intro others
  have least : 2 ^ 52 - 1 / 4 ≤ y.lowest :=
    le_lowest second (lt_of_le_of_lt first.least_le less)
  have doubled := two_mul_place_le less
  have positive := x.place_pos
  have ends : (2 ^ 53 - 1 / 2) * x.place ≤ q := by
    calc (2 ^ 53 - 1 / 2) * x.place = (2 ^ 52 - 1 / 4) * (2 * x.place) := by ring
      _ ≤ y.lowest * y.place := by gcongr
      _ ≤ q := others.lowest_le
  have odd : x.mantissa = 2 ^ 53 - 1 := by
    have below := ends.trans rounds.le_highest
    rw [mul_le_mul_iff_of_pos_right positive, highest] at below
    have : (2 ^ 53 : ℚ) ≤ x.mantissa + 1 := by linarith
    have : 2 ^ 53 ≤ x.mantissa + 1 := by exact_mod_cast this
    have := first.mantissa_lt
    omega
  have strict := (rounds.inside (by omega)).2
  have : x.highest = 2 ^ 53 - 1 / 2 := by
    rw [highest, odd]
    norm_num
  rw [this] at strict
  exact absurd ends (not_le.mpr strict)

/-- No rational rounds to two binary numbers of one exponent with different mantissas. -/
theorem not_rounds_of_mantissa_lt (same : x.exponent = y.exponent)
    (less : x.mantissa < y.mantissa) {q : ℚ} (rounds : x.Rounds q) : ¬ y.Rounds q := by
  intro others
  have samePlace : x.place = y.place := by rw [place, place, same]
  have positive := x.place_pos
  have next : (x.mantissa + 1 : ℚ) ≤ y.mantissa := by exact_mod_cast less
  have least : (y.mantissa : ℚ) - 1 / 2 ≤ y.lowest := by
    unfold lowest
    split <;> linarith
  have between : y.lowest ≤ x.highest := by
    have := others.lowest_le.trans rounds.le_highest
    rwa [← samePlace, mul_le_mul_iff_of_pos_right positive] at this
  have adjacent : y.mantissa = x.mantissa + 1 := by
    rw [highest] at between
    have : (y.mantissa : ℚ) ≤ x.mantissa + 1 := by linarith
    have : y.mantissa ≤ x.mantissa + 1 := by exact_mod_cast this
    omega
  -- one of two adjacent mantissas is odd, and its interval is open
  have strict : y.lowest * x.place < x.highest * x.place := by
    rcases Nat.mod_two_eq_zero_or_one x.mantissa with even | odd
    · rw [samePlace]
      exact lt_of_lt_of_le (others.inside (by omega)).1 (samePlace ▸ rounds.le_highest)
    · exact lt_of_le_of_lt (samePlace ▸ others.lowest_le) (rounds.inside (by omega)).2
  rw [mul_lt_mul_iff_of_pos_right positive, highest] at strict
  linarith

/-- A rational rounds to no more than one of the binary numbers of either sign. -/
theorem eq_of_rounds (first : x.IsCanonical) (second : y.IsCanonical)
    (sameSign : x.negative = y.negative) {q : ℚ} (rounds : x.Rounds q) (others : y.Rounds q) :
    x = y := by
  have sameExponent : x.exponent = y.exponent := by
    rcases lt_trichotomy x.exponent y.exponent with less | same | greater
    · exact absurd others (not_rounds_of_exponent_lt first second less rounds)
    · exact same
    · exact absurd rounds (not_rounds_of_exponent_lt second first greater others)
  have sameMantissa : x.mantissa = y.mantissa := by
    rcases lt_trichotomy x.mantissa y.mantissa with less | same | greater
    · exact absurd others (not_rounds_of_mantissa_lt sameExponent less rounds)
    · exact same
    · exact absurd rounds (not_rounds_of_mantissa_lt sameExponent.symm greater others)
  exact first.eq second sameSign sameMantissa sameExponent

/-! ## The order of binary numbers -/

theorem size_nonneg (x : Binary) : 0 ≤ x.size :=
  mul_nonneg (Nat.cast_nonneg _) x.place_pos.le

theorem size_pos (positive : 0 < x.mantissa) : 0 < x.size :=
  mul_pos (by exact_mod_cast positive) x.place_pos

theorem size_of_zero (zero : x.mantissa = 0) : x.size = 0 := by
  rw [size, zero, Nat.cast_zero, zero_mul]

/-- Every binary number rounds to itself. -/
theorem rounds_size (x : Binary) : x.Rounds x.size := by
  have positive := x.place_pos
  apply rounds_of_inside
  · rw [size, lowest]
    refine mul_lt_mul_of_pos_right ?_ positive
    split <;> linarith
  · rw [size, highest]
    refine mul_lt_mul_of_pos_right ?_ positive
    linarith

/-- Of two binary numbers the one with the greater exponent is the greater. -/
theorem size_lt_of_exponent_lt (first : x.IsCanonical) (second : y.IsCanonical)
    (less : x.exponent < y.exponent) : x.size < y.size := by
  have doubled := two_mul_place_le less
  have positive := x.place_pos
  have short : (x.mantissa : ℚ) < 2 ^ 53 := by exact_mod_cast first.mantissa_lt
  have full : (2 ^ 52 : ℚ) ≤ y.mantissa := by
    exact_mod_cast second.le_mantissa (lt_of_le_of_lt first.least_le less)
  calc x.size < 2 ^ 53 * x.place := mul_lt_mul_of_pos_right short positive
    _ = 2 ^ 52 * (2 * x.place) := by ring
    _ ≤ y.mantissa * y.place := by gcongr

theorem exponent_le_of_size_le (first : x.IsCanonical) (second : y.IsCanonical)
    (le : x.size ≤ y.size) : x.exponent ≤ y.exponent := by
  by_contra greater
  exact absurd le (size_lt_of_exponent_lt second first (not_le.mp greater)).not_ge

/-- Binary numbers of one exponent are in the order of their mantissas. -/
theorem size_lt_iff_of_exponent_eq (same : x.exponent = y.exponent) :
    x.size < y.size ↔ x.mantissa < y.mantissa := by
  have samePlace : x.place = y.place := by rw [place, place, same]
  rw [size, size, samePlace, mul_lt_mul_iff_of_pos_right y.place_pos, Nat.cast_lt]

/-- A lesser number has a lesser exponent, or the same one and a lesser mantissa. -/
theorem exponent_lt_or_of_size_lt (first : x.IsCanonical) (second : y.IsCanonical)
    (less : x.size < y.size) :
    x.exponent < y.exponent ∨ x.exponent = y.exponent ∧ x.mantissa < y.mantissa := by
  rcases lt_trichotomy x.exponent y.exponent with lower | same | higher
  · exact .inl lower
  · exact .inr ⟨same, (size_lt_iff_of_exponent_eq same).mp less⟩
  · exact absurd (size_lt_of_exponent_lt second first higher) less.not_gt

/-- The interval of a greater number lies above the one of a lesser number. -/
theorem highest_mul_place_le (first : x.IsCanonical) (second : y.IsCanonical)
    (less : x.size < y.size) : x.highest * x.place ≤ y.lowest * y.place := by
  have positive := x.place_pos
  rcases exponent_lt_or_of_size_lt first second less with lower | ⟨level, lower⟩
  · have least : 2 ^ 52 - 1 / 4 ≤ y.lowest :=
      le_lowest second (lt_of_le_of_lt first.least_le lower)
    have doubled := two_mul_place_le lower
    have short : (x.mantissa + 1 : ℚ) ≤ 2 ^ 53 := by exact_mod_cast first.mantissa_lt
    calc x.highest * x.place ≤ (2 ^ 53 - 1 / 2) * x.place := by
          rw [highest]
          exact mul_le_mul_of_nonneg_right (by linarith) positive.le
      _ = (2 ^ 52 - 1 / 4) * (2 * x.place) := by ring
      _ ≤ y.lowest * y.place := by gcongr
  · have next : (x.mantissa + 1 : ℚ) ≤ y.mantissa := by exact_mod_cast lower
    have least : (y.mantissa : ℚ) - 1 / 2 ≤ y.lowest := by
      unfold lowest
      split <;> linarith
    have samePlace : y.place = x.place := by rw [place, place, level]
    rw [samePlace, highest]
    exact mul_le_mul_of_nonneg_right (by linarith) positive.le

/-- The greater of two rationals does not round to the lesser of two numbers. -/
theorem size_le_of_rounds (first : x.IsCanonical) (second : y.IsCanonical) {q r : ℚ}
    (rounds : x.Rounds q) (others : y.Rounds r) (le : q ≤ r) : x.size ≤ y.size := by
  by_contra greater
  rw [not_le] at greater
  have apart := highest_mul_place_le second first greater
  -- the two intervals have at most one point in common
  have same : q = r :=
    le_antisymm le (others.le_highest.trans (apart.trans rounds.lowest_le))
  rcases exponent_lt_or_of_size_lt second first greater with lower | ⟨level, lower⟩
  · exact not_rounds_of_exponent_lt second first lower others (same ▸ rounds)
  · exact not_rounds_of_mantissa_lt level lower others (same ▸ rounds)

/-- Above a number there is none before the next mantissa. -/
theorem next_le_of_size_lt (first : x.IsCanonical) (second : y.IsCanonical)
    (less : x.size < y.size) : (x.mantissa + 1) * x.place ≤ y.size := by
  have positive := x.place_pos
  rcases exponent_lt_or_of_size_lt first second less with lower | ⟨level, lower⟩
  · have short : (x.mantissa + 1 : ℚ) ≤ 2 ^ 53 := by exact_mod_cast first.mantissa_lt
    have full : (2 ^ 52 : ℚ) ≤ y.mantissa := by
      exact_mod_cast second.le_mantissa (lt_of_le_of_lt first.least_le lower)
    have doubled := two_mul_place_le lower
    calc (x.mantissa + 1) * x.place ≤ 2 ^ 53 * x.place :=
          mul_le_mul_of_nonneg_right short positive.le
      _ = 2 ^ 52 * (2 * x.place) := by ring
      _ ≤ y.mantissa * y.place := by gcongr
  · have next : (x.mantissa + 1 : ℚ) ≤ y.mantissa := by exact_mod_cast lower
    have samePlace : y.place = x.place := by rw [place, place, level]
    rw [size, samePlace]
    exact mul_le_mul_of_nonneg_right next positive.le

/-! ## The distance to a number -/

/-- What rounds to a number is no further from it than half a place. -/
theorem abs_sub_size_le {q : ℚ} (rounds : x.Rounds q) : |q - x.size| ≤ x.place / 2 := by
  have above := rounds.lowest_le
  have below := rounds.le_highest
  have positive := x.place_pos
  have least : ((x.mantissa : ℚ) - 1 / 2) * x.place ≤ x.lowest * x.place := by
    apply mul_le_mul_of_nonneg_right _ positive.le
    unfold lowest
    split <;> linarith
  rw [highest] at below
  rw [size, abs_le]
  constructor <;> linarith

/-- The distance is no more than half the place of any greater number. -/
theorem abs_sub_size_le_of_size_le (first : x.IsCanonical) (second : y.IsCanonical)
    (le : x.size ≤ y.size) {q : ℚ} (rounds : x.Rounds q) : |q - x.size| ≤ y.place / 2 := by
  have places : x.place ≤ y.place :=
    zpow_le_zpow_right₀ one_le_two (exponent_le_of_size_le first second le)
  have near := abs_sub_size_le rounds
  linarith

end Binary

end ViewPreview.Number
