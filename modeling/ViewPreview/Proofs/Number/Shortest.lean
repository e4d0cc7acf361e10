import ViewPreview.Number.Shortest
import ViewPreview.Proofs.Number.Interval
import Mathlib.Tactic.LinearCombination

/-!
# Shortest Decimals

The shortest decimal of a binary number rounds to it.  Seventeen digits always suffice: the interval
around a number of 53 binary places is wider than the distance of neighbouring decimals.
-/

namespace ViewPreview.Number

/-- The value of a decimal. -/
def Decimal.size (d : Decimal) : ℚ :=
  d.coefficient * 10 ^ d.exponent

/-- The number of the digits of a number is the power of ten just above it. -/
theorem exists_length_digitsOf {n : ℕ} (positive : 0 < n) :
    ∃ k, (digitsOf n).length = k + 1 ∧ 10 ^ k ≤ n ∧ n + 1 ≤ 10 ^ (k + 1) := by
  have short_iff {k : ℕ} (k_pos : 0 < k) : (digitsOf n).length ≤ k ↔ n < 10 ^ k :=
    Nat.length_toDigits_le_iff (by decide) k_pos
  obtain ⟨k, length⟩ := Nat.exists_eq_add_one.mpr (Nat.length_toDigits_pos (b := 10) (n := n))
  change (digitsOf n).length = k + 1 at length
  refine ⟨k, length, ?_, (short_iff k.succ_pos).mp length.le⟩
  rcases Nat.eq_zero_or_pos k with rfl | k_pos
  · exact positive
  · exact not_lt.mp fun less ↦ absurd ((short_iff k_pos).mpr less) (by omega)

/-! ## Neighbourhoods as intervals of rationals -/

/-- Whether a neighbourhood is the one of a binary number, measured in a unit. -/
structure Neighbourhood.Measures (n : Neighbourhood) (x : Binary) (unit : ℚ) : Prop where
  denominator_pos : 0 < n.denominator
  low : (n.low : ℚ) * unit = x.lowest * x.place * n.denominator
  value : (n.value : ℚ) * unit = x.size * n.denominator
  high : (n.high : ℚ) * unit = x.highest * x.place * n.denominator
  closed : n.closed = true ↔ x.mantissa % 2 = 0

namespace Binary

variable {x : Binary}

theorem place_eq_four_mul (x : Binary) : x.place = 4 * 2 ^ (x.exponent - 2) := by
  have four : (2 : ℚ) ^ (2 : ℤ) = 4 := by norm_num
  rw [place, ← four, ← zpow_add₀ two_ne_zero, add_sub_cancel]

/-- The ends of a neighbourhood are quarters of units in the last place. -/
theorem exists_neighbourhood_eq (x : Binary) : ∃ unit denominator : ℕ, 0 < denominator ∧
    (unit : ℚ) * 4 = x.place * denominator ∧
    x.neighbourhood =
      { low := (4 * x.mantissa - if x.narrow then 1 else 2) * unit
        value := 4 * x.mantissa * unit
        high := (4 * x.mantissa + 2) * unit
        denominator
        closed := x.mantissa % 2 == 0 } := by
  rw [place_eq_four_mul]
  unfold neighbourhood
  cases x.exponent - 2 with
  | ofNat k =>
    refine ⟨2 ^ k, 1, one_pos, ?_, rfl⟩
    rw [Int.ofNat_eq_natCast, zpow_natCast]
    push_cast
    ring
  | negSucc k =>
    refine ⟨1, 2 ^ (k + 1), Nat.pow_pos two_pos, ?_, rfl⟩
    rw [zpow_negSucc, mul_assoc, Nat.cast_pow, Nat.cast_two, inv_mul_cancel₀ (by positivity)]
    push_cast
    ring

theorem measures_neighbourhood (positive : 0 < x.mantissa) : x.neighbourhood.Measures x 1 := by
  obtain ⟨unit, denominator, denominator_pos, scaled, same⟩ := x.exists_neighbourhood_eq
  have low : ((4 * x.mantissa - if x.narrow then 1 else 2 : ℕ) : ℚ) = 4 * x.lowest := by
    unfold lowest
    split
    all_goals
      rw [Nat.cast_sub (by omega)]
      push_cast
      ring
  rw [same]
  refine ⟨denominator_pos, ?_, ?_, ?_, beq_iff_eq⟩ <;> dsimp only
  · rw [Nat.cast_mul, low]
    linear_combination x.lowest * scaled
  · rw [size]
    push_cast
    linear_combination x.mantissa * scaled
  · rw [highest]
    push_cast
    linear_combination (x.mantissa + 1 / 2 : ℚ) * scaled

end Binary

namespace Neighbourhood.Measures

variable {n : Neighbourhood} {x : Binary} {unit : ℚ}

theorem inUnitsOf (measures : n.Measures x 1) (exponent : ℤ) :
    (n.inUnitsOf exponent).Measures x (10 ^ exponent) := by
  obtain ⟨positive, low, value, high, closed⟩ := measures
  rw [mul_one] at low value high
  cases exponent with
  | ofNat e =>
    refine ⟨Nat.mul_pos positive (Nat.pow_pos (by decide)), ?_, ?_, ?_, closed⟩
    all_goals
      simp only [Neighbourhood.inUnitsOf, Int.ofNat_eq_natCast, zpow_natCast, Nat.pow_eq]
      push_cast
      rw [← mul_assoc]
    · rw [low]
    · rw [value]
    · rw [high]
  | negSucc e =>
    refine ⟨positive, ?_, ?_, ?_, closed⟩
    all_goals
      simp only [Neighbourhood.inUnitsOf, zpow_negSucc, Nat.pow_eq]
      push_cast
      rw [mul_assoc, mul_inv_cancel₀ (by positivity), mul_one]
    · exact low
    · exact value
    · exact high

section Units

variable (measures : n.Measures x unit) (unit_pos : 0 < unit)

include measures unit_pos

theorem lt_mul_denominator_iff {point : ℕ} {q : ℚ} (units : ℕ)
    (scaled : point * unit = q * n.denominator) :
    point < units * n.denominator ↔ q < units * unit := by
  have denominator_pos : (0 : ℚ) < n.denominator := by exact_mod_cast measures.denominator_pos
  rw [← Nat.cast_lt (α := ℚ), ← mul_lt_mul_iff_of_pos_right unit_pos, scaled, Nat.cast_mul,
    mul_right_comm (units : ℚ), mul_lt_mul_iff_of_pos_right denominator_pos]

theorem mul_denominator_lt_iff {point : ℕ} {q : ℚ} (units : ℕ)
    (scaled : point * unit = q * n.denominator) :
    units * n.denominator < point ↔ units * unit < q := by
  have denominator_pos : (0 : ℚ) < n.denominator := by exact_mod_cast measures.denominator_pos
  rw [← Nat.cast_lt (α := ℚ), ← mul_lt_mul_iff_of_pos_right unit_pos, scaled, Nat.cast_mul,
    mul_right_comm (units : ℚ), mul_lt_mul_iff_of_pos_right denominator_pos]

/-- A neighbourhood contains the points that round to the number it is around. -/
theorem contains_iff {units : ℕ} : n.contains units = true ↔ x.Rounds (units * unit) := by
  have low := measures.lt_mul_denominator_iff unit_pos units measures.low
  have high := measures.mul_denominator_lt_iff unit_pos units measures.high
  have lowest := measures.mul_denominator_lt_iff unit_pos units measures.low
  have highest := measures.lt_mul_denominator_iff unit_pos units measures.high
  rw [← not_iff_not, not_lt, not_lt] at lowest highest
  unfold Neighbourhood.contains
  split
  · next closed =>
    have even := measures.closed.mp closed
    rw [Bool.and_eq_true, decide_eq_true_eq, decide_eq_true_eq, lowest, highest]
    exact ⟨fun between ↦ ⟨between.1, between.2, absurd even⟩,
      fun rounds ↦ ⟨rounds.lowest_le, rounds.le_highest⟩⟩
  · next isOpen =>
    have odd : x.mantissa % 2 ≠ 0 := fun even ↦ isOpen (measures.closed.mpr even)
    rw [Bool.and_eq_true, decide_eq_true_eq, decide_eq_true_eq, low, high]
    exact ⟨fun between ↦ Binary.rounds_of_inside between.1 between.2,
      fun rounds ↦ rounds.inside odd⟩

end Units

/-- The magnitude of a neighbourhood is the power of ten just above the number it is around. -/
theorem size_mem_magnitude (measures : n.Measures x 1) (positive : 0 < x.size) :
    10 ^ (n.magnitude - 1) ≤ x.size ∧ x.size < 10 ^ n.magnitude := by
  have denominator_pos : (0 : ℚ) < n.denominator := by exact_mod_cast measures.denominator_pos
  have scaled : (n.value : ℚ) = x.size * n.denominator := by
    rw [← measures.value, mul_one]
  have value_pos : 0 < n.value := by
    have : (0 : ℚ) < n.value := by
      rw [scaled]
      positivity
    exact_mod_cast this
  unfold Neighbourhood.magnitude
  split
  · next whole =>
    obtain ⟨k, length, least, greatest⟩ :=
      exists_length_digitsOf (Nat.div_pos whole measures.denominator_pos)
    have low : 10 ^ k * n.denominator ≤ n.value :=
      (Nat.le_div_iff_mul_le measures.denominator_pos).mp least
    have high : n.value < 10 ^ (k + 1) * n.denominator :=
      (Nat.div_lt_iff_lt_mul measures.denominator_pos).mp greatest
    rw [length, Nat.cast_add_one, add_sub_cancel_right, ← Nat.cast_add_one, zpow_natCast,
      zpow_natCast, ← mul_le_mul_iff_of_pos_right denominator_pos,
      ← mul_lt_mul_iff_of_pos_right denominator_pos, ← scaled]
    exact ⟨by exact_mod_cast low, by exact_mod_cast high⟩
  · next small =>
    -- below one the digits are those of the reciprocal, rounded so that a power of ten is above it
    obtain ⟨k, length, least, greatest⟩ :=
      exists_length_digitsOf (Nat.div_pos (by omega : n.value ≤ n.denominator - 1) value_pos)
    have low : 10 ^ k * n.value < n.denominator :=
      Nat.lt_of_le_sub_one measures.denominator_pos ((Nat.le_div_iff_mul_le value_pos).mp least)
    have high : n.denominator ≤ 10 ^ (k + 1) * n.value :=
      Nat.le_of_pred_lt ((Nat.div_lt_iff_lt_mul value_pos).mp greatest)
    have shifted {k : ℕ} : x.size * 10 ^ k * n.denominator = 10 ^ k * n.value := by
      rw [scaled]
      ring
    have start : (1 : ℤ) - (k + 1 : ℕ) - 1 = -((k + 1 : ℕ) : ℤ) := by omega
    have stop : (1 : ℤ) - (k + 1 : ℕ) = -(k : ℤ) := by omega
    rw [length, start, stop, zpow_neg, zpow_neg, zpow_natCast, zpow_natCast, ← one_div, ← one_div,
      div_le_iff₀ (by positivity), lt_div_iff₀ (by positivity),
      ← mul_le_mul_iff_of_pos_right denominator_pos,
      ← mul_lt_mul_iff_of_pos_right denominator_pos, one_mul, shifted, shifted]
    exact ⟨by exact_mod_cast high, by exact_mod_cast low⟩

end Neighbourhood.Measures

/-! ## The search -/

namespace Neighbourhood

variable {n : Neighbourhood} {tie : Tie}

theorem contains_of_nearest? {units : ℕ} (found : n.nearest? tie = some units) :
    n.contains units = true := by
  unfold nearest? at found
  cases below : n.contains (n.value / n.denominator) <;>
    cases above : n.contains (n.value / n.denominator + 1) <;> simp only [below, above] at found
  case false.false => cases found
  case true.false => cases found; exact below
  case false.true => cases found; exact above
  case true.true =>
    cases tie <;> split_ifs at found <;> cases found <;> assumption

theorem isSome_nearest? (tie : Tie)
    (near : n.contains (n.value / n.denominator) = true ∨
      n.contains (n.value / n.denominator + 1) = true) : (n.nearest? tie).isSome = true := by
  unfold nearest?
  cases below : n.contains (n.value / n.denominator) <;>
    cases above : n.contains (n.value / n.denominator + 1) <;> simp only [below, above]
  case false.false => simp [below, above] at near
  case true.true => cases tie <;> split_ifs <;> rfl
  all_goals rfl

end Neighbourhood

namespace Binary

variable {x : Binary}

/-- Decimals of seventeen digits are nearer to each other than binary numbers are. -/
theorem unit_lt_place (canonical : x.IsCanonical) {unit : ℚ} (fine : unit * 10 ^ 16 ≤ x.size) :
    unit < x.place := by
  have short : (x.mantissa : ℚ) < 2 ^ 53 := by exact_mod_cast canonical.mantissa_lt
  have : unit * 10 ^ 16 < 2 ^ 53 * x.place :=
    fine.trans_lt (mul_lt_mul_of_pos_right short x.place_pos)
  have := x.place_pos
  linarith

/-- Next to a binary number that begins a power of two they are twice as near. -/
theorem two_mul_unit_lt_place (canonical : x.IsCanonical) (narrow : x.narrow = true) {unit : ℚ}
    (fine : unit * 10 ^ 16 ≤ x.size) : 2 * unit < x.place := by
  rw [size, (canonical.narrow_iff.mp narrow).1] at fine
  push_cast at fine
  have := x.place_pos
  linarith

/-- One of the two decimals of seventeen digits next to a binary number rounds to it. -/
theorem rounds_of_seventeen (canonical : x.IsCanonical) {unit : ℚ} (fine : unit * 10 ^ 16 ≤ x.size)
    {units : ℕ} (below : units * unit ≤ x.size) (above : x.size < (units + 1 : ℕ) * unit) :
    x.Rounds (units * unit) ∨ x.Rounds ((units + 1 : ℕ) * unit) := by
  have positive := x.place_pos
  have highest : x.highest * x.place = x.size + x.place / 2 := by
    rw [Binary.highest, size]
    ring
  push_cast at above ⊢
  cases isNarrow : x.narrow with
  | true =>
    have lowest : x.lowest * x.place = x.size - x.place / 4 := by
      rw [Binary.lowest, if_pos isNarrow, size]
      ring
    have near := two_mul_unit_lt_place canonical isNarrow fine
    right
    apply rounds_of_inside <;> linarith
  | false =>
    have lowest : x.lowest * x.place = x.size - x.place / 2 := by
      rw [Binary.lowest, if_neg (by simp [isNarrow]), size]
      ring
    have near := unit_lt_place canonical fine
    rcases le_total (x.size - units * unit) (unit / 2) with first | second
    · left
      apply rounds_of_inside <;> linarith
    · right
      apply rounds_of_inside <;> linarith

theorem pos_of_rounds (positive : 0 < x.mantissa) {q : ℚ} (rounds : x.Rounds q) : 0 < q := by
  have least : (1 : ℚ) ≤ x.mantissa := by exact_mod_cast positive
  have above : 0 < x.lowest := by
    unfold lowest
    split <;> linarith
  exact (mul_pos above x.place_pos).trans_le rounds.lowest_le

/-- A grid of seventeen digits has a point that rounds to a binary number. -/
theorem isSome_nearest?_seventeen (canonical : x.IsCanonical) (positive : 0 < x.mantissa)
    (tie : Tie) :
    ((x.neighbourhood.inUnitsOf (x.neighbourhood.magnitude - 17)).nearest? tie).isSome = true := by
  have measures := measures_neighbourhood positive
  have fine := (measures.size_mem_magnitude (size_pos positive)).1
  have scaled := measures.inUnitsOf (x.neighbourhood.magnitude - 17)
  have unit_pos : (0 : ℚ) < 10 ^ (x.neighbourhood.magnitude - 17) := by positivity
  have ten : (10 : ℚ) ^ (x.neighbourhood.magnitude - 1) =
      10 ^ (x.neighbourhood.magnitude - 17) * 10 ^ 16 := by
    rw [← zpow_natCast, ← zpow_add₀ (by norm_num)]
    congr 1
    omega
  rw [ten] at fine
  generalize (10 : ℚ) ^ (x.neighbourhood.magnitude - 17) = unit at *
  generalize x.neighbourhood.inUnitsOf (x.neighbourhood.magnitude - 17) = n at *
  have below : ((n.value / n.denominator : ℕ) : ℚ) * unit ≤ x.size := by
    rw [← not_lt, ← scaled.lt_mul_denominator_iff unit_pos _ scaled.value, not_lt]
    exact Nat.div_mul_le_self n.value n.denominator
  have above : x.size < ((n.value / n.denominator + 1 : ℕ) : ℚ) * unit := by
    rw [← scaled.lt_mul_denominator_iff unit_pos _ scaled.value, ← Nat.div_lt_iff_lt_mul
      scaled.denominator_pos]
    exact Nat.lt_succ_self _
  apply Neighbourhood.isSome_nearest?
  rw [scaled.contains_iff unit_pos, scaled.contains_iff unit_pos]
  exact rounds_of_seventeen canonical fine below above

/-- The shortest decimal of a binary number rounds to it. -/
theorem rounds_shortest (canonical : x.IsCanonical) (positive : 0 < x.mantissa) (tie : Tie) :
    x.Rounds (x.shortest tie).size := by
  have measures := measures_neighbourhood positive
  have seventeen := isSome_nearest?_seventeen canonical positive tie
  unfold shortest
  extract_lets n p onGrid
  have found : ((List.range' 1 17).findSome? onGrid).isSome = true := by
    rw [List.findSome?_isSome_iff]
    exact ⟨17, by decide, by simpa [onGrid] using seventeen⟩
  obtain ⟨d, isFound⟩ := Option.isSome_iff_exists.mp found
  obtain ⟨digits, -, onSome⟩ := List.exists_of_findSome?_eq_some isFound
  obtain ⟨units, nearest, rfl⟩ := Option.map_eq_some_iff.mp onSome
  rw [isFound, Option.getD_some]
  have rounds := ((measures.inUnitsOf (p - digits)).contains_iff (by positivity)).mp
    (Neighbourhood.contains_of_nearest? nearest)
  split
  · next whole =>
    have same : (units : ℚ) * 10 ^ (p - digits) = Decimal.size ⟨1, p⟩ := by
      rw [whole, Decimal.size, Nat.pow_eq, Nat.cast_pow, ← zpow_natCast, Nat.cast_ofNat,
        ← zpow_add₀ (by norm_num)]
      push_cast
      rw [one_mul, add_sub_cancel]
    exact same ▸ rounds
  · exact rounds

end Binary

end ViewPreview.Number
