import Mathlib.Data.Int.Interval
import Mathlib.Data.Set.Card
import ViewPreview.Proofs.View.Rows

/-!
# Ranges at the Limits of 64 Bits

The number of integers of a range is exact unless it needs more than 64 bits, which only the range
of all integers does.  The integer at a place inside a range is always an integer of 64 bits, but
the place itself is read as one with a sign: the second half of a range with more than `2 ^ 63`
integers is counted and cannot be reached.
-/

namespace ViewPreview.IntegerRange

variable {range : IntegerRange} {index : Nat} {n : Int}

/-- Whether an integer lies in a range. -/
def Holds (range : IntegerRange) (n : Int) : Prop :=
  range.start.toInt ≤ n ∧ (n < range.stop.toInt ∨ range.inclusive = true ∧ n = range.stop.toInt)

/-- The integers of a range are those from its start that its span reaches. -/
theorem holds_iff :
    range.Holds n ↔ range.start.toInt ≤ n ∧ n < range.start.toInt + range.span := by
  unfold Holds span
  cases range.inclusive with
  | false =>
    simp only [Bool.false_eq_true, false_and, or_false, if_false]
    omega
  | true =>
    simp only [true_and, if_true]
    omega

theorem ncard_holds (range : IntegerRange) : {n | range.Holds n}.ncard = range.span.toNat := by
  have interval : {n | range.Holds n} =
      (Finset.Ico range.start.toInt (range.start.toInt + range.span) : Set Int) := by
    ext n
    rw [Finset.coe_Ico, Set.mem_Ico]
    exact holds_iff
  rw [interval, Set.ncard_coe_finset, Int.card_Ico, add_sub_cancel_left]

/-- The span of a range needs one bit more than its bounds. -/
theorem natAbs_span_le (range : IntegerRange) : range.span.natAbs ≤ 2 ^ 64 := by
  have startLower := range.start.le_toInt
  have startUpper := range.start.toInt_lt
  have stopLower := range.stop.le_toInt
  have stopUpper := range.stop.toInt_lt
  unfold span
  split
  · omega
  · omega

theorem count_eq (range : IntegerRange) : range.count = min range.span.toNat (2 ^ 64 - 1) :=
  rfl

theorem lt_span_of_lt_count (inside : index < range.count) : index < range.span.toNat :=
  Nat.lt_of_lt_of_le inside (Nat.min_le_left _ _)

theorem holds_of_lt_span (inside : index < range.span.toNat) :
    range.Holds (range.start.toInt + index) := by
  have reaches : (index : Int) < range.span := Int.lt_toNat.mp inside
  rw [holds_iff]
  omega

/-- Places from `2 ^ 63` on hold nothing. -/
theorem valueAt?_eq_none (large : 2 ^ 63 ≤ index) : range.valueAt? index = none := by
  have beyond : ¬(index : Int) ≤ Int64.maxValue.toInt := by
    have greatest : Int64.maxValue.toInt = 2 ^ 63 - 1 := by decide
    omega
  rw [valueAt?, decide_eq_false beyond]
  rfl

/-- The places inside a range that hold their integers are those below `2 ^ 63`. -/
theorem valueAt?_of_lt_span (inside : index < range.span.toNat) :
    range.valueAt? index =
      if index < 2 ^ 63 then some (Int64.ofInt (range.start.toInt + index)) else none := by
  by_cases small : index < 2 ^ 63
  · have below : (index : Int) ≤ Int64.maxValue.toInt := by
      have greatest : Int64.maxValue.toInt = 2 ^ 63 - 1 := by decide
      omega
    rw [if_pos small, valueAt?_eq inside below]
  · rw [if_neg small, valueAt?_eq_none (Nat.le_of_not_lt small)]

/-- The number of integers of a range is exact up to its saturation.  The integer at each place
inside a range is an integer of 64 bits and lies in the range, and it is given for the places below
`2 ^ 63` and for no other: all places of a range hold their integers exactly if the range has no more
than `2 ^ 63` of them. -/
theorem valueAt?_exact (range : IntegerRange) :
    (range.span.natAbs ≤ 2 ^ 64 ∧
      range.count = min (max 0 (range.stop.toInt - range.start.toInt +
        if range.inclusive then 1 else 0)).toNat (2 ^ 64 - 1) ∧
      range.count = min {n | range.Holds n}.ncard (2 ^ 64 - 1)) ∧
    (∀ index < range.count, ∃ value : Int64, value.toInt = range.start.toInt + index ∧
      range.Holds value.toInt ∧
      range.valueAt? index = if index < 2 ^ 63 then some value else none) ∧
    ((∀ index < range.count, ∃ value : Int64, range.valueAt? index = some value ∧
      value.toInt = range.start.toInt + index) ↔ {n | range.Holds n}.ncard ≤ 2 ^ 63) := by
  refine ⟨⟨natAbs_span_le range, ?formula, ?number⟩, ?places, ?complete⟩
  case formula =>
    have nonnegative : (max 0 range.span).toNat = range.span.toNat := by omega
    rw [count_eq, ← nonnegative]
    rfl
  case number => rw [ncard_holds, count_eq]
  case places =>
    intro index inside
    have reached := lt_span_of_lt_count inside
    refine ⟨Int64.ofInt (range.start.toInt + index), toInt_ofInt_eq reached, ?_,
      valueAt?_of_lt_span reached⟩
    rw [toInt_ofInt_eq reached]
    exact holds_of_lt_span reached
  case complete =>
    rw [ncard_holds]
    constructor
    · intro all
      by_contra more
      have middle : 2 ^ 63 < range.count := by
        rw [count_eq]
        omega
      obtain ⟨value, found, -⟩ := all (2 ^ 63) middle
      rw [valueAt?_eq_none (Nat.le_refl _)] at found
      cases found
    · intro few index inside
      have reached := lt_span_of_lt_count inside
      have small : index < 2 ^ 63 := Nat.lt_of_lt_of_le reached few
      refine ⟨Int64.ofInt (range.start.toInt + index), ?_, toInt_ofInt_eq reached⟩
      rw [valueAt?_of_lt_span reached, if_pos small]

/-- All integers of 64 bits but the last. -/
def allIntegers : IntegerRange :=
  ⟨Int64.minValue, Int64.maxValue, false⟩

theorem valueAt?_exact_allIntegers :
    2 ^ 63 - 1 < allIntegers.count ∧ 2 ^ 63 < allIntegers.count ∧
      (∃ value : Int64, value.toInt = -1 ∧ allIntegers.Holds value.toInt ∧
        allIntegers.valueAt? (2 ^ 63 - 1) = some value) ∧
      ∃ value : Int64, value.toInt = 0 ∧ allIntegers.Holds value.toInt ∧
        allIntegers.valueAt? (2 ^ 63) = none := by
  have before : 2 ^ 63 - 1 < allIntegers.count := by decide
  have middle : 2 ^ 63 < allIntegers.count := by decide
  exact ⟨before, middle, (valueAt?_exact allIntegers).2.1 _ before,
    (valueAt?_exact allIntegers).2.1 _ middle⟩

/-- A place inside a range may hold nothing: the place of zero among all integers. -/
theorem allIntegers_zero_missing :
    ¬ ∀ (range : IntegerRange) (index : Nat), index < range.count →
      ∃ value : Int64, range.valueAt? index = some value ∧
        value.toInt = range.start.toInt + index ∧ range.Holds value.toInt := by
  intro indexed
  have middle : 2 ^ 63 < allIntegers.count := by decide
  obtain ⟨value, found, -⟩ := indexed allIntegers (2 ^ 63) middle
  rw [valueAt?_eq_none (Nat.le_refl _)] at found
  cases found

end ViewPreview.IntegerRange
