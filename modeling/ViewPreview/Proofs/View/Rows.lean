import Mathlib.Data.List.Basic
import ViewPreview.View.Rows

/-!
# The Values of a Repetition

The integers of a range, and the values that a repetition runs over, counted without bounds.  A
limit on the number of rows that fits into 64 bits cuts these values off and changes nothing else:
no value is lost to the saturation of the count or to the bounds of 64-bit integers, because no
integer of a range exceeds its upper bound.
-/

namespace ViewPreview

namespace IntegerRange

variable (range : IntegerRange)

/-- The integers of a range, counted without bounds. -/
def integers : List Int :=
  (List.range range.span.toNat).map fun (index : Nat) ↦ range.start.toInt + index

theorem length_integers : range.integers.length = range.span.toNat := by
  rw [integers, List.length_map, List.length_range]

theorem getElem?_integers {index : Nat} (inside : index < range.span.toNat) :
    range.integers[index]? = some (range.start.toInt + index) := by
  rw [integers, List.getElem?_map, List.getElem?_range inside, Option.map_some]

variable {range}

theorem le_stop_of_lt_span {index : Nat} (inside : index < range.span.toNat) :
    range.start.toInt + index ≤ range.stop.toInt := by
  have reaches : (index : Int) < range.span := Int.lt_toNat.mp inside
  unfold span at reaches
  split at reaches
  · omega
  · omega

/-- Every place inside a range whose number fits into 64 bits holds its integer. -/
theorem valueAt?_eq {index : Nat} (inside : index < range.span.toNat)
    (small : index ≤ Int64.maxValue.toInt) :
    range.valueAt? index = some (Int64.ofInt (range.start.toInt + index)) := by
  have upper : range.start.toInt + index ≤ Int64.maxValue.toInt :=
    Int.le_trans (le_stop_of_lt_span inside) range.stop.toInt_le
  rw [valueAt?, decide_eq_true small, decide_eq_true upper]
  rfl

theorem toInt_ofInt_eq {index : Nat} (inside : index < range.span.toNat) :
    (Int64.ofInt (range.start.toInt + index)).toInt = range.start.toInt + index := by
  have lower := range.start.le_toInt
  have upper := range.stop.toInt_lt
  have atMost := le_stop_of_lt_span inside
  apply Int64.toInt_ofInt_of_le
  · omega
  · omega

/-- A count that fits into 64 bits is not changed by the saturation of the number of integers. -/
theorem min_count {limit : Nat} (bounded : limit ≤ Int64.maxValue.toInt) :
    min range.count limit = min limit range.span.toNat := by
  have below : limit ≤ maximalCount := by
    have greatest : Int64.maxValue.toInt ≤ (maximalCount : Int) := by decide
    exact Int.ofNat_le.mp (Int.le_trans bounded greatest)
  rw [count, Nat.min_assoc, Nat.min_eq_right below, Nat.min_comm]

end IntegerRange

namespace View

variable {view : View} {maxRepeat : Nat}

/-- The values that a repetition runs over, without a limit. -/
def rowTexts (view : View) : List String :=
  match view.range? "forEachRange" with
  | some range => range.integers.map Number.integerText
  | none => (view.list? "forEachItems").getD []

theorem rowTexts_of_range {range : IntegerRange} (isRange : view.range? "forEachRange" = some range) :
    view.rowTexts = range.integers.map Number.integerText := by
  rw [rowTexts, isRange]

theorem rowTexts_of_items (noRange : view.range? "forEachRange" = none) :
    view.rowTexts = (view.list? "forEachItems").getD [] := by
  rw [rowTexts, noRange]

/-- A repetition runs over its first values. -/
theorem rowValues_eq_take (bounded : maxRepeat ≤ Int64.maxValue.toInt) :
    view.rowValues maxRepeat = view.rowTexts.take maxRepeat := by
  cases isRange : view.range? "forEachRange" with
  | none =>
    rw [rowTexts_of_items isRange, rowValues, isRange]
  | some range =>
    have each : ∀ index ∈ List.range (min maxRepeat range.span.toNat),
        ((range.valueAt? index).map fun value ↦ Number.integerText value.toInt) =
          some (Number.integerText (range.start.toInt + index)) := by
      intro index member
      have below := List.mem_range.mp member
      have inside : index < range.span.toNat := by omega
      have small : index ≤ Int64.maxValue.toInt := by omega
      rw [IntegerRange.valueAt?_eq inside small, Option.map_some,
        IntegerRange.toInt_ofInt_eq inside]
    calc view.rowValues maxRepeat
      _ = (List.range (min maxRepeat range.span.toNat)).filterMap fun index ↦
            (range.valueAt? index).map fun value ↦ Number.integerText value.toInt := by
        rw [rowValues, isRange, ← IntegerRange.min_count bounded]
      _ = (List.range (min maxRepeat range.span.toNat)).map fun (index : Nat) ↦
            Number.integerText (range.start.toInt + index) :=
        List.filterMap_eq_map_iff_forall_eq_some.mpr each
      _ = view.rowTexts.take maxRepeat := by
        rw [rowTexts_of_range isRange, IntegerRange.integers, ← List.map_take, ← List.map_take,
          List.take_range, List.map_map]
        rfl

/-- The rows of a repetition are its template, filled in with the first of its values in order. -/
theorem expandRows_eq {template : View} (hasTemplate : view.view? "rowTemplate" = some template)
    (bounded : maxRepeat ≤ Int64.maxValue.toInt) :
    view.expandRows maxRepeat =
      (view.rowTexts.take maxRepeat).map (template.fillRow (view.string? "rowVariable")) := by
  rw [expandRows, hasTemplate]
  exact congrArg (List.map _) (rowValues_eq_take bounded)

theorem expandRows_eq_nil (noTemplate : view.view? "rowTemplate" = none) :
    view.expandRows maxRepeat = [] := by
  rw [expandRows, noTemplate]

end View

end ViewPreview
