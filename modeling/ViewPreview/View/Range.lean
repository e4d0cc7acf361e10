/-!
# Integer Ranges

The range literals `a..<b` and `a...b` over 64-bit integers: how many integers such a range holds
and which one stands at a given place.
-/

namespace ViewPreview

/-- The integers from `start` up to `stop`, which belongs to the range when it is `inclusive`. -/
structure IntegerRange where
  start : Int64
  stop : Int64
  inclusive : Bool
deriving Repr, DecidableEq

namespace IntegerRange

/-- The largest number of integers that is reported. -/
def maximalCount : Nat :=
  UInt64.size - 1

/-- The distance from the start to the first integer past the range; negative when the bounds are
reversed. -/
def span (range : IntegerRange) : Int :=
  range.stop.toInt - range.start.toInt + if range.inclusive then 1 else 0

/-- The number of integers in the range. -/
def count (range : IntegerRange) : Nat :=
  min range.span.toNat maximalCount

/-- Whether the range holds no integer. -/
def isEmpty (range : IntegerRange) : Bool :=
  range.count == 0

/-- The integer at a place counted from zero, unless it exceeds the largest 64-bit integer. -/
def valueAt? (range : IntegerRange) (index : Nat) : Option Int64 :=
  if index ≤ Int64.maxValue.toInt && range.start.toInt + index ≤ Int64.maxValue.toInt then
    some (Int64.ofInt (range.start.toInt + index))
  else none

end IntegerRange

end ViewPreview
