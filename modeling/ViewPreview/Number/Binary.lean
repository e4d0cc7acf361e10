/-!
# Binary Numbers

The exact value of a double-precision number, read off its bits: a sign, a mantissa and a power of
two.  Rounding to a whole number is defined on that value, with halves going away from zero.
-/

namespace ViewPreview.Number

/-- The finite value `± mantissa * 2 ^ exponent`.  The numbers next below it lie at half the usual
distance when the mantissa is `narrow`: the first of a new power of two. -/
structure Binary where
  negative : Bool
  mantissa : Nat
  exponent : Int
  narrow : Bool
deriving Repr, DecidableEq

/-- What a double-precision number denotes. -/
inductive Denotation where
  | notANumber
  | infinite (negative : Bool)
  | finite (value : Binary)
deriving Repr, DecidableEq

/-- Read a number off its bits. -/
def denotation (x : Float) : Denotation :=
  let bits : Nat := x.toBits.toNat
  let negative := bits / Nat.pow 2 63 == 1
  let biased : Nat := bits / Nat.pow 2 52 % Nat.pow 2 11
  let fraction : Nat := bits % Nat.pow 2 52
  if biased == 2047 then
    if fraction == 0 then .infinite negative else .notANumber
  else if biased == 0 then
    .finite ⟨negative, fraction, -1074, false⟩
  else
    .finite
      ⟨negative, Nat.pow 2 52 + fraction, (biased : Int) - 1075, fraction == 0 && biased > 1⟩

/-- Whether a number is neither infinite nor undefined. -/
def isFinite (x : Float) : Bool :=
  match denotation x with
  | .finite _ => true
  | _ => false

/-- The whole number nearest to `x`; a half goes away from zero. -/
def roundHalfAway (x : Float) : Float :=
  match denotation x with
  | .finite ⟨negative, mantissa, .negSucc k, _⟩ =>
    let whole := Float.ofNat ((2 * mantissa + Nat.pow 2 (k + 1)) / Nat.pow 2 (k + 2))
    if negative then -whole else whole
  | _ => x

/-- The number of the interval from `low` to `high` nearest to `x`. -/
def clamp (x low high : Float) : Float :=
  if x < low then low else if high < x then high else x

/-- The number nearest to `± coefficient * 10 ^ exponent`.  Magnitudes outside the range of finite
numbers give infinity or zero. -/
def ofDecimal (negative : Bool) (coefficient : Nat) (exponent : Int) : Float :=
  let digits := (Nat.toDigits 10 coefficient).length
  let magnitude :=
    if coefficient == 0 || digits + exponent < -400 then 0.0
    else if digits + exponent > 400 then 1.0 / 0.0
    else match exponent with
      | .ofNat e => Float.ofScientific coefficient false e
      | .negSucc e => Float.ofScientific coefficient true (e + 1)
  if negative then -magnitude else magnitude

end ViewPreview.Number
