import ViewPreview.Number.Binary

/-!
# Shortest Decimals

The decimal with the fewest digits that still denotes a given binary number.  A binary number stands
for the interval of reals that round to it; the ends belong to the interval exactly when the
mantissa is even.  For one digit, two digits, and so on, the two points of that decimal grid next to
the value are tried, and the first grid with a point inside the interval gives the answer.  Of two
such points the nearer one is taken.
-/

namespace ViewPreview.Number

/-- The decimal value `coefficient * 10 ^ exponent`. -/
structure Decimal where
  coefficient : Nat
  exponent : Int
deriving Repr, DecidableEq

/-- Which of two equally near decimals is taken. -/
inductive Tie where
  | larger
  | even
deriving Repr, DecidableEq

/-- The decimal digits of a natural number. -/
def digitsOf (n : Nat) : List Char :=
  Nat.toDigits 10 n

/-- The interval of reals that round to a positive binary number, as numerators over one
denominator. -/
structure Neighbourhood where
  low : Nat
  value : Nat
  high : Nat
  denominator : Nat
  closed : Bool
deriving Repr, DecidableEq

/-- The reals that round to a positive binary number. -/
def Binary.neighbourhood (x : Binary) : Neighbourhood :=
  let unit := match x.exponent - 2 with
    | .ofNat k => Nat.pow 2 k
    | .negSucc _ => 1
  let denominator := match x.exponent - 2 with
    | .ofNat _ => 1
    | .negSucc k => Nat.pow 2 (k + 1)
  { low := (4 * x.mantissa - if x.narrow then 1 else 2) * unit
    value := 4 * x.mantissa * unit
    high := (4 * x.mantissa + 2) * unit
    denominator
    closed := x.mantissa % 2 == 0 }

/-- The least `p` for which the value is below `10 ^ p`. -/
def Neighbourhood.magnitude (n : Neighbourhood) : Int :=
  if n.denominator ≤ n.value then (digitsOf (n.value / n.denominator)).length
  else 1 - (digitsOf ((n.denominator - 1) / n.value)).length

/-- The neighbourhood measured in units of `10 ^ exponent`. -/
def Neighbourhood.inUnitsOf (n : Neighbourhood) : (exponent : Int) → Neighbourhood
  | .ofNat e => { n with denominator := n.denominator * Nat.pow 10 e }
  | .negSucc e =>
    { n with
      low := n.low * Nat.pow 10 (e + 1)
      value := n.value * Nat.pow 10 (e + 1)
      high := n.high * Nat.pow 10 (e + 1) }

/-- Whether a whole number of units lies inside the neighbourhood. -/
def Neighbourhood.contains (n : Neighbourhood) (units : Nat) : Bool :=
  let point := units * n.denominator
  if n.closed then n.low ≤ point && point ≤ n.high else n.low < point && point < n.high

/-- The whole number of units inside the neighbourhood that is nearest to the value. -/
def Neighbourhood.nearest? (n : Neighbourhood) (tie : Tie) : Option Nat :=
  let below := n.value / n.denominator
  let above := below + 1
  let shortfall := n.value - below * n.denominator
  let excess := above * n.denominator - n.value
  match n.contains below, n.contains above with
  | false, false => none
  | true, false => some below
  | false, true => some above
  | true, true =>
    if shortfall < excess then some below
    else if excess < shortfall then some above
    else match tie with
      | .larger => some above
      | .even => some (if below % 2 == 0 then below else above)

/-- The shortest decimal that denotes a positive binary number.  A value just below a power of ten
may be denoted by that power, which is then written with one digit. -/
def Binary.shortest (x : Binary) (tie : Tie) : Decimal :=
  let n := x.neighbourhood
  let p := n.magnitude
  let onGrid (digits : Nat) : Option Decimal :=
    let exponent := p - digits
    ((n.inUnitsOf exponent).nearest? tie).map fun units ↦
      if units = Nat.pow 10 digits then ⟨1, p⟩ else ⟨units, exponent⟩
  ((List.range' 1 17).findSome? onGrid).getD ⟨0, 0⟩

end ViewPreview.Number
