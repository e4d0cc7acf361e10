import ViewPreview.Number.Shortest

/-!
# Number Layouts

How the shortest decimal of a number is set out as text.  A layout says which magnitudes are written
with all their places and which with a power of ten, and whether a whole number carries a fraction.
Three layouts are in use: the plain one for messages and answers, the one of serialized trees, and
the one of style sheets, which first rounds to three places.
-/

namespace ViewPreview.Number

/-- How numbers are set out.  A magnitude is the power of ten just above a number; magnitudes from
`least` to `greatest` are written with all their places, the others with a power of ten, and a
missing bound leaves that side open. -/
structure Layout where
  least : Option Int
  greatest : Option Int
  wholeEnd : String
  tie : Tie

/-- All places are written and a whole number has no fraction. -/
def Layout.plain : Layout :=
  { least := none, greatest := none, wholeEnd := "", tie := .larger }

/-- Magnitudes from -4 to 16 are written with all their places, and a whole number ends in `.0`. -/
def Layout.serialized : Layout :=
  { least := some (-4), greatest := some 16, wholeEnd := ".0", tie := .even }

/-- A run of zeros. -/
def zeros (n : Nat) : List Char :=
  List.replicate n '0'

/-- A power of ten: the sign is always written, and there are at least two digits. -/
def exponentText (exponent : Int) : String :=
  let digits := digitsOf exponent.natAbs
  (if exponent < 0 then "e-" else "e+") ++
    String.ofList (if digits.length < 2 then '0' :: digits else digits)

/-- A positive decimal with all its places. -/
def Layout.positional (layout : Layout) (d : Decimal) : String :=
  let digits := digitsOf d.coefficient
  match d.exponent with
  | .ofNat e => String.ofList (digits ++ zeros e) ++ layout.wholeEnd
  | .negSucc e =>
    let places := e + 1
    if places < digits.length then
      String.ofList (digits.take (digits.length - places) ++
        '.' :: digits.drop (digits.length - places))
    else
      String.ofList ('0' :: '.' :: (zeros (places - digits.length) ++ digits))

/-- A positive decimal with one digit before the point and a power of ten. -/
def scientific (d : Decimal) : String :=
  match digitsOf d.coefficient with
  | [] => ""
  | first :: rest =>
    let mark := if rest.isEmpty then [] else ['.']
    String.ofList (first :: (mark ++ rest)) ++ exponentText (d.exponent + rest.length)

/-- Whether a decimal is written with all its places. -/
def Layout.isPositional (layout : Layout) (d : Decimal) : Bool :=
  let magnitude := d.exponent + (digitsOf d.coefficient).length
  layout.least.all (· ≤ magnitude) && layout.greatest.all (magnitude ≤ ·)

/-- The text of a number. -/
def Layout.text (layout : Layout) (x : Float) : String :=
  match denotation x with
  | .notANumber => "NaN"
  | .infinite negative => if negative then "-inf" else "inf"
  | .finite value =>
    let sign := if value.negative then "-" else ""
    if value.mantissa == 0 then sign ++ "0" ++ layout.wholeEnd
    else
      let d := value.shortest layout.tie
      sign ++ if layout.isPositional d then layout.positional d else scientific d

/-- The plain text of a number. -/
def plainText (x : Float) : String :=
  Layout.plain.text x

/-- The text of an integer. -/
def integerText (n : Int) : String :=
  match n with
  | .ofNat k => String.ofList (digitsOf k)
  | .negSucc k => "-" ++ String.ofList (digitsOf (k + 1))

/-- The text of a number in a style sheet: at most three places, and zero without a sign. -/
def styleText (x : Float) : String :=
  let rounded := roundHalfAway (x * 1000.0) / 1000.0
  if rounded == 0.0 then "0" else plainText rounded

end ViewPreview.Number
