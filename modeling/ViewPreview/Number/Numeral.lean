import ViewPreview.Number.Binary
import ViewPreview.Text.Occurrence
import ViewPreview.Text.Word

/-!
# Numerals

Recognising and reading numbers inside a text.  A numeral is recognised by the decimal digits of any
script but only ASCII digits have a value, so a numeral written with other digits is found and then
not read.
-/

namespace ViewPreview.Number

open ViewPreview.Text

/-- The value of an ASCII digit. -/
def digitValue? (c : Char) : Option Nat :=
  if isAsciiDigit c then some (c.toNat - '0'.toNat) else none

/-- The value of a text of ASCII digits; an empty text has the value zero. -/
def digitsValue? (digits : List Char) : Option Nat :=
  digits.foldlM (fun total c ↦ (digitValue? c).map (10 * total + ·)) 0

/-- The value of a digit to a base. -/
def digitOf? (base : Nat) (c : Char) : Option Nat :=
  let value :=
    if isAsciiDigit c then c.toNat - '0'.toNat
    else if 'a' ≤ c && c ≤ 'f' then c.toNat - 'a'.toNat + 10
    else if 'A' ≤ c && c ≤ 'F' then c.toNat - 'A'.toNat + 10
    else base
  if value < base then some value else none

/-- The number with the given digits to a base. -/
def ofDigits (base : Nat) (digits : List Nat) : Nat :=
  digits.foldl (fun total digit ↦ base * total + digit) 0

/-- Split off a fraction: a point with at least one digit after it. -/
def splitFraction (text : List Char) : List Char × List Char :=
  match text with
  | '.' :: rest =>
    if (rest.takeWhile isDigit).isEmpty then ([], text)
    else ('.' :: rest.takeWhile isDigit, rest.dropWhile isDigit)
  | _ => ([], text)

/-- Split an unsigned numeral off the start of a text: digits with an optional fraction. -/
def splitUnsigned? (text : List Char) : Option (List Char × List Char) :=
  let whole := text.takeWhile isDigit
  if whole.isEmpty then none
  else
    let (fraction, rest) := splitFraction (text.dropWhile isDigit)
    some (whole ++ fraction, rest)

/-- Split a numeral with an optional minus sign off the start of a text. -/
def splitNumeral? (text : List Char) : Option (List Char × List Char) :=
  match text with
  | '-' :: rest => (splitUnsigned? rest).map fun parts ↦ ('-' :: parts.1, parts.2)
  | _ => splitUnsigned? text

/-- Split off a numeral that may also be a bare fraction such as `.5`. -/
def splitLooseNumeral? (text : List Char) : Option (List Char × List Char) :=
  let unsigned (body : List Char) : Option (List Char × List Char) :=
    match splitUnsigned? body with
    | some parts => some parts
    | none =>
      let (fraction, rest) := splitFraction body
      if fraction.isEmpty then none else some (fraction, rest)
  match text with
  | '-' :: rest => (unsigned rest).map fun parts ↦ ('-' :: parts.1, parts.2)
  | _ => unsigned text

/-- The number that a numeral with an optional minus sign denotes. -/
def readNumeral? (numeral : List Char) : Option Float :=
  let (negative, body) := match numeral with
    | '-' :: rest => (true, rest)
    | _ => (false, numeral)
  let (whole, fraction) := (splitFirst? '.' body).getD (body, [])
  (digitsValue? (whole ++ fraction)).map fun coefficient ↦
    ofDecimal negative coefficient (-(fraction.length : Int))

/-- The first numeral of a text. -/
def findNumeral? : List Char → Option (List Char)
  | [] => none
  | c :: text =>
    match splitLooseNumeral? (c :: text) with
    | some parts => some parts.1
    | none => findNumeral? text

/-- The number written first in a text. -/
def first? (text : List Char) : Option Float :=
  (findNumeral? text).bind readNumeral?

/-- The integer of 64 bits that a text of an optional minus sign and ASCII digits denotes. -/
def readInteger? (numeral : List Char) : Option Int :=
  let (negative, body) := match numeral with
    | '-' :: rest => (true, rest)
    | _ => (false, numeral)
  if body.isEmpty then none
  else
    (digitsValue? body).bind fun n ↦
      let value : Int := if negative then -(n : Int) else n
      if Int64.minValue.toInt ≤ value && value ≤ Int64.maxValue.toInt then some value else none

end ViewPreview.Number
