import ViewPreview.Number.Numeral
import ViewPreview.Settings.Value

/-!
# Literals of a Settings File

Truth values, numbers and times, which are written without quotes.  Low lines may stand between the
digits of a number.  Numbers too large for what can hold them are refused: integers beyond 128 bits,
and finite numerals that only infinity is near to.
-/

namespace ViewPreview.Settings

open ViewPreview.Text ViewPreview.Number

/-! ## Digits -/

/-- The digits of a text in which single low lines may stand between digits. -/
def digits? (base : Nat) (text : List Char) : Option (List Nat) :=
  let runs := splitAll '_' text
  if runs.any List.isEmpty then none else (runs.flatten).mapM (digitOf? base)

/-- The digits of a decimal number without needless zeros before it. -/
def wholeDigits? (text : List Char) : Option (List Nat) :=
  (digits? 10 text).filter fun digits ↦ digits.length ≤ 1 || digits.head? != some 0

/-- Split a sign off the start of a text; a number without a sign is positive. -/
def splitSign (text : List Char) : Bool × List Char :=
  match text with
  | '-' :: rest => (true, rest)
  | '+' :: rest => (false, rest)
  | _ => (false, text)

/-! ## Numbers -/

/-- An integer, if it fits into 128 bits with or without a sign. -/
def boundedInteger? (n : Int) : Option Value :=
  if -(Nat.pow 2 127 : Int) ≤ n && n < Nat.pow 2 128 then some (.integer n) else none

/-- The integer that a text denotes. -/
def integer? (text : List Char) : Option Value := do
  let n : Int ←
    match text with
    | '0' :: 'x' :: digits => (digits? 16 digits).map fun digits ↦ (ofDigits 16 digits : Int)
    | '0' :: 'o' :: digits => (digits? 8 digits).map fun digits ↦ (ofDigits 8 digits : Int)
    | '0' :: 'b' :: digits => (digits? 2 digits).map fun digits ↦ (ofDigits 2 digits : Int)
    | _ =>
      let (negative, body) := splitSign text
      (wholeDigits? body).map fun digits ↦
        if negative then -(ofDigits 10 digits : Int) else (ofDigits 10 digits : Int)
  boundedInteger? n

/-- Split a text at a character of a pair, if it occurs. -/
def splitEither (first second : Char) (text : List Char) : List Char × Option (List Char) :=
  match text.dropWhile fun c ↦ c != first && c != second with
  | [] => (text, none)
  | _ :: rest => (text.takeWhile fun c ↦ c != first && c != second, some rest)

/-- The power of ten that an exponent denotes, or zero in its absence. -/
def exponent? (text : Option (List Char)) : Option Int :=
  match text with
  | none => some 0
  | some text =>
    let (negative, body) := splitSign text
    (digits? 10 body).map fun digits ↦
      if negative then -(ofDigits 10 digits : Int) else (ofDigits 10 digits : Int)

/-- The digits of a fraction, none in its absence. -/
def fraction? (text : Option (List Char)) : Option (List Nat) :=
  match text with
  | none => some []
  | some text => digits? 10 text

/-- The number with a fraction or an exponent that a text denotes. -/
def float? (text : List Char) : Option Value := do
  let (negative, body) := splitSign text
  match String.ofList body with
  | "inf" => some (.float (if negative then -(1.0 / 0.0) else 1.0 / 0.0))
  | "nan" => some (.float (0.0 / 0.0))
  | _ =>
    let (mantissa, power) := splitEither 'e' 'E' body
    let (whole, decimals) := splitEither '.' '.' mantissa
    let wholeDigits ← wholeDigits? whole
    let fractionDigits ← fraction? decimals
    let exponent ← exponent? power
    let x := ofDecimal negative (ofDigits 10 (wholeDigits ++ fractionDigits))
      (exponent - fractionDigits.length)
    if (power.isSome || decimals.isSome) && isFinite x then some (.float x) else none

/-! ## Times -/

/-- The number that two digits denote, with the text after them. -/
def twoDigits? : List Char → Option (Nat × List Char)
  | a :: b :: text => (digitsValue? [a, b]).map fun n ↦ (n, text)
  | _ => none

/-- The number of days in a month. -/
def daysIn (year month : Nat) : Nat :=
  if month == 2 then
    if year % 4 == 0 && (year % 100 != 0 || year % 400 == 0) then 29 else 28
  else if month == 4 || month == 6 || month == 9 || month == 11 then 30
  else 31

/-- The text after the date that it begins with. -/
def afterDate? (text : List Char) : Option (List Char) := do
  let (century, text) ← twoDigits? text
  let (year, text) ← twoDigits? text
  let text ← dropStart? ['-'] text
  let (month, text) ← twoDigits? text
  let text ← dropStart? ['-'] text
  let (day, text) ← twoDigits? text
  if 1 ≤ month && month ≤ 12 && 1 ≤ day && day ≤ daysIn (100 * century + year) month then some text
  else none

/-- The text after the seconds that it may begin with. -/
def afterSeconds? (text : List Char) : Option (List Char) :=
  match text with
  | ':' :: rest =>
    match twoDigits? rest with
    | some (second, rest) =>
      if second ≤ 60 then
        match rest with
        | '.' :: decimals =>
          if (decimals.takeWhile isAsciiDigit).isEmpty then none
          else some (decimals.dropWhile isAsciiDigit)
        | _ => some rest
      else none
    | none => none
  | _ => some text

/-- The text after the time of day that it begins with. -/
def afterClock? (text : List Char) : Option (List Char) := do
  let (hour, text) ← twoDigits? text
  let text ← dropStart? [':'] text
  let (minute, text) ← twoDigits? text
  if hour ≤ 23 && minute ≤ 59 then afterSeconds? text else none

/-- Whether a text is a difference from universal time. -/
def isOffset (text : List Char) : Bool :=
  match text with
  | [z] => z == 'Z' || z == 'z'
  | sign :: rest =>
    (sign == '+' || sign == '-') &&
      match twoDigits? rest with
      | some (hour, ':' :: rest) =>
        match twoDigits? rest with
        | some (minute, []) => hour ≤ 24 && minute ≤ 59
        | _ => false
      | _ => false
  | [] => false

/-- Whether a text is a time of day on a date, with or without a difference from universal time. -/
def isDatedClock (text : List Char) : Bool :=
  match afterClock? text with
  | some rest => rest.isEmpty || isOffset rest
  | none => false

/-- Whether a text is a date, a time of day, or both. -/
def isTime (text : List Char) : Bool :=
  afterClock? text == some [] ||
    match afterDate? text with
    | some [] => true
    | some (separator :: clock) =>
      (separator == 'T' || separator == 't' || separator == ' ') && isDatedClock clock
    | none => false

/-! ## Literals -/

/-- The value that a text without quotes denotes. -/
def literal? (text : List Char) : Option Value :=
  match String.ofList text with
  | "true" => some (.bool true)
  | "false" => some (.bool false)
  | _ => if isTime text then some .time else (integer? text).or (float? text)

/-- A character of a text without quotes. -/
def isLiteralPart (c : Char) : Bool :=
  isAsciiLetter c || isAsciiDigit c || c == '+' || c == '-' || c == '_' || c == '.' || c == ':'

/-- The value that the text at the start of another one denotes.  A blank may stand between a date
and a time of day. -/
def readLiteral? (text : List Char) : Option (Value × List Char) :=
  let first := text.takeWhile isLiteralPart
  let rest := text.dropWhile isLiteralPart
  let dated : Option (Value × List Char) :=
    match rest with
    | ' ' :: later =>
      let second := later.takeWhile isLiteralPart
      if afterDate? first == some [] && isDatedClock second then
        some (.time, later.dropWhile isLiteralPart)
      else none
    | _ => none
  dated.or ((literal? first).map fun value ↦ (value, rest))

end ViewPreview.Settings
