import ViewPreview.Number.Numeral
import ViewPreview.View.Range

/-!
# Literals and Names in Argument Text

Reading the text of an argument as a string, a truth value, a range of integers, or the name of an
enumeration case.  A string literal runs from a quote to the next quote that no backslash precedes;
what it contains is kept as it is written, except that an escaped quote or backslash stands for
itself.
-/

namespace ViewPreview.Call

open ViewPreview.Text

/-! ## Strings -/

/-- What stands before the quote that closes a string, given the text after its opening quote.  A
backslash keeps the character after it from closing the string, and may not end a line. -/
def quotedContent? : List Char → Option (List Char)
  | [] => none
  | '"' :: _ => some []
  | ['\\'] => none
  | '\\' :: c :: text =>
    if c = '\n' then none else (quotedContent? text).map fun content ↦ '\\' :: c :: content
  | c :: text => (quotedContent? text).map fun content ↦ c :: content

/-- The content of the first string literal of a text, as it is written. -/
def firstQuoted? : List Char → Option (List Char)
  | [] => none
  | '"' :: text => (quotedContent? text).or (firstQuoted? text)
  | _ :: text => firstQuoted? text

/-- The characters that the content of a string literal stands for.  Interpolations such as
`\(name)` are left as they are written. -/
def unescape : List Char → List Char
  | [] => []
  | '\\' :: '"' :: text => '"' :: unescape text
  | '\\' :: '\\' :: text => '\\' :: unescape text
  | c :: text => c :: unescape text

/-- The characters of the first string literal of a text. -/
def stringLiteral? (text : List Char) : Option String :=
  (firstQuoted? text).map fun content ↦ String.ofList (unescape content)

/-- Whether a text begins and ends with a quote, blanks apart. -/
def isQuoted (text : List Char) : Bool :=
  match trim text with
  | '"' :: rest => rest.getLast? == some '"'
  | _ => false

/-! ## Truth values and ranges -/

/-- The text inside `.constant(...)`, or a text of another form as it is. -/
def constantInner (text : List Char) : List Char :=
  match (dropStart? ".constant(".toList text).bind (dropFinish? [')']) with
  | some inner => trim inner
  | none => text

/-- The truth value that a text denotes, as a literal or as a constant binding. -/
def boolLiteral? (text : List Char) : Option Bool :=
  match String.ofList (constantInner (trim text)) with
  | "true" => some true
  | "false" => some false
  | _ => none

/-- A text without the pairs of parentheses around it, of which at most `limit` are removed. -/
def stripParentheses : (limit : Nat) → List Char → List Char
  | 0, text => text
  | limit + 1, text =>
    match (dropStart? ['('] text).bind (dropFinish? [')']) with
    | some inner => stripParentheses limit (trim inner)
    | none => text

/-- Split an integer with an optional minus sign off the start of a text. -/
def splitInteger? (text : List Char) : Option (List Char × List Char) :=
  let (sign, body) := match text with
    | '-' :: rest => (['-'], rest)
    | _ => ([], text)
  let digits := body.takeWhile isDigit
  if digits.isEmpty then none else some (sign ++ digits, body.dropWhile isDigit)

/-- Split a range operator off the start of a text, with whether it includes the upper bound. -/
def splitRangeOperator? : List Char → Option (Bool × List Char)
  | '.' :: '.' :: '<' :: text => some (false, text)
  | '.' :: '.' :: '.' :: text => some (true, text)
  | _ => none

/-- The range that a text denotes, inside any number of parentheses. -/
def range? (text : List Char) : Option IntegerRange := do
  let bare := stripParentheses text.length (trim text)
  let (start, afterStart) ← splitInteger? bare
  let (inclusive, afterOperator) ← splitRangeOperator? (trimStart afterStart)
  let (stop, rest) ← splitInteger? (trimStart afterOperator)
  if rest.isEmpty then
    let first ← Number.readInteger? start
    let last ← Number.readInteger? stop
    some ⟨Int64.ofInt first, Int64.ofInt last, inclusive⟩
  else none

/-! ## Names -/

/-- Split an identifier off the start of a text. -/
def splitIdentifier? : List Char → Option (List Char × List Char)
  | [] => none
  | c :: text =>
    if isIdentifierStart c then
      some (c :: text.takeWhile isIdentifierPart, text.dropWhile isIdentifierPart)
    else none

/-- The identifier that a text begins with, blanks apart. -/
def leadingIdentifier? (text : List Char) : Option String :=
  (splitIdentifier? (trimStart text)).map fun parts ↦ String.ofList parts.1

/-- The identifier after the dot that a text begins with. -/
def dotToken? : List Char → Option String
  | '.' :: text => (splitIdentifier? text).map fun parts ↦ String.ofList parts.1
  | _ => none

/-- The identifier after the dot that follows the capitalized type name a text begins with. -/
def typeToken? (text : List Char) : Option String :=
  match text with
  | c :: _ =>
    if 'A' ≤ c && c ≤ 'Z' then dotToken? (text.dropWhile isIdentifierPart) else none
  | [] => none

/-- The identifiers of a text, from the left.  An identifier that has begun runs on through
`pending`, its characters so far in reverse. -/
def identifiersFrom : (pending : List Char) → List Char → List String
  | [], [] => []
  | pending, [] => [String.ofList pending.reverse]
  | [], c :: text =>
    if isIdentifierStart c then identifiersFrom [c] text else identifiersFrom [] text
  | pending, c :: text =>
    if isIdentifierPart c then identifiersFrom (c :: pending) text
    else String.ofList pending.reverse :: identifiersFrom [] text

/-- The identifiers of a text. -/
def identifiers (text : List Char) : List String :=
  identifiersFrom [] text

/-- The enumeration case that a text names: `.token` and `Type.token` name `token`, and any other
text names its last identifier. -/
def token? (text : List Char) : Option String :=
  let trimmed := trim text
  ((dotToken? trimmed).or (typeToken? trimmed)).or (identifiers trimmed).getLast?

end ViewPreview.Call
