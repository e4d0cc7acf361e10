import ViewPreview.Number.Numeral
import ViewPreview.Settings.Value

/-!
# Quoted Text

The four ways to quote a text: between single quotes as it is, between double quotes with escapes,
and either of the two over several lines between triple quotes.  Control characters other than the
tab have to be escaped.
-/

namespace ViewPreview.Settings

/-! ## Escapes -/

/-- A control character other than the tab. -/
def isControl (c : Char) : Bool :=
  (c.toNat < 0x20 && c != '\t') || c.toNat == 0x7F

/-- The character with the code that the first `count` characters of a text denote. -/
def codeEscape? (count : Nat) (text : List Char) : Option Char := do
  let digits := text.take count
  if digits.length < count then none
  else
    let code := Number.ofDigits 16 (← digits.mapM (Number.digitOf? 16))
    if code.isValidChar then some (Char.ofNat code) else none

/-- The character that an escape denotes, given the text behind its backslash, and the length of
that escape. -/
def escape? : List Char → Option (Char × Nat)
  | 'b' :: _ => some ('\x08', 1)
  | 't' :: _ => some ('\t', 1)
  | 'n' :: _ => some ('\n', 1)
  | 'f' :: _ => some ('\x0c', 1)
  | 'r' :: _ => some ('\r', 1)
  | 'e' :: _ => some ('\x1b', 1)
  | '"' :: _ => some ('"', 1)
  | '\\' :: _ => some ('\\', 1)
  | 'x' :: text => (codeEscape? 2 text).map fun c ↦ (c, 3)
  | 'u' :: text => (codeEscape? 4 text).map fun c ↦ (c, 5)
  | 'U' :: text => (codeEscape? 8 text).map fun c ↦ (c, 9)
  | _ => none

/-! ## Quotes -/

/-- Put a character before the text that was read. -/
def consRead (c : Char) (read : Option (List Char × List Char)) : Option (List Char × List Char) :=
  read.map fun parts ↦ (c :: parts.1, parts.2)

/-- A text up to a single quote. -/
def literalText? : List Char → Option (List Char × List Char)
  | [] => none
  | c :: text =>
    if c = '\'' then some ([], text)
    else if isControl c then none
    else consRead c (literalText? text)

/-- A text with escapes up to a double quote, after passing over `skip` characters that belong to an
escape. -/
def basicText? : (skip : Nat) → List Char → Option (List Char × List Char)
  | _, [] => none
  | skip + 1, _ :: text => basicText? skip text
  | 0, c :: text =>
    if c = '"' then some ([], text)
    else if c = '\\' then
      match escape? text with
      | some (escaped, length) => consRead escaped (basicText? length text)
      | none => none
    else if isControl c then none
    else consRead c (basicText? 0 text)

/-- The quotes, at most two of them, that belong to a text although they touch the ones that close
it. -/
def spareQuotes (quote : Char) (text : List Char) : Nat :=
  min 2 (text.takeWhile (· == quote)).length

/-- Whether a text begins with three quotes. -/
def closes (quote : Char) (text : List Char) : Bool :=
  [quote, quote, quote].isPrefixOf text

/-- What is read at three quotes that close a text over several lines, given the text behind the
first of them. -/
def closeLines (quote : Char) (text : List Char) : Option (List Char × List Char) :=
  let rest := text.drop 2
  let spare := spareQuotes quote rest
  some (List.replicate spare quote, rest.drop spare)

/-- Whether a text begins with a line break. -/
def startsLineBreak : List Char → Bool
  | '\n' :: _ => true
  | '\r' :: '\n' :: _ => true
  | _ => false

/-- Whether a control character may stand in a text over several lines, given what follows it. -/
def isLineBreakPart (c : Char) (text : List Char) : Bool :=
  c == '\n' || (c == '\r' && text.head? == some '\n')

/-- A text over several lines as it is, up to three single quotes. -/
def literalLines? : List Char → Option (List Char × List Char)
  | [] => none
  | c :: text =>
    if closes '\'' (c :: text) then closeLines '\'' text
    else if isControl c && !isLineBreakPart c text then none
    else consRead c (literalLines? text)

/-- Blanks and line breaks. -/
def isGapCharacter (c : Char) : Bool :=
  c == ' ' || c == '\t' || c == '\n' || c == '\r'

/-- The length of the gap that a backslash at the end of a line removes, given the text behind that
backslash. -/
def lineGap? (text : List Char) : Option Nat :=
  if startsLineBreak (text.dropWhile fun c ↦ c == ' ' || c == '\t') then
    some (text.takeWhile isGapCharacter).length
  else none

/-- A text over several lines with escapes, up to three double quotes, after passing over `skip`
characters that belong to an escape. -/
def basicLines? : (skip : Nat) → List Char → Option (List Char × List Char)
  | _, [] => none
  | skip + 1, _ :: text => basicLines? skip text
  | 0, c :: text =>
    if closes '"' (c :: text) then closeLines '"' text
    else if c = '\\' then
      match lineGap? text with
      | some gap => basicLines? gap text
      | none =>
        match escape? text with
        | some (escaped, length) => consRead escaped (basicLines? length text)
        | none => none
    else if isControl c && !isLineBreakPart c text then none
    else consRead c (basicLines? 0 text)

/-- A text without the line break at its start. -/
def dropLineBreak : List Char → List Char
  | '\n' :: text => text
  | '\r' :: '\n' :: text => text
  | text => text

/-- A quoted text on one line. -/
def quotedName? : List Char → Option (List Char × List Char)
  | '"' :: text => basicText? 0 text
  | '\'' :: text => literalText? text
  | _ => none

/-- A quoted text of any kind. -/
def quoted? : List Char → Option (List Char × List Char)
  | '"' :: '"' :: '"' :: text => basicLines? 0 (dropLineBreak text)
  | '\'' :: '\'' :: '\'' :: text => literalLines? (dropLineBreak text)
  | text => quotedName? text

end ViewPreview.Settings
