import ViewPreview.Text.Line
import ViewPreview.Text.Word
import ViewPreview.Token.Basic

/-!
# Tokens of a Text

Cutting a text into tokens.  Strings may contain interpolated expressions with strings in them, may
go over several lines, and may be raw, with number signs outside their quotes.  The characters of
operators stick together, and so do a dot and the operator it begins.  A slash begins a regular
expression only where an operand may stand; anywhere else it divides.
-/

namespace ViewPreview

open ViewPreview.Text

/-! ## Strings -/

/-- What surrounds a place inside a string: a literal, or an interpolation with `depth` open
parentheses. -/
inductive StringPlace where
  | literal (hashes : Nat) (multiline : Bool)
  | interpolation (depth : Nat)
deriving Repr, DecidableEq

/-- The quotes of a string literal. -/
def quotes (multiline : Bool) : List Char :=
  if multiline then ['"', '"', '"'] else ['"']

/-- The literal that a text opens, and the length of its opening quotes.  A raw literal has only one
quote at either end, and others are part of it. -/
def openedLiteral? (text : List Char) : Option (StringPlace × Nat) :=
  let hashes := (text.takeWhile (· == '#')).length
  match text.drop hashes with
  | '"' :: '"' :: '"' :: _ =>
    some (if hashes = 0 then (.literal 0 true, 3) else (.literal hashes false, hashes + 1))
  | '"' :: _ => some (.literal hashes false, hashes + 1)
  | _ => none

/-- What surrounds the place after the next character inside a string, from the inside out, and the
number of characters to pass over before the one after it. -/
def nextStringPlaces (place : StringPlace) (outer : List StringPlace) (text : List Char) :
    List StringPlace × Nat :=
  match place with
  | .literal hashes multiline =>
    let closing := quotes multiline ++ List.replicate hashes '#'
    let escape := '\\' :: List.replicate hashes '#'
    if closing.isPrefixOf text then (outer, closing.length - 1)
    else if escape.isPrefixOf text then
      if text[escape.length]? == some '(' then (.interpolation 0 :: place :: outer, escape.length)
      else (place :: outer, escape.length)
    else (place :: outer, 0)
  | .interpolation depth =>
    match openedLiteral? text with
    | some (literal, length) => (literal :: place :: outer, length - 1)
    | none =>
      match text.head?, depth with
      | some '(', _ => (.interpolation (depth + 1) :: outer, 0)
      | some ')', 0 => (outer, 0)
      | some ')', depth + 1 => (.interpolation depth :: outer, 0)
      | _, _ => (place :: outer, 0)

/-- The number of characters up to the end of a string, given what surrounds the start of a text,
and the number of its characters that are already accounted for. -/
def stringLength : List StringPlace → (known : Nat) → List Char → Nat
  | _, _, [] => 0
  | places, known + 1, _ :: text => stringLength places known text + 1
  | [], 0, _ :: _ => 0
  | place :: outer, 0, c :: text =>
    let next := nextStringPlaces place outer (c :: text)
    stringLength next.1 next.2 text + 1

/-! ## Words, numbers and operators -/

/-- Ranges of the characters outside ASCII that operators may consist of. -/
def operatorRanges : List (Nat × Nat) :=
  [(0xA1, 0xA7), (0xA9, 0xA9), (0xAB, 0xAC), (0xAE, 0xAE), (0xB0, 0xB1), (0xB6, 0xB6),
    (0xBB, 0xBB), (0xBF, 0xBF), (0xD7, 0xD7), (0xF7, 0xF7), (0x2016, 0x2017), (0x2020, 0x2027),
    (0x2030, 0x203E), (0x2041, 0x2053), (0x2055, 0x205E), (0x2190, 0x23FF), (0x2500, 0x2775),
    (0x2794, 0x2BFF), (0x2E00, 0x2E7F), (0x3001, 0x3003), (0x3008, 0x3020), (0x3030, 0x3030)]

/-- Whether a character belongs to operators. -/
def isOperator (c : Char) : Bool :=
  "/=-+!*%<>&|^~?".toList.contains c ||
    operatorRanges.any fun range ↦ range.1 ≤ c.toNat && c.toNat ≤ range.2

/-- Whether a character belongs to words wherever it stands. -/
def isNameStart (c : Char) : Bool :=
  isIdentifierStart c || c == '$' || (c.toNat ≥ 0x80 && !isBlank c && !isOperator c)

/-- Whether a character may continue a word. -/
def isNamePart (c : Char) : Bool :=
  isNameStart c || isAsciiDigit c

/-- The length of the rest of a number. -/
def numberLength : List Char → Nat
  | [] => 0
  | '.' :: c :: text => if isAsciiDigit c then numberLength text + 2 else 0
  | c :: text => if isNamePart c then numberLength text + 1 else 0

/-- The length of the longest start of a text whose characters satisfy a condition. -/
def runLength (condition : Char → Bool) (text : List Char) : Nat :=
  (text.takeWhile condition).length

/-- Whether a dot before a text begins an operator. -/
def continuesDot (text : List Char) : Bool :=
  match text with
  | c :: _ => c == '.' || (isOperator c && c != '?' && c != '!')
  | [] => false

/-! ## Regular expressions -/

/-- The length of a regular expression on one line behind its opening slash.  It does not begin with
a character of operators, which the slash would stick to, and its closing slash follows no blank. -/
def regexLength? (text : List Char) : Option Nat :=
  let body := text.takeWhile fun c ↦ c != '/' && c != '\n'
  match body.head?, body.getLast?, text[body.length]? with
  | some first, some last, some '/' =>
    if isOperator first || isInlineBlank last then none else some (body.length + 1)
  | _, _, _ => none

/-- The length of a text up to the end of the last slash in it that a number sign follows. -/
def lastSlashLength? : List Char → Option Nat
  | [] => none
  | c :: text =>
    match lastSlashLength? text with
    | some length => some (length + 1)
    | none => if ['/', '#'].isPrefixOf (c :: text) then some 2 else none

/-- The length of a text up to the end of the first slash in it that a number sign follows. -/
def firstSlashLength? : List Char → Option Nat
  | [] => none
  | c :: text =>
    if ['/', '#'].isPrefixOf (c :: text) then some 2
    else (firstSlashLength? text).map (· + 1)

/-- The length of a regular expression between number signs behind the first of them.  It goes over
several lines if its opening slash ends a line, and to the last place on its line otherwise. -/
def markedRegexLength? (text : List Char) : Option Nat :=
  match text with
  | '/' :: '\n' :: body => (firstSlashLength? body).map (· + 2)
  | '/' :: _ :: body =>
    (lastSlashLength? (body.takeWhile fun c ↦ c != '\n')).map (· + 2)
  | _ => none

/-! ## Positions -/

/-- What may stand at a place in a text: the name of a member, an operand, or something that goes on
with the value before it. -/
inductive Position where
  | member
  | operand
  | continuation
deriving Repr, DecidableEq

/-- Words that an operand may follow. -/
def operandWords : List String :=
  ["await", "case", "else", "guard", "if", "in", "return", "switch", "throw", "try", "where",
    "while", "yield"]

/-- The position behind a token at a given position. -/
def Position.after (position : Position) (token : Token) : Position :=
  match token.kind with
  | .mark =>
    if token.isMark "." then .member
    else if token.isClosing || (position == .continuation && token.isPostfix) then .continuation
    else .operand
  | .word =>
    if position != .member && token.isWordOf operandWords then .operand else .continuation
  | _ => .continuation

/-! ## Texts -/

/-- The kind of the token that starts with a character at a given position, and the number of
characters after that one. -/
def lexeme (position : Position) (c : Char) (text : List Char) : TokenKind × Nat :=
  match openedLiteral? (c :: text) with
  | some (literal, length) => (.string, stringLength [literal] (length - 1) text)
  | none =>
    match
      if c == '#' then markedRegexLength? text
      else if c == '/' && position == .operand then regexLength? text
      else none
    with
    | some length => (.regex, length)
    | none =>
      if isNameStart c || c == '#' then (.word, runLength isNamePart text)
      else if c == '`' then (.word, runLength (· != '`') text + 1)
      else if isAsciiDigit c then
        (.number, if position == .member then runLength isNamePart text else numberLength text)
      else if isOperator c then (.mark, runLength isOperator text)
      else if c == '.' && continuesDot text then
        (.mark, runLength (fun c ↦ c == '.' || isOperator c) text)
      else (.mark, 0)

/-- The tokens of a text that starts on a given line and at a given position. -/
def tokensFrom (line : Nat) (position : Position) (text : List Char) : List Token :=
  let gap := gapLength .blank text
  match _rest : text.drop gap with
  | [] => []
  | c :: rest =>
    let (kind, length) := lexeme position c rest
    let token : Token :=
      { kind
        gap := text.take gap
        text := c :: rest.take length
        line := line + lineFeeds (text.take gap) }
    token ::
      tokensFrom (token.line + lineFeeds token.text) (position.after token) (rest.drop length)
termination_by text.length
decreasing_by
  have shorter := congrArg List.length _rest
  simp only [List.length_drop, List.length_cons] at *
  omega

/-- The tokens of a source. -/
def tokens (source : List Char) : List Token :=
  tokensFrom 1 .operand source

end ViewPreview
