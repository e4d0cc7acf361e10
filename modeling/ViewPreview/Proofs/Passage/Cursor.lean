import ViewPreview.Passage.Declaration
import ViewPreview.Proofs.Text.Utf8

/-!
# Byte Cursors

Scanning a text by its bytes.  A cursor is a number of bytes from the start of a text in UTF-8.  It
moves over single bytes, or by the number of bytes that something found behind it takes.  Whatever
could go wrong on the way is checked: text is taken only from and up to a place between two
characters, no place is past the end of its text, nothing is taken from a number that is smaller,
every round of a loop moves the cursor on, and what is scanned inside something is shorter than the
text around it.
-/

namespace ViewPreview.Passage

open ViewPreview.Text ViewPreview.Call ViewPreview.Outline

/-- What may go wrong when a text is scanned by its bytes. -/
inductive Fault where
  /-- A place is past the end of the text. -/
  | outOfRange
  /-- Text is taken from, or up to, a place inside a character. -/
  | insideCharacter
  /-- A number is taken from a smaller one. -/
  | underflow
  /-- A round of a loop gets no further, or a nested text is not shorter. -/
  | stuck
deriving Repr, DecidableEq

/-- The outcome of scanning with checks. -/
abbrev Checked (α : Type) : Type :=
  Except Fault α

/-! ## Nested texts -/

/-- The texts of the arguments in a text, as far as they are looked at for an expression. -/
def argumentTexts (text : List Char) : List (List Char) :=
  (argumentsOf text).map fun argument ↦ trim argument.text

/-- The text of the statements in a closure. -/
def statementsText (inner : Passage) : List Char :=
  inner.splitParameter.2.text

/-- The texts in a link that are looked at for expressions and statements. -/
def ChainLink.nestedTexts : ChainLink → List (List Char)
  | .unread _ _ => []
  | .call _ _ arguments closure => argumentTexts arguments ++ closure.toList.map statementsText

/-- The texts in a scanned expression that are looked at for expressions and statements. -/
def Scan.nestedTexts (scan : Scan) : List (List Char) :=
  scan.arguments.toList.flatMap argumentTexts ++
    (scan.blocks.map fun block ↦ statementsText block.inner) ++
      scan.links.flatMap ChainLink.nestedTexts

namespace Cursor

/-! ## Places -/

/-- Whether a cursor stands between two characters of a text, or at one of its ends. -/
def IsPlace (text : List Char) (cursor : Nat) : Prop :=
  ∃ before rest, text = before ++ rest ∧ cursor = utf8Length before

/-- A difference, which may not be negative. -/
def subtract (number smaller : Nat) : Checked Nat :=
  if smaller ≤ number then .ok (number - smaller) else .error .underflow

/-- The text from a place on. -/
def textFrom : (text : List Char) → (cursor : Nat) → Checked (List Char)
  | text, 0 => .ok text
  | [], _ + 1 => .error .outOfRange
  | c :: text, cursor + 1 =>
    if c.utf8Size ≤ cursor + 1 then textFrom text (cursor + 1 - c.utf8Size)
    else .error .insideCharacter

/-- The text up to a place. -/
def textTo : (text : List Char) → (cursor : Nat) → Checked (List Char)
  | _, 0 => .ok []
  | [], _ + 1 => .error .outOfRange
  | c :: text, cursor + 1 =>
    if c.utf8Size ≤ cursor + 1 then (textTo text (cursor + 1 - c.utf8Size)).map (c :: ·)
    else .error .insideCharacter

/-- The text between two places. -/
def slice (text : List Char) (start stop : Nat) : Checked (List Char) := do
  let rest ← textFrom text start
  let length ← subtract stop start
  textTo rest length

/-- The passage from a place on. -/
def passageFrom (whole : Passage) (cursor : Nat) : Checked Passage :=
  (textFrom whole.text cursor).map whole.moveTo

/-- A place some bytes further on. -/
def advance (whole : Passage) (cursor count : Nat) : Checked Nat :=
  if cursor + count ≤ utf8Length whole.text then .ok (cursor + count) else .error .outOfRange

/-- The number of bytes that a match takes, given the text behind it. -/
def matchLength (text rest : List Char) : Nat :=
  utf8Length (text.take (text.length - rest.length))

/-! ## Bytes -/

/-- The bytes from a cursor on. -/
def bytesFrom (whole : Passage) (cursor : Nat) : List UInt8 :=
  (bytes whole.text).drop cursor

/-- The place behind a run of bytes that are ASCII characters from a list. -/
def runEnd (run : List Char) : (cursor : Nat) → List UInt8 → Nat
  | cursor, [] => cursor
  | cursor, byte :: rest =>
    if run.any fun c ↦ c.toUInt8 == byte then runEnd run (cursor + 1) rest else cursor

/-- The ASCII blanks. -/
def asciiBlanks : List Char :=
  [' ', '\t', '\n', '\x0c', '\r']

/-- The place behind the characters from a list that stand at a cursor. -/
def skip (run : List Char) (whole : Passage) (cursor : Nat) : Nat :=
  runEnd run cursor (bytesFrom whole cursor)

/-- The place of the bracket that closes the one that the bytes begin with, `depth` brackets into
them. -/
def closingPlace? (opening closing : UInt8) :
    (depth cursor : Nat) → List UInt8 → Checked (Option Nat)
  | _, _, [] => .ok none
  | depth, cursor, byte :: rest =>
    if byte = opening then closingPlace? opening closing (depth + 1) (cursor + 1) rest
    else if byte = closing then do
      let depth ← subtract depth 1
      if depth = 0 then .ok (some cursor)
      else closingPlace? opening closing depth (cursor + 1) rest
    else closingPlace? opening closing depth (cursor + 1) rest

/-- The block at a cursor, and the place behind it. -/
def block (opening closing : Char) (whole : Passage) (cursor : Nat) :
    Checked (Option (Passage × Nat)) :=
  if (bytesFrom whole cursor).head? = some opening.toUInt8 then do
    match ← closingPlace? opening.toUInt8 closing.toUInt8 0 cursor (bytesFrom whole cursor) with
    | none => .ok none
    | some stop =>
      let inner ← slice whole.text (cursor + 1) stop
      let start ← passageFrom whole (cursor + 1)
      let next ← advance whole cursor (utf8Length inner + 2)
      .ok (some (⟨start.line, inner⟩, next))
  else .ok none

/-- The place behind a statement that is no expression, `depth` brackets into it. -/
def statementEnd : (depth : Int) → (cursor : Nat) → List UInt8 → Nat
  | _, cursor, [] => cursor
  | depth, cursor, byte :: rest =>
    if byte = '{'.toUInt8 || byte = '('.toUInt8 || byte = '['.toUInt8 then
      statementEnd (depth + 1) (cursor + 1) rest
    else if byte = '}'.toUInt8 || byte = ')'.toUInt8 || byte = ']'.toUInt8 then
      statementEnd (depth - 1) (cursor + 1) rest
    else if byte = '\n'.toUInt8 && depth ≤ 0 then cursor + 1
    else statementEnd depth (cursor + 1) rest

/-! ## Loops -/

/-- What the rounds of a loop find from a cursor on in a text of some size, up to the first one that
finds nothing. -/
def repeatRounds {α : Type} (size : Nat) (round : Nat → Checked (Option (α × Nat)))
    (cursor : Nat) : Checked (List α × Nat) :=
  match round cursor with
  | .error fault => .error fault
  | .ok none => .ok ([], cursor)
  | .ok (some (found, next)) =>
    if cursor < next ∧ next ≤ size then
      (repeatRounds size round next).map fun others ↦ (found :: others.1, others.2)
    else .error .stuck
termination_by size - cursor

/-- Whether each round of a loop in a passage, from whatever place, either finds nothing or gets to a
later place. -/
def Progresses {α : Type} (whole : Passage) (round : Nat → Checked (Option (α × Nat))) : Prop :=
  ∀ cursor, IsPlace whole.text cursor →
    round cursor = .ok none ∨
      ∃ found next, round cursor = .ok (some (found, next)) ∧
        cursor < next ∧ IsPlace whole.text next

/-! ## Closures -/

/-- The block in braces at a cursor, spaces and tabs before it apart. -/
def trailingBlock (whole : Passage) (cursor : Nat) : Checked (Option (Passage × Nat)) :=
  block '{' '}' whole (skip [' ', '\t'] whole cursor)

/-- The closure directly behind a call. -/
def unlabeledBlock (whole : Passage) (cursor : Nat) : Checked (List Block × Nat) := do
  match ← trailingBlock whole cursor with
  | some (inner, next) => .ok ([⟨none, inner⟩], next)
  | none => .ok ([], cursor)

/-- The label that a text begins with, its colon and the brace behind it, and the text behind the
brace. -/
def openedLabel? (text : List Char) : Option (List Char × List Char) := do
  let (label, rest) ← splitName? text
  let value ← afterMark? ':' rest
  let inner ← dropStart? ['{'] value
  some (label, inner)

/-- A closure behind its label.  The match ends with the brace, which is gone back to. -/
def labeledBlock (whole : Passage) (cursor : Nat) : Checked (Option (Block × Nat)) := do
  let start := skip asciiBlanks whole cursor
  let text ← textFrom whole.text start
  match openedLabel? text with
  | none => .ok none
  | some (label, inner) =>
    let count ← subtract (matchLength text inner) 1
    let brace ← advance whole start count
    match ← block '{' '}' whole brace with
    | none => .ok none
    | some (inner, next) => .ok (some (⟨some (String.ofList label), inner⟩, next))

/-- The closures behind a call. -/
def blocks (whole : Passage) (cursor : Nat) : Checked (List Block × Nat) := do
  let (first, next) ← unlabeledBlock whole cursor
  let (others, last) ← repeatRounds (utf8Length whole.text) (labeledBlock whole) next
  .ok (first ++ others, last)

/-! ## Modifier chains -/

/-- The closure behind a modifier. -/
def linkBlock (whole : Passage) (cursor : Nat) : Checked (Option Passage × Nat) := do
  match ← trailingBlock whole cursor with
  | some (inner, next) => .ok (some inner, next)
  | none => .ok (none, cursor)

/-- The place behind a call in parentheses, if they are closed. -/
def skipCall (whole : Passage) (cursor : Nat) : Checked Nat := do
  match ← block '(' ')' whole cursor with
  | some (_, next) => .ok next
  | none => .ok cursor

/-- The link that a modifier named at a line makes, given the place behind its name and the text from
there on. -/
def linkAfterName (whole : Passage) (line : Option Nat) (name : String) (afterName : Nat)
    (text : List Char) : Checked (Option (ChainLink × Nat)) :=
  match dropStart? ['('] text with
  | some inner =>
    match splitFirst? ')' inner with
    | none => .ok none
    | some (arguments, _) =>
      if arguments.contains '(' then do
        let afterCall ← skipCall whole afterName
        let (_, next) ← linkBlock whole afterCall
        .ok (some (.unread line name, next))
      else do
        let afterCall ← advance whole afterName (utf8Length arguments + 2)
        let (closure, next) ← linkBlock whole afterCall
        .ok (some (.call line name arguments closure, next))
  | none =>
    if (trimStart text).head? == some '{' then do
      let (closure, next) ← linkBlock whole afterName
      .ok (some (.call line name [] closure, next))
    else .ok none

/-- The next link of a modifier chain. -/
def link (whole : Passage) (cursor : Nat) : Checked (Option (ChainLink × Nat)) := do
  let start := skip asciiBlanks whole cursor
  let dot ← passageFrom whole start
  match dropStart? ['.'] dot.text with
  | some text =>
    let name := text.takeWhile isWord
    if name.isEmpty then .ok none
    else
      let afterName ← advance whole start (1 + utf8Length name)
      linkAfterName whole dot.line (String.ofList name) afterName (text.dropWhile isWord)
  | none => .ok none

/-! ## Expressions -/

/-- The argument text of a call, if there is a parenthesis at the cursor. -/
def callArguments (whole : Passage) (cursor : Nat) :
    Checked (Option (Option (List Char) × Nat)) := do
  if (bytesFrom whole cursor).head? = some '('.toUInt8 then
    match ← block '(' ')' whole cursor with
    | some (inner, next) => .ok (some (some inner.text, next))
    | none => .ok none
  else .ok (some (none, cursor))

/-- The expression at a cursor, if it stands for a view. -/
def scan (whole : Passage) (cursor : Nat) : Checked (Option (Scan × Nat)) := do
  let text ← textFrom whole.text cursor
  match splitIdentifier? text with
  | none => .ok none
  | some (name, _) =>
    let afterName ← advance whole cursor (utf8Length name)
    match ← callArguments whole afterName with
    | none => .ok none
    | some (arguments, afterArguments) =>
      let (closures, afterClosures) ← blocks whole afterArguments
      let head : Scan := ⟨String.ofList name, arguments, closures, []⟩
      if namesView head.name head.isCalled then
        let (links, next) ← repeatRounds (utf8Length whole.text) (link whole) afterClosures
        .ok (some ({ head with links }, next))
      else .ok none

/-- Whether everything that is nested in an expression of a passage, from whatever place, is shorter
than the passage. -/
def NestsShorter (whole : Passage) : Prop :=
  ∀ cursor, IsPlace whole.text cursor → ∀ found next, scan whole cursor = .ok (some (found, next)) →
    ∀ text ∈ found.nestedTexts, utf8Length text < utf8Length whole.text

/-- The next statement of a block. -/
def statement (whole : Passage) (cursor : Nat) : Checked (Option (ScannedStatement × Nat)) := do
  let start := skip (';' :: asciiBlanks) whole cursor
  if utf8Length whole.text ≤ start then .ok none
  else
    let place ← passageFrom whole start
    match ← scan whole start with
    | some (scan, next) => .ok (some (⟨place, some scan⟩, next))
    | none => .ok (some (⟨place, none⟩, statementEnd 0 start (bytesFrom whole start)))

/-- The statements of a block. -/
def statements (whole : Passage) : Checked (List ScannedStatement) :=
  (repeatRounds (utf8Length whole.text) (statement whole) 0).map Prod.fst

/-- The first parameter of a closure, if it names any, and its statements as a passage. -/
def splitParameter (inner : Passage) : Checked (Option String × Passage) :=
  match parameter? inner.text with
  | some (name, rest) =>
    (passageFrom inner (matchLength inner.text rest)).map fun body ↦ (some name, body)
  | none => .ok (none, inner)

/-! ## Nested expressions -/

/-- A reading of the expressions that are scanned in texts shorter than a bound. -/
abbrev Shorter (bound : Nat) : Type :=
  (size : Nat) → size < bound → Scan → Checked Expression

/-- An argument and its expression, if there is nothing else in it. -/
def argument {bound : Nat} (read : Shorter bound) (argument : Call.Argument) :
    Checked (Argument Expression) :=
  let text := trim argument.text
  if shorter : utf8Length text < bound then do
    match ← scan ⟨none, text⟩ 0 with
    | none => .ok ⟨argument.label, argument.text, none⟩
    | some (scan, next) =>
      if utf8Length text ≤ skip asciiBlanks ⟨none, text⟩ next then
        let expression ← read (utf8Length text) shorter scan
        .ok ⟨argument.label, argument.text, some expression⟩
      else .ok ⟨argument.label, argument.text, none⟩
  else .error .stuck

/-- The arguments in a text. -/
def arguments {bound : Nat} (read : Shorter bound) (text : List Char) :
    Checked (List (Argument Expression)) :=
  (argumentsOf text).mapM (argument read)

/-- The arguments of a call, which has none without parentheses. -/
def calledArguments {bound : Nat} (read : Shorter bound) :
    Option (List Char) → Checked (List (Argument Expression))
  | none => .ok []
  | some text => arguments read text

/-- A statement and its expression, given a reading of the expressions of its block. -/
def statementOutline (read : Scan → Checked Expression) (statement : ScannedStatement) :
    Checked (Statement Expression) :=
  match statement.scan with
  | none => .ok ⟨statement.start.line, statement.start.text, none⟩
  | some scan => (read scan).map fun expression ↦
      ⟨statement.start.line, statement.start.text, some expression⟩

/-- A closure, its parameter and its statements. -/
def closure {bound : Nat} (read : Shorter bound) (label : Option String) (inner : Passage) :
    Checked (Closure Expression) := do
  let (parameter, body) ← splitParameter inner
  if shorter : utf8Length body.text ≤ utf8Length inner.text ∧ utf8Length inner.text < bound then
    let found ← statements body
    let statements ← found.mapM (statementOutline fun scan ↦
      read (utf8Length body.text) (Nat.lt_of_le_of_lt shorter.1 shorter.2) scan)
    .ok ⟨label, parameter, statements⟩
  else .error .stuck

/-- A link and what is nested in it. -/
def linkOutline {bound : Nat} (read : Shorter bound) : ChainLink → Checked (Link Expression)
  | .unread line name => .ok (.unread line name)
  | .call line name text inner => do
    let arguments ← arguments read text
    let closures ← inner.toList.mapM (closure read none)
    .ok (.call line name ⟨arguments, closures⟩)

/-- The outline of an expression that is scanned in a text of some size. -/
def outline (size : Nat) (scan : Scan) : Checked Expression := do
  let read : Shorter size := fun smaller _ inner ↦ outline smaller inner
  let arguments ← calledArguments read scan.arguments
  let closures ← scan.blocks.mapM fun block ↦ closure read block.label block.inner
  let links ← scan.links.mapM (linkOutline read)
  .ok ⟨scan.name, if scan.isCalled then some ⟨arguments, closures⟩ else none, links⟩
termination_by size

/-- The outline of the expression at a cursor. -/
def expression (whole : Passage) (cursor : Nat) : Checked (Option Expression) := do
  match ← scan whole cursor with
  | none => .ok none
  | some (scan, _) => (outline (utf8Length whole.text) scan).map some

/-! ## Bodies -/

/-- The passage inside a declaration whose brace is at a cursor, and whether it is closed. -/
def declared (source : Passage) (brace : Nat) : Checked (Passage × Bool) := do
  match ← block '{' '}' source brace with
  | some (inner, _) => .ok (inner, true)
  | none => (passageFrom source (brace + 1)).map fun inner ↦ (inner, false)

/-- The passage inside the braces of a body, given the text behind the words that introduce it. -/
def bodyPassage (inner : Passage) (marked : List Char) : Checked (Option Passage) := do
  let after := matchLength inner.text marked
  let text ← textFrom inner.text after
  match splitFirst? '{' text with
  | none => .ok none
  | some (words, _) =>
    let brace ← advance inner after (utf8Length words)
    match ← block '{' '}' inner brace with
    | none => .ok none
    | some (body, _) => .ok (if (trim body.text).isEmpty then none else some body)

/-- The place where the expression of a body starts. -/
def expressionStart (body : Passage) : Checked Nat := do
  let start := skip asciiBlanks body 0
  let text ← textFrom body.text start
  if startsWith "return" text then
    let behind ← textFrom text 6
    if behind.head?.any isBlank then advance body start 6 else .ok start
  else .ok start

/-- The caveats of a declaration, whose brace is the byte before it starts. -/
def declarationCaveats (source : Passage) (start : Nat) (name : String) (closed : Bool) :
    Checked (List Caveat) := do
  if closed then .ok []
  else
    let brace ← subtract start 1
    let place ← passageFrom source brace
    .ok ((Problem.unclosedDeclaration name).caveats place.line)

/-- The body of the first view in a source. -/
def readBody (source : List Char) : Checked (Except Failure (Body Caveat)) := do
  let whole : Passage := ⟨some 1, source⟩
  match findHeader? 0 false source with
  | none => .ok (.error .noViewDeclaration)
  | some header =>
    let brace ← subtract (matchLength source header.rest) 1
    let (inner, closed) ← declared whole brace
    match findBodyMarker? false inner.text with
    | none => .ok (.error (.noBodyProperty header.name))
    | some marked =>
      match ← bodyPassage inner marked with
      | none => .ok (.error (.emptyBody header.name))
      | some body =>
        let caveats ← declarationCaveats whole (brace + 1) header.name closed
        let start ← expressionStart body
        let place ← passageFrom body start
        let expression ← expression body start
        .ok (.ok ⟨caveats, place.text, expression⟩)

end Cursor

end ViewPreview.Passage
