import ViewPreview.Call.Argument
import ViewPreview.Token.Statement

/-!
# Calls Made by Groups

What a group in brackets means behind a name.  Parentheses and brackets hold arguments, of which
those that are closures count as closures too; braces hold a closure.  A closure begins with its
attributes, captures and parameters if the word `in` follows them.

Groups are read from the inside out, so that a group's own items are already read when its meaning
is found.
-/

namespace ViewPreview

open ViewPreview.Outline

/-! ## Statements -/

/-- Words that go on with an expression on the same line, or with the declaration that it begins. -/
def followingWords : List String :=
  ["as", "async", "catch", "else", "in", "is", "rethrows", "throws", "where"]

/-- Words that introduce the accessors of a property. -/
def accessorWords : List String :=
  ["_modify", "didSet", "get", "set", "willSet"]

/-- Whether the word of an expression begins something other than an expression. -/
def isDeclarator (name : String) : Bool :=
  (accessorWords ++ modifierWords).contains name

/-- Whether an expression that could be a statement of its own is followed on its line by the start
of another one.  `leading` are the parts of the expression, and `rest` are those after it. -/
def isJoined (expression : Expression) (leading rest : List Part) : Bool :=
  let called := expression.call.isSome || !expression.links.isEmpty
  let progress := Progress.afterAll .block {} (leading.map Part.item)
  match rest with
  | ⟨.single token, _, _⟩ :: _ =>
    called && progress.stage == .value && !isDeclarator expression.name && token.kind != .mark &&
      !token.isWordOf followingWords
  | _ => false

/-- The parts of a statement before another one that begins on the same line without a separator. -/
def beforeJoined (parts : List Part) : List Part :=
  match leadingExpression? parts with
  | some (expression, rest) =>
    let leading := parts.take (parts.length - rest.length)
    if isJoined expression leading rest then leading else parts
  | none => parts

/-- The expression of a statement, behind a word that leaves the block with it. -/
def statementExpression? (parts : List Part) : Option Expression :=
  match parts with
  | word :: part :: rest =>
    if word.item.isWordOf transferWords && !part.item.first.startsLine then
      wholeExpression? (part :: rest)
    else wholeExpression? parts
  | _ => wholeExpression? parts

/-- A statement as an outline. -/
def statementOutline (parts : List Part) : Outline.Statement Expression :=
  let kept := beforeJoined parts
  { line := Part.lineOf? kept
    text := Part.textOf kept
    expression := statementExpression? kept }

/-- Whether a statement holds another one that begins on the same line without a separator. -/
def holdsJoined (parts : List Part) : Bool :=
  (beforeJoined parts).length < parts.length

/-! ## Closures -/

/-- Whether the parameters of a closure cannot go on over an item. -/
def endsSignature (item : Item) : Bool :=
  item.isWord "for" || item.isGroup "\x7b"

/-- The number of parts before the word `in`, if it follows parameters.  A word behind a dot is a
name. -/
def signatureLength? : (behindDot : Bool) → List Part → Option Nat
  | _, [] => none
  | true, _ :: parts => (signatureLength? false parts).map (· + 1)
  | false, part :: parts =>
    if part.item.isWord "in" then some 0
    else if endsSignature part.item then none
    else (signatureLength? (part.item.isMark ".") parts).map (· + 1)

/-- The items after a list of captures. -/
def dropCaptures (items : List Item) : List Item :=
  match items with
  | item :: rest => if item.isGroup "[" then rest else items
  | [] => []

/-- The first parameter that a closure's signature names. -/
def parameterOf? (signature : List Item) : Option String :=
  let text := Item.textOf (dropCaptures (dropAttributes signature))
  Call.leadingIdentifier? (text.dropWhile fun c ↦ c == '(' || c == ' ')

/-- The parameters and the statements of a closure.  The parameters end within what would be its
first statement. -/
def splitClosure (parts : List Part) : List Part × List Part :=
  match signatureLength? false ((statementsOf .block Part.item parts).headD []) with
  | some length => (parts.take length, parts.drop (length + 1))
  | none => ([], parts)

/-- The closure between two braces. -/
def closureOutline (parts : List Part) : Outline.Closure Expression :=
  let (signature, body) := splitClosure parts
  { label := none
    parameter := parameterOf? (signature.map Part.item)
    statements := (statementsOf .block Part.item body).map statementOutline }

/-! ## Arguments -/

/-- The parts of a list between commas. -/
def splitCommas {α : Type} (item : α → Item) : List α → List (List α)
  | [] => [[]]
  | part :: parts =>
    if (item part).isMark "," then [] :: splitCommas item parts
    else
      match splitCommas item parts with
      | [] => [[part]]
      | first :: others => (part :: first) :: others

/-- The value of an argument, behind its label. -/
def argumentValue (parts : List Part) : List Part :=
  match parts with
  | label :: colon :: value =>
    if label.item.word?.isSome && colon.item.isMark ":" then value else parts
  | _ => parts

/-- An argument, and its closure if it is one. -/
def argumentOutline (parts : List Part) :
    Outline.Argument Expression × Option (Outline.Closure Expression) :=
  let written := Call.Argument.ofText (Part.textOf parts)
  let value := argumentValue parts
  let closure? :=
    match value with
    | [part] => if part.item.isGroup "\x7b" then part.call.closures.head? else none
    | _ => none
  (⟨written.label, written.text, wholeExpression? value⟩,
    closure?.map fun closure ↦ { closure with label := written.label })

/-- The call that a list of arguments makes. -/
def argumentsCall (parts : List Part) : Outline.Call Expression :=
  let arguments := ((splitCommas Part.item parts).filter fun part ↦ !part.isEmpty).map
    ViewPreview.argumentOutline
  ⟨arguments.map Prod.fst, arguments.filterMap Prod.snd⟩

/-! ## Groups -/

/-- A group as a part, given the parts inside it. -/
def groupPart (opening : Token) (items : List Item) (closing : Option Token)
    (parts : List Part) : Part :=
  let malformed := parts.any Part.malformed
  if opening.isMark "\x7b" then
    let statements := statementsOf .block Part.item (splitClosure parts).2
    { item := .group opening items closing
      call := { closures := [closureOutline parts] }
      malformed := malformed || statements.any holdsJoined }
  else { item := .group opening items closing, call := argumentsCall parts, malformed }

mutual

/-- An item as a part. -/
def Item.part : Item → Part
  | .single token => ⟨.single token, {}, false⟩
  | .group opening items closing => groupPart opening items closing (partsOf items)

/-- The parts of a list of items. -/
def partsOf : List Item → List Part
  | [] => []
  | item :: items => item.part :: partsOf items

end

end ViewPreview
