import ViewPreview.Passage.Outline

/-!
# Declarations Found by Their Words

Finding the declaration of a view in a source, and the body in it, by the words they are written
with. A declaration counts when one of the names after its colon is exactly that of the view
protocol.  A declaration whose braces are never closed runs to the end of the source.
-/

namespace ViewPreview.Passage

open ViewPreview.Text ViewPreview.Call ViewPreview.Outline

/-! ## Words -/

/-- The text after a word and at least one blank. -/
def afterWord? (word : String) (text : List Char) : Option (List Char) :=
  match dropStart? word.toList text with
  | some (c :: rest) => if isBlank c then some (trimStart rest) else none
  | _ => none

/-- The text after a mark that may have blanks before and after it. -/
def afterMark? (mark : Char) (text : List Char) : Option (List Char) :=
  match trimStart text with
  | c :: rest => if c = mark then some (trimStart rest) else none
  | [] => none

/-! ## Declarations -/

/-- The start of a declaration: its name, the text between its colon and its opening brace, and the
text after that brace. -/
structure Header where
  name : String
  conformances : List Char
  rest : List Char
deriving Repr

/-- The text after a list of generic parameters, if there is one. -/
def afterGenerics (text : List Char) : List Char :=
  match text with
  | '<' :: parameters =>
    match parameters.dropWhile fun c ↦ c != '>' && c != '{' with
    | '>' :: rest => rest
    | _ => text
  | _ => text

/-- The start of the declaration that a text begins with. -/
def header? (text : List Char) : Option Header := do
  let named ← (afterWord? "struct" text).or (afterWord? "class" text)
  let name := named.takeWhile isWord
  let list ←
    match trimStart (afterGenerics (trimStart (named.dropWhile isWord))) with
    | ':' :: list => some list
    | _ => none
  let conformances := list.takeWhile (· != '{')
  match list.dropWhile (· != '{') with
  | '{' :: rest =>
    if name.isEmpty || conformances.isEmpty then none
    else some ⟨String.ofList name, conformances, rest⟩
  | _ => none

/-- Whether one of the names after the colon is that of the view protocol. -/
def Header.conforms (header : Header) : Bool :=
  ((splitAll ',' header.conformances).map fun name ↦ String.ofList (trim name)).any fun name ↦
    name == "View" || name == "SwiftUI.View"

/-- The start of the first declaration of a view, after `skip` characters that belong to a
declaration already looked at.  Declarations start at a word, so not directly behind a word
character. -/
def findHeader? : (skip : Nat) → (insideWord : Bool) → List Char → Option Header
  | _, _, [] => none
  | skip + 1, _, c :: text => findHeader? skip (isWord c) text
  | 0, insideWord, c :: text =>
    match if insideWord then none else header? (c :: text) with
    | none => findHeader? 0 (isWord c) text
    | some header =>
      if header.conforms then some header
      else findHeader? (text.length - header.rest.length) (isWord c) text

/-- A declaration of a view: its name, the passage between its braces, and whether they are closed.
-/
structure Declaration where
  name : String
  inner : Passage
  closed : Bool
deriving Repr

/-- The first declaration of a view in a source. -/
def declaration? (source : Passage) : Option Declaration :=
  (findHeader? 0 false source.text).map fun header ↦
    let inner := source.moveTo header.rest
    match splitClosing? '{' '}' 0 header.rest with
    | some (text, _) => ⟨header.name, ⟨inner.line, text⟩, true⟩
    | none => ⟨header.name, inner, false⟩

/-! ## Bodies -/

/-- Whether a text begins with the name of the view protocol as a whole word. -/
def startsWithView (text : List Char) : Bool :=
  match dropStart? "View".toList text with
  | some (c :: _) => !isWord c
  | some [] => true
  | none => false

/-- The text after the words that introduce a body. -/
def bodyMarker? (text : List Char) : Option (List Char) := do
  let property ← afterWord? "var" text
  let named ← dropStart? "body".toList property
  let typed ← afterMark? ':' named
  let constrained ← afterWord? "some" typed
  let protocolName := (dropStart? "SwiftUI.".toList constrained).getD constrained
  if startsWithView protocolName then some (protocolName.drop 4) else none

/-- The text after the first words in a text that introduce a body. -/
def findBodyMarker? : (insideWord : Bool) → List Char → Option (List Char)
  | _, [] => none
  | insideWord, c :: text =>
    match if insideWord then none else bodyMarker? (c :: text) with
    | some rest => some rest
    | none => findBodyMarker? (isWord c) text

/-- The passage between the braces of a body, given the text after the words that introduce it. -/
def bodyPassage? (declaration : Passage) (text : List Char) : Option Passage := do
  let (_, rest) ← splitFirst? '{' text
  let (inner, _) ← splitClosing? '{' '}' 0 rest
  if (trim inner).isEmpty then none else some ⟨(declaration.moveTo rest).line, inner⟩

/-- The passage where the expression of a body starts.  A `return` before it is passed over, but not
what separates it from the expression. -/
def expressionStart (body : Passage) : Passage :=
  let start := body.skipBlanks
  match dropStart? "return".toList start.text with
  | some (c :: rest) => if isBlank c then start.moveTo (c :: rest) else start
  | _ => start

/-- The caveats of a declaration as a whole. -/
def Declaration.caveats (declaration : Declaration) : List Caveat :=
  if declaration.closed then []
  else (Problem.unclosedDeclaration declaration.name).caveats declaration.inner.line

/-- The body of the first view in a source, found by matching words and braces. -/
def readBody (source : List Char) : Except Failure (Body Caveat) := do
  let some declaration := declaration? ⟨some 1, source⟩ | throw .noViewDeclaration
  let some marked := findBodyMarker? false declaration.inner.text
    | throw (.noBodyProperty declaration.name)
  let some body := bodyPassage? declaration.inner marked | throw (.emptyBody declaration.name)
  let start := body.expressionStart
  return {
    caveats := declaration.caveats
    text := start.text
    expression := start.expression?.map Prod.fst }

end ViewPreview.Passage
