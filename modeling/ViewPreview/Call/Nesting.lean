import ViewPreview.Call.Literal

/-!
# Nesting in Argument Text

Splitting a text where it is not nested in brackets or strings, finding the text between a bracket
and the one that closes it, and reading array literals.  Splitting knows about strings; matching a
single pair of brackets counts every bracket of that pair, wherever it stands.
-/

namespace ViewPreview.Call

open ViewPreview.Text

/-- Whether a place in a text lies outside strings, inside one, or directly after a backslash inside
one. -/
inductive Quoting where
  | outside
  | inside
  | escaped
deriving Repr, DecidableEq

/-- A place in a text: its position relative to strings, and how many more brackets have been opened
than closed before it. -/
structure Place where
  quoting : Quoting := .outside
  depth : Int := 0
deriving Repr, DecidableEq

namespace Place

/-- A place after one more character. -/
def after (place : Place) (c : Char) : Place :=
  match place.quoting with
  | .escaped => { place with quoting := .inside }
  | .inside =>
    if c = '\\' then { place with quoting := .escaped }
    else if c = '"' then { place with quoting := .outside }
    else place
  | .outside =>
    if c = '"' then { place with quoting := .inside }
    else if c = '(' || c = '[' || c = '{' then { place with depth := place.depth + 1 }
    else if c = ')' || c = ']' || c = '}' then { place with depth := place.depth - 1 }
    else place

/-- Whether a place is nested in neither a string nor brackets. -/
def isTop (place : Place) : Bool :=
  place.quoting == .outside && place.depth == 0

end Place

/-- Whether a character opens or closes a string or a bracket, and so never separates. -/
def isDelimiter (c : Char) : Bool :=
  c == '"' || c == '(' || c == '[' || c == '{' || c == ')' || c == ']' || c == '}'

/-- The parts of a text between separators that are not nested, starting at a given place. -/
def splitFrom (separator : Char) : Place → List Char → List (List Char)
  | _, [] => [[]]
  | place, c :: text =>
    if place.isTop && c == separator && !isDelimiter c then [] :: splitFrom separator place text
    else match splitFrom separator (place.after c) text with
      | [] => [[c]]
      | part :: parts => (c :: part) :: parts

/-- The parts of a text between separators that are nested in neither a string nor brackets. -/
def splitTopLevel (separator : Char) (text : List Char) : List (List Char) :=
  splitFrom separator {} text

/-- Split a text at the bracket that closes one already opened: what stands before and after it.
There are `depth` more brackets to close first. -/
def splitClosing? (opening closing : Char) :
    (depth : Nat) → List Char → Option (List Char × List Char)
  | _, [] => none
  | depth, c :: text =>
    if c = opening then
      (splitClosing? opening closing (depth + 1) text).map (Prod.map (List.cons c) id)
    else if c = closing then
      match depth with
      | 0 => some ([], text)
      | depth + 1 => (splitClosing? opening closing depth text).map (Prod.map (List.cons c) id)
    else (splitClosing? opening closing depth text).map (Prod.map (List.cons c) id)

/-- The text between the first opening bracket and the one that closes it. -/
def between? (opening closing : Char) (text : List Char) : Option (List Char) :=
  ((splitFirst? opening text).bind fun parts ↦ splitClosing? opening closing 0 parts.2).map
    Prod.fst

/-- The text between the first parenthesis and the one that closes it. -/
def callInner? (text : List Char) : Option (List Char) :=
  between? '(' ')' text

/-- An element of an array literal: the content of a string, or the name of an enumeration case. -/
def item? (element : List Char) : Option String :=
  if isQuoted element then stringLiteral? element else token? element

/-- The elements of an array literal, given the text between its brackets.  Elements that are
neither strings nor names are left out. -/
def elementItems (inner : List Char) : List String :=
  (((splitTopLevel ',' inner).map trim).filter fun element ↦ !element.isEmpty).filterMap item?

/-- The elements of a text that is an array literal. -/
def listItems? (text : List Char) : Option (List String) :=
  ((dropStart? ['['] (trim text)).bind (dropFinish? [']'])).map elementItems

/-- The elements of the first array literal inside a text. -/
def firstList? (text : List Char) : Option (List String) :=
  (between? '[' ']' text).map elementItems

end ViewPreview.Call
