/-!
# HTML Trees

Markup is built as a tree and becomes text in one place.  Text is escaped when it is written.  The
value of an attribute is kept as it stands between its quotes: `Attribute.text` escapes a text for
that place, and `Attribute.verbatim` takes a value that is known to need no escaping.
-/

namespace ViewPreview.Html

/-- A character as it is written in text and in quoted attribute values. -/
def escapeChar : Char → List Char
  | '&' => "&amp;".toList
  | '<' => "&lt;".toList
  | '>' => "&gt;".toList
  | '"' => "&quot;".toList
  | c => [c]

/-- A text as it is written between tags and in quoted attribute values. -/
def escape (text : String) : String :=
  String.ofList (text.toList.flatMap escapeChar)

/-- An attribute of a tag.  An attribute without a value is written as its name alone. -/
structure Attribute where
  name : String
  value : Option String
deriving Repr, DecidableEq

namespace Attribute

/-- An attribute whose value is a text. -/
def text (name value : String) : Attribute :=
  ⟨name, some (escape value)⟩

/-- An attribute whose value is written as it stands. -/
def verbatim (name value : String) : Attribute :=
  ⟨name, some value⟩

/-- An attribute without a value. -/
def flag (name : String) : Attribute :=
  ⟨name, none⟩

/-- An attribute as it is written in a tag, with the space before it. -/
def write (written : Attribute) : String :=
  match written.value with
  | some value => " " ++ written.name ++ "=\"" ++ value ++ "\""
  | none => " " ++ written.name

end Attribute

/-- A list of attributes as it is written in a tag. -/
def writeAttributes (attributes : List Attribute) : String :=
  String.join (attributes.map Attribute.write)

/-- A piece of markup: a text, an element with its contents, or an element that has no contents and
no closing tag. -/
inductive Node where
  | text (content : String)
  | element (tag : String) (attributes : List Attribute) (children : List Node)
  | void (tag : String) (attributes : List Attribute)
deriving Repr

mutual

/-- The text of a piece of markup. -/
def Node.write : Node → String
  | .text content => escape content
  | .element tag attributes children =>
    "<" ++ tag ++ writeAttributes attributes ++ ">" ++ writeNodes children ++ "</" ++ tag ++ ">"
  | .void tag attributes => "<" ++ tag ++ writeAttributes attributes ++ ">"

/-- The text of pieces of markup, one after the other. -/
def writeNodes : List Node → String
  | [] => ""
  | node :: nodes => node.write ++ writeNodes nodes

end

/-- An element whose only attribute is its class. -/
def Node.classed (tag className : String) (children : List Node) : Node :=
  .element tag [.verbatim "class" className] children

end ViewPreview.Html
