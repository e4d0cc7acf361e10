import ViewPreview.Outline.Caveat
import ViewPreview.Token.Call

/-!
# Declarations Found by Their Structure

Finding the declaration of a view among the items of a source, and its body among the members of
that declaration.  Structures, classes, enumerations, actors and extensions declare views; the first
in source order counts, an outer one before those inside it.
-/

namespace ViewPreview

open ViewPreview.Outline

/-! ## Declarations -/

/-- A declaration: the items between the word that introduces it and its braces, and those between
its braces. -/
structure TypeDeclaration where
  head : List Item
  members : List Item
deriving Repr

/-- Words that introduce a declaration which may be a view. -/
def declarationWords : List String :=
  ["struct", "class", "enum", "actor", "extension"]

/-- Words that are no names of types, though a word that introduces a type may stand before them. -/
def reservedWords : List String :=
  declarationWords ++ ["func", "init", "let", "subscript", "typealias", "var"]

/-- Split items at the first group in braces. -/
def splitBraces? : List Item → Option (List Item × List Item)
  | [] => none
  | item :: items =>
    match item.itemsIn? "\x7b" with
    | some members => some ([], members)
    | none => (splitBraces? items).map fun split ↦ (item :: split.1, split.2)

/-- The declaration that a list of items begins with. -/
def typeDeclaration? : List Item → Option TypeDeclaration
  | word :: name :: items =>
    match name.word? with
    | some _ =>
      if word.isWordOf declarationWords && !name.isWordOf reservedWords then
        (splitBraces? (name :: items)).map fun split ↦ ⟨split.1, split.2⟩
      else none
    | none => none
  | _ => none

/-- How many more angle brackets are open after an item. -/
def angleDepth (depth : Int) (item : Item) : Int :=
  match item with
  | .single token =>
    if token.kind == .mark && !token.isMark "->" then
      depth + token.text.count '<' - token.text.count '>'
    else depth
  | .group _ _ _ => depth

/-- Split items outside angle brackets at those that satisfy a condition. -/
def splitOutside (separates : Item → Bool) : (depth : Int) → List Item → List (List Item)
  | _, [] => [[]]
  | depth, item :: items =>
    if depth == 0 && separates item then [] :: splitOutside separates depth items
    else
      match splitOutside separates (angleDepth depth item) items with
      | [] => [[item]]
      | first :: others => (item :: first) :: others

namespace TypeDeclaration

/-- The head of a declaration without its `where` clause. -/
def unconstrained (declaration : TypeDeclaration) : List Item :=
  declaration.head.takeWhile fun item ↦ !item.isWord "where"

/-- The parts of the head between colons: the name with its generic parameters, and the types that
the declaration conforms to. -/
def sections (declaration : TypeDeclaration) : List (List Item) :=
  splitOutside (fun item ↦ item.isMark ":") 0 declaration.unconstrained

/-- The name of a declaration.  An extension is named by the type it extends. -/
def name (declaration : TypeDeclaration) (isExtension : Bool) : String :=
  let first := declaration.sections.headD []
  String.ofList (Item.textOf (if isExtension then first else first.take 1))

/-- The types that a declaration conforms to. -/
def conformances (declaration : TypeDeclaration) : List (List Char) :=
  match declaration.sections with
  | _ :: list :: _ =>
    (splitOutside (fun item ↦ item.isMark "," || item.isMark "&") 0 list).map fun entry ↦
      (Item.textOf (dropAttributes entry)).filter fun c ↦ !Text.isBlank c
  | _ => []

/-- Whether a declaration conforms to the view protocol. -/
def isView (declaration : TypeDeclaration) : Bool :=
  declaration.conformances.any fun name ↦ name == "View".toList || name == "SwiftUI.View".toList

end TypeDeclaration

/-- A declaration of a view: its name and its members. -/
structure ViewDeclaration where
  name : String
  members : List Item
deriving Repr

/-- The declaration of a view that a list of items begins with. -/
def viewDeclaration? (items : List Item) : Option ViewDeclaration :=
  (typeDeclaration? items).bind fun declaration ↦
    if declaration.isView then
      let isExtension := (items.head?.map fun word ↦ word.isWord "extension").getD false
      some ⟨declaration.name isExtension, declaration.members⟩
    else none

mutual

/-- The first declaration of a view inside an item. -/
def Item.findView? : Item → Option ViewDeclaration
  | .single _ => none
  | .group _ items _ => findView? false items

/-- The first declaration of a view in a list of items.  A word behind a dot is a name. -/
def findView? (behindDot : Bool) : List Item → Option ViewDeclaration
  | [] => none
  | item :: items =>
    (if behindDot then none else viewDeclaration? (item :: items)).or
      (item.findView?.or (findView? (item.isMark ".") items))

end

/-! ## Bodies -/

/-- The bindings of a property declaration: its items behind `var` or `let`, between commas. -/
def bindings (member : List Item) : List (List Item) :=
  match dropModifiers (dropAttributes member) with
  | word :: items => if word.isWordOf ["var", "let"] then splitCommas id items else []
  | [] => []

/-- Whether a binding is named `body`. -/
def bindsBody (binding : List Item) : Bool :=
  (binding.head?.map fun item ↦ item.isWord "body").getD false

/-- Whether the items between the braces of a property only observe its changes. -/
def observesChanges (items : List Item) : Bool :=
  (items.head?.map fun item ↦ item.isWordOf ["didSet", "willSet"]).getD false

/-- The items between the braces of a computed property. -/
def computedItems? (binding : List Item) : Option (List Item) :=
  ((binding.takeWhile fun item ↦ !item.isMark "=").findSome? fun item ↦ item.itemsIn? "\x7b").filter
    fun items ↦ !observesChanges items

/-- Whether the items between the braces of a property are accessors. -/
def holdsAccessors (items : List Item) : Bool :=
  ((dropModifiers (dropAttributes items)).head?.map fun word ↦ word.isWordOf accessorWords).getD
    false

/-- The items between the braces of the getter among some accessors.  `inGetter` tells whether the
word that introduces it comes before the given items. -/
def getterItems : (inGetter : Bool) → List Item → List Item
  | _, [] => []
  | inGetter, item :: items =>
    match item.itemsIn? "\x7b" with
    | some inner => if inGetter && !inner.isEmpty then inner else getterItems false items
    | none =>
      getterItems (if item.isWordOf accessorWords then item.isWord "get" else inGetter) items

/-- The items of a getter: those of its own block, or those of the whole property. -/
def getterBody (items : List Item) : List Item :=
  if holdsAccessors items then getterItems false items else items

/-- The body of the first view in a source, found by its structure. -/
def readStructure (source : List Char) : Except Failure (Body Caveat) := do
  let (items, unbalanced) := itemsOf source
  let some declaration := findView? false items | throw .noViewDeclaration
  let members := (statementsOf .members id declaration.members).map bindings
  let some property := members.find? fun binding ↦ binding.any bindsBody
    | throw (.noBodyProperty declaration.name)
  let some computed := property.findSome? computedItems? | throw (.emptyBody declaration.name)
  let parts := partsOf (getterBody computed)
  let statements := statementsOf .block Part.item parts
  let some first := statements.head? | throw (.emptyBody declaration.name)
  let malformed :=
    unbalanced || parts.any Part.malformed || statements.any holdsJoined
  let statement := ViewPreview.statementOutline first
  return {
    caveats := if malformed then [⟨none, .syntaxErrors⟩] else []
    text := statement.text
    expression := statement.expression }

end ViewPreview
