import ViewPreview.Token.Lexer

/-!
# Items

The tokens of a source with those between a pair of brackets grouped.  A closing bracket without an
opening one is left out, and one that closes an outer group closes the groups inside it as well;
either makes the source malformed, and so does a group that is never closed.
-/

namespace ViewPreview

/-- A token, or a group of items between brackets. -/
inductive Item where
  | single (token : Token)
  | group (opening : Token) (items : List Item) (closing : Option Token)
deriving Repr

namespace Item

/-- The first token of an item. -/
def first : Item → Token
  | .single token => token
  | .group opening _ _ => opening

mutual

/-- An item's text with the gap before it. -/
def written : Item → List Char
  | .single token => token.written
  | .group opening items closing =>
    opening.written ++ writtenAll items ++ (closing.map Token.written).getD []

/-- The text of successive items with the gap before them. -/
def writtenAll : List Item → List Char
  | [] => []
  | item :: items => written item ++ writtenAll items

end

/-- The text of successive items from their first token on. -/
def textOf (items : List Item) : List Char :=
  match items with
  | [] => []
  | item :: _ => (writtenAll items).drop item.first.gap.length

/-- Whether an item is a given word. -/
def isWord (item : Item) (word : String) : Bool :=
  match item with
  | .single token => token.isWord word
  | .group _ _ _ => false

/-- Whether an item is one of the given words. -/
def isWordOf (item : Item) (words : List String) : Bool :=
  words.any item.isWord

/-- Whether an item is a given mark. -/
def isMark (item : Item) (mark : String) : Bool :=
  match item with
  | .single token => token.isMark mark
  | .group _ _ _ => false

/-- The text of an item that is a word. -/
def word? : Item → Option (List Char)
  | .single token => if token.kind == .word then some token.text else none
  | .group _ _ _ => none

/-- The items of a group that opens with a given bracket. -/
def itemsIn? (item : Item) (bracket : String) : Option (List Item) :=
  match item with
  | .single _ => none
  | .group opening items _ => if opening.isMark bracket then some items else none

/-- Whether an item is a group. -/
def isGrouped : Item → Bool
  | .single _ => false
  | .group _ _ _ => true

/-- Whether an item is a group that opens with a given bracket. -/
def isGroup (item : Item) (bracket : String) : Bool :=
  (item.itemsIn? bracket).isSome

end Item

/-! ## Grouping -/

/-- The bracket that closes a group, given the one that opens it. -/
def closingBracket? (opening : Token) : Option String :=
  if opening.isMark "(" then some ")"
  else if opening.isMark "[" then some "]"
  else if opening.isMark "\x7b" then some "\x7d"
  else none

/-- Whether a token closes a group with the given opening bracket. -/
def Token.closes (token opening : Token) : Bool :=
  match closingBracket? opening with
  | some mark => token.isMark mark
  | none => false

/-- A group that is still open: its opening bracket, and the items before it, the last one first. -/
structure OpenGroup where
  opening : Token
  before : List Item
deriving Repr

/-- The state of grouping: the groups still open from the inside out, the items of the innermost
one, the last one first, and whether the source is malformed so far. -/
structure Grouping where
  openGroups : List OpenGroup := []
  items : List Item := []
  malformed : Bool := false
deriving Repr

namespace Grouping

/-- Close groups up to the first one that a token closes. -/
def closeWith (token : Token) : List OpenGroup → List Item → List OpenGroup × List Item
  | [], items => ([], items)
  | group :: outer, items =>
    if token.closes group.opening then
      (outer, .group group.opening items.reverse (some token) :: group.before)
    else closeWith token outer (.group group.opening items.reverse none :: group.before)

/-- Close all groups. -/
def closeAll : List OpenGroup → List Item → List Item
  | [], items => items
  | group :: outer, items =>
    closeAll outer (.group group.opening items.reverse none :: group.before)

/-- The state after one more token. -/
def add (grouping : Grouping) (token : Token) : Grouping :=
  if (closingBracket? token).isSome then
    { grouping with openGroups := ⟨token, grouping.items⟩ :: grouping.openGroups, items := [] }
  else if token.isClosing then
    match grouping.openGroups.findIdx? fun group ↦ token.closes group.opening with
    | none => { grouping with malformed := true }
    | some inner =>
      let (openGroups, items) := closeWith token grouping.openGroups grouping.items
      { openGroups, items, malformed := grouping.malformed || inner != 0 }
  else { grouping with items := .single token :: grouping.items }

end Grouping

/-- The items of a source, and whether its brackets are unbalanced. -/
def itemsOf (source : List Char) : List Item × Bool :=
  let grouping := (tokens source).foldl Grouping.add {}
  ((Grouping.closeAll grouping.openGroups grouping.items).reverse,
    grouping.malformed || !grouping.openGroups.isEmpty)

end ViewPreview
