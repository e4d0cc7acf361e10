import ViewPreview.Token.Chain
import ViewPreview.Token.Stage

/-!
# Statements

Cutting the items of a block, or of a type, into statements.  Statements are separated by
semicolons, and by the end of a line where the statement could end and what follows does not go on
with it.  Between the members of a type a block comment separates like the end of a line.
-/

namespace ViewPreview

/-! ## Attributes -/

/-- The items after the members of an attribute's name and its arguments. -/
def afterAttributeName : List Item → List Item
  | dot :: name :: items =>
    if dot.isMark "." && name.word?.isSome then afterAttributeName items
    else if dot.isGroup "(" && dot.first.isAttached then name :: items
    else dot :: name :: items
  | [item] => if item.isGroup "(" && item.first.isAttached then [] else [item]
  | [] => []

theorem length_afterAttributeName_le (items : List Item) :
    (afterAttributeName items).length ≤ items.length := by
  fun_induction afterAttributeName items with
  | case1 dot name items isMember ih => simp only [List.length_cons]; omega
  | case2 => simp
  | case3 => simp
  | case4 => simp
  | case5 => simp
  | case6 => simp

/-- The items after the attributes that a list of items begins with. -/
def dropAttributes (items : List Item) : List Item :=
  match items with
  | mark :: name :: rest =>
    if mark.isMark "@" && name.word?.isSome then dropAttributes (afterAttributeName rest)
    else items
  | _ => items
termination_by items.length
decreasing_by
  have := length_afterAttributeName_le rest
  simp only [List.length_cons]
  omega

/-- Whether an item is a word that may stand before a declaration. -/
def isModifier (item : Item) : Bool :=
  item.isWordOf ("class" :: modifierWords)

/-- The items after the modifiers, each with its argument, that a list of items begins with. -/
def dropModifiers : List Item → List Item
  | [] => []
  | [item] => if isModifier item then [] else [item]
  | item :: next :: items =>
    if isModifier item then
      if next.isGroup "(" then dropModifiers items else dropModifiers (next :: items)
    else item :: next :: items

/-! ## Separation -/

/-- Whether the gap before an item may separate statements. -/
def Item.isSeparated (surroundings : Surroundings) (item : Item) : Bool :=
  item.first.startsLine || (surroundings == .members && item.first.followsComment)

/-- Whether a statement at a given stage ends before an item, given the item after it.  The label of
a statement ends before that statement. -/
def endsBefore (surroundings : Surroundings) (stage : Stage) (item : Item) (next : Option Item) :
    Bool :=
  (stage == .labeled && item.isWordOf labeledWords) ||
    (item.isSeparated surroundings && stage.mayEnd && !stage.isContinuedBy item next)

/-- The statements in a list of items with something attached to them, the first of which has begun
with `current` and come to the given progress. -/
def separate {α : Type} (surroundings : Surroundings) (item : α → Item) (progress : Progress)
    (current : List α) : List α → List (List α)
  | [] => [current]
  | part :: parts =>
    let next := parts.head?.map item
    if (item part).isMark ";" then current :: separate surroundings item {} [] parts
    else if endsBefore surroundings progress.stage (item part) next then
      current ::
        separate surroundings item (Progress.after surroundings {} (item part) next) [part] parts
    else
      separate surroundings item (progress.after surroundings (item part) next)
        (current ++ [part]) parts

/-- The statements in a list of items with something attached to them. -/
def statementsOf {α : Type} (surroundings : Surroundings) (item : α → Item) (parts : List α) :
    List (List α) :=
  (separate surroundings item {} [] parts).filter fun statement ↦ !statement.isEmpty

end ViewPreview
