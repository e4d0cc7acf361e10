import ViewPreview.View.Basic

/-!
# Preorder Lookups

Finding the first view with some content in a tree, a view before its children and earlier children
before later ones.  The children are the only views visited; those in properties and modifiers are
not.
-/

namespace ViewPreview

mutual

/-- The first answer of `f` among a view and its descendants, in preorder. -/
def View.findInTree? {α : Type} (f : View → Option α) : View → Option α
  | ⟨kind, properties, modifiers, children⟩ =>
    (f ⟨kind, properties, modifiers, children⟩).or (findInViews? f children)

/-- The first answer of `f` among the trees of a list. -/
def findInViews? {α : Type} (f : View → Option α) : List View → Option α
  | [] => none
  | view :: views => (view.findInTree? f).or (findInViews? f views)

end

namespace View

/-- The text a view shows by itself: its text, else its title. -/
def ownText? (view : View) : Option String :=
  (view.string? "text").or (view.string? "title")

/-- The first text found in a tree. -/
def plainText? (view : View) : Option String :=
  view.findInTree? ownText?

/-- A property as text, whether it was written as a text or as a view. -/
def propertyText? (view : View) (key : String) : Option String :=
  match view.property? key with
  | some (.text value) => some value
  | some (.token value) => some value
  | some (.view inner) => inner.plainText?
  | _ => none

/-- The title that a view gives to the navigation around it, and whether it is shown inline. -/
def ownNavigationTitle? (view : View) : Option (String × Bool) :=
  match view.modifier? "navigationTitle" with
  | some ⟨_, .text title⟩ =>
    some (title, view.modifierToken? "navigationBarTitleDisplayMode" == some "inline")
  | _ => none

/-- The title shown by a navigation view: the first one given by a view inside it. -/
def navigationTitle? (view : View) : Option (String × Bool) :=
  findInViews? ownNavigationTitle? view.children

end View

end ViewPreview
