import ViewPreview.Html.Basic
import ViewPreview.Style.ModifierStyle

/-!
# Attributes of a View's Tag

Every view opens with a class named for its kind, its inline style when there is one, and what its
accessibility modifiers say.
-/

namespace ViewPreview.Render

open ViewPreview.Html (Attribute)
open ViewPreview.Style (viewStyle isOn)

/-- The class of a kind. -/
def className (kind : Kind) : String :=
  "sv-" ++ Text.lower kind.name

/-- The attribute that an accessibility or help modifier sets. -/
def accessibilityAttribute? (name : String) : Option String :=
  match name with
  | "accessibilityLabel" => some "aria-label"
  | "accessibilityHint" => some "aria-description"
  | "accessibilityValue" => some "aria-valuetext"
  | "help" => some "title"
  | _ => none

/-- The attribute that a modifier sets on the tag of its view. -/
def modifierAttribute? (modifier : Modifier View) : Option Attribute :=
  match modifier.arguments with
  | .text text => (accessibilityAttribute? modifier.name).map fun name ↦ .text name text
  | _ => none

/-- Whether the last `hidden` modifier of a view is switched on. -/
def isHidden (view : View) : Bool :=
  (view.modifier? "hidden").any fun modifier ↦ isOn modifier.arguments

/-- The attributes set by the accessibility modifiers of a view. -/
def accessibilityAttributes (view : View) : List Attribute :=
  view.modifiers.filterMap modifierAttribute? ++
    if isHidden view then [.verbatim "aria-hidden" "true"] else []

/-- The style attribute of a view, absent when the style says nothing. -/
def styleAttributes (view : View) (options : RenderOptions) : List Attribute :=
  let style := (viewStyle view options).text
  if style.isEmpty then [] else [.text "style" style]

/-- The attributes that a view's tag opens with; `extraClass` is a second class unless it is empty.
-/
def openingAttributes (view : View) (options : RenderOptions) (extraClass : String) :
    List Attribute :=
  let classes :=
    if extraClass.isEmpty then className view.kind else className view.kind ++ " " ++ extraClass
  .verbatim "class" classes :: (styleAttributes view options ++ accessibilityAttributes view)

end ViewPreview.Render
