import ViewPreview.Render.Options
import ViewPreview.Style.Alignment
import ViewPreview.Style.Declarations
import ViewPreview.Style.Palette
import ViewPreview.View.Basic

/-!
# The Style of a Kind

The declarations that a view starts with because of its kind and properties, before any modifier is
considered.
-/

namespace ViewPreview.Style

open InlineStyle (pixels)

/-- Children laid out one after the other. -/
def flexible (direction : String) : List (String × String) :=
  [("display", "flex"), ("flex-direction", direction)]

/-- A stack along one axis: its children are aligned across the axis and separated by a gap. -/
def stack (direction : String) (alignment : Option String) (gap : Float) :
    List (String × String) :=
  flexible direction ++
    [("align-items", (stackPlace alignment).flexible), ("gap", pixels gap)]

/-- A scrolling region along its axis. -/
def scrolling (horizontal : Bool) (gap : Float) : List (String × String) :=
  flexible (if horizontal then "row" else "column") ++
    [(if horizontal then "overflow-x" else "overflow-y", "auto"), ("gap", pixels gap)]

/-- The room a spacer takes up. -/
def spacer (minLength : Option Float) (defaultSpacing : Float) : List (String × String) :=
  ("flex", "1 1 0") ::
    match minLength with
    | some length => [("min-width", pixels length), ("min-height", pixels length)]
    | none => [("min-width", pixels defaultSpacing)]

/-- The outline of a shape. -/
def outline (kind : Kind) (cornerRadius : Option Float) : List (String × String) :=
  match kind with
  | .circle => [("border-radius", "50%"), ("aspect-ratio", "1")]
  | .ellipse => [("border-radius", "50%")]
  | .capsule => [("border-radius", "9999px")]
  | .roundedRectangle => [("border-radius", pixels (cornerRadius.getD 0.0))]
  | _ => []

/-- The declarations of a view that follow from its kind and properties. -/
def kindDeclarations (view : View) (options : RenderOptions) : List (String × String) :=
  let gap := (view.number? "spacing").getD options.defaultSpacing
  let alignment := view.string? "alignment"
  match view.kind with
  | .vStack | .lazyVStack => stack "column" alignment gap
  | .hStack | .lazyHStack | .gridRow => stack "row" alignment gap
  | .grid => flexible "column" ++ [("gap", pixels gap)]
  | .zStack => [("display", "grid"), ("place-items", cellPlace alignment)]
  | .scrollView => scrolling (view.string? "axis" == some "horizontal") gap
  | .spacer => spacer (view.number? "minLength") options.defaultSpacing
  | .group | .forEach =>
    if view.modifiers.isEmpty && (view.property? "placeholder").isNone then
      [("display", "contents")]
    else flexible "column" ++ [("gap", pixels gap)]
  | .text => [("font-size", "17px")]
  | .rectangle | .circle | .roundedRectangle | .capsule | .ellipse =>
    [("background", "#000000"), ("flex", "1 1 auto"), ("align-self", "stretch"),
      ("min-width", pixels 20.0), ("min-height", pixels 20.0)] ++
      outline view.kind (view.number? "cornerRadius")
  | .linearGradient =>
    [("background", linearGradient ((view.list? "colors").getD [])
        (view.string? "startPoint") (view.string? "endPoint")),
      ("flex", "1 1 auto"), ("align-self", "stretch"), ("min-height", pixels 20.0)]
  | .radialGradient =>
    [("background", radialGradient ((view.list? "colors").getD [])),
      ("flex", "1 1 auto"), ("align-self", "stretch"), ("min-height", pixels 20.0)]
  | .geometryReader => flexible "column" ++ [("width", "100%"), ("height", "100%")]
  | _ => []

/-- The style of a view before its modifiers. -/
def kindStyle (view : View) (options : RenderOptions) : InlineStyle :=
  ({} : InlineStyle).pushAll (kindDeclarations view options)

end ViewPreview.Style
