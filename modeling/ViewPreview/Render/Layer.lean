import ViewPreview.Html.Basic
import ViewPreview.Style.Alignment
import ViewPreview.Style.Palette
import ViewPreview.View.Weight

/-!
# Layers Around a View

Some modifiers do not only change the style of a view but wrap its markup: overlays and backgrounds
stack a layer on the same grid cell, a badge adds a mark in a corner, and a search field stands
above. The wrappings are applied in chain order, each around what the earlier ones made.
-/

namespace ViewPreview.Render

open ViewPreview.Html (Node Attribute)
open ViewPreview.Style (cellPlace paint)

/-- A way to render the views inside a view. -/
abbrev Within (view : View) : Type :=
  (inner : View) → inner.weight < view.weight → Node

/-- The grid that stacks layers. -/
def grid (layers : List Node) : Node :=
  .element "div"
    [.verbatim "class" "sv-layered",
      .verbatim "style" "display: grid; position: relative; isolation: isolate"]
    layers

/-- The layer that holds the view itself. -/
def baseLayer (base : Node) : Node :=
  .element "div" [.verbatim "class" "sv-layer-base", .verbatim "style" "grid-area: 1 / 1"] [base]

/-- A layer drawn above a view; it does not take part in pointer events. -/
def above (base layer : Node) (alignment : Option String) : Node :=
  grid [baseLayer base,
    .element "div"
      [.verbatim "class" "sv-overlay",
        .verbatim "style"
          ("grid-area: 1 / 1; place-self: " ++ cellPlace alignment ++ "; pointer-events: none")]
      [layer]]

/-- A layer drawn below a view. -/
def below (base layer : Node) (alignment : Option String) : Node :=
  grid [
    .element "div"
      [.verbatim "class" "sv-underlay",
        .verbatim "style"
          ("grid-area: 1 / 1; place-self: " ++ cellPlace alignment ++ "; z-index: -1")]
      [layer],
    baseLayer base]

/-- A layer that is nothing but a paint. -/
def fill (value : Paint) : Node :=
  .element "div"
    [.verbatim "class" "sv-fill",
      .verbatim "style" ("width: 100%; height: 100%; background: " ++ paint value)]
    []

/-- The text of a badge: a text that is not empty, or a number that is not zero. -/
def badgeText? : ModifierArguments View → Option String
  | .text text => if text.isEmpty then none else some text
  | .number value => if value == 0.0 then none else some (Number.styleText value)
  | _ => none

/-- The mark that shows the text of a badge. -/
def badge (text : String) : Node :=
  .classed "span" "sv-badge" [.text text]

/-- Wrap the markup of a view as one of its modifiers asks. -/
def wrapOne (view : View) (render : Within view) (markup : Node) :
    (modifier : Modifier View) → modifier ∈ view.modifiers → Node
  | ⟨"overlay", .content content⟩, member =>
    above markup (render content.view (View.weight_lt_of_mem_modifiers member)) content.alignment
  | ⟨"overlay", .paint value⟩, _ => above markup (fill value) none
  | ⟨"background", .content content⟩, member =>
    below markup (render content.view (View.weight_lt_of_mem_modifiers member)) content.alignment
  | ⟨"badge", arguments⟩, _ =>
    match badgeText? arguments with
    | some text => .classed "div" "sv-badged" [markup, badge text]
    | none => markup
  | ⟨"searchable", .flag true⟩, _ =>
    .classed "div" "sv-searchable"
      [.void "input" [.verbatim "type" "search", .verbatim "class" "sv-search",
        .verbatim "placeholder" "Search"], markup]
  | _, _ => markup

/-- Wrap the markup of a view as all of its modifiers ask. -/
def wrap (view : View) (render : Within view) (markup : Node) : Node :=
  view.modifiers.attach.foldl (fun wrapped modifier ↦
    wrapOne view render wrapped modifier.1 modifier.2) markup

end ViewPreview.Render
