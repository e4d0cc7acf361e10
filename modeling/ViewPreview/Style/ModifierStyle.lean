import ViewPreview.Html.Basic
import ViewPreview.Style.KindStyle
import ViewPreview.Style.Typography

/-!
# The Style of Modifiers

Each modifier contributes a group of declarations, or a filter, depending on its name and on the
category of its arguments; arguments of a category that a name has no use for contribute nothing.
The contributions follow each other in chain order, so that a later modifier takes precedence.
-/

namespace ViewPreview.Style

open InlineStyle (pixels)
open ViewPreview.Number (styleText)
open ViewPreview.Text (startsWith)

/-- Whether a modifier is switched on: all are, but those that carry the flag `false`. -/
def isOn : ModifierArguments View → Bool
  | .flag value => value
  | _ => true

/-- Declarations that hold while a modifier is switched on. -/
def whenOn (arguments : ModifierArguments View) (declarations : List (String × String)) :
    List (String × String) :=
  if isOn arguments then declarations else []

/-- The properties that pad an edge. -/
def paddingProperties : Edge → List String
  | .all => ["padding"]
  | .top => ["padding-top"]
  | .bottom => ["padding-bottom"]
  | .leading => ["padding-left"]
  | .trailing => ["padding-right"]
  | .horizontal => ["padding-left", "padding-right"]
  | .vertical => ["padding-top", "padding-bottom"]

/-- Padding on the given edges. -/
def paddingDeclarations (padding : Padding) (options : RenderOptions) :
    List (String × String) :=
  (padding.edges.flatMap paddingProperties).map fun property ↦
    (property, pixels (padding.amount.getD options.defaultPadding))

/-- A color for the content of a view.  Shapes are filled; a gradient colors text by showing through
it. -/
def foreground (kind : Kind) (value : Paint) : List (String × String) :=
  if kind.isShape then [("background", paint value)]
  else match value with
    | .linearGradient .. | .radialGradient .. =>
      [("background", paint value), ("-webkit-background-clip", "text"),
        ("background-clip", "text"), ("color", "transparent")]
    | _ => [("color", paint value)]

/-- A paint behind a view; a material also blurs what is behind it. -/
def background (value : Paint) : List (String × String) :=
  ("background", paint value) ::
    match value with
    | .material name =>
      let blur := "blur(" ++ natText (material name).2 ++ "px)"
      [("backdrop-filter", blur), ("-webkit-backdrop-filter", blur)]
    | _ => []

/-- A line around a view, one pixel wide and in the current color unless stated otherwise. -/
def line (stroke : Stroke) : String × String :=
  ("border", styleText (stroke.width.getD 1.0) ++ "px solid " ++
    (stroke.paint.map paint).getD "currentColor")

/-- The families of a font: the named one without its quotes, then a generic one. -/
def familyText (family : String) : String :=
  "'" ++ String.ofList ((Html.escape family).toList.filter (· != '\'')) ++ "', sans-serif"

/-- What a font declares; explicit attributes come after those of its text style. -/
def fontDeclarations (font : Font) : List (String × String) :=
  (match font.style with
    | some style =>
      [("font-size", pixels (textStyle style).1), ("font-weight", natText (textStyle style).2)]
    | none => []) ++
  (font.size.map fun size ↦ ("font-size", pixels size)).toList ++
  (font.weight.map fun weight ↦ ("font-weight", natText (fontWeight weight))).toList ++
  (font.design.map fun design ↦ ("font-family", fontDesign design)).toList ++
  (font.family.map fun family ↦ ("font-family", familyText family)).toList

/-- One dimension of a frame.  An infinite one fills the dimension `fill`, and an infinite maximum
is no maximum. -/
def dimensionDeclarations (property fill : String) :
    Option Dimension → List (String × String)
  | some (.fixed length) => [(property, pixels length)]
  | some .infinity =>
    (fill, "100%") ::
      if startsWith "max" property.toList then [(property, "none")] else []
  | none => []

/-- Whether a dimension is a fixed length. -/
def isFixed : Option Dimension → Bool
  | some (.fixed _) => true
  | _ => false

/-- What a frame declares: its dimensions, no shrinking below a fixed one, and where it places its
content. -/
def frameDeclarations (frame : Frame) : List (String × String) :=
  dimensionDeclarations "width" "width" frame.width ++
  dimensionDeclarations "height" "height" frame.height ++
  dimensionDeclarations "min-width" "min-width" frame.minWidth ++
  dimensionDeclarations "max-width" "width" frame.maxWidth ++
  dimensionDeclarations "min-height" "min-height" frame.minHeight ++
  dimensionDeclarations "max-height" "height" frame.maxHeight ++
  (if isFixed frame.width || isFixed frame.height then [("flex-shrink", "0")] else []) ++
  if frame.alignment.isSome then
    [("display", "flex"), ("justify-content", (horizontalPlace frame.alignment).flexible),
      ("align-items", (verticalPlace frame.alignment).flexible)]
  else []

/-- How an aspect ratio and its mode are declared. -/
def aspectRatioDeclarations (value : AspectRatio) : List (String × String) :=
  (value.ratio.map fun ratio ↦ ("aspect-ratio", styleText ratio)).toList ++
  match value.mode with
  | some "fit" => [("object-fit", "contain")]
  | some "fill" => [("object-fit", "cover")]
  | _ => []

/-- A shadow of a text or of the box around any other view. -/
def shadowDeclaration (kind : Kind) (shadow : Shadow) : String × String :=
  (if kind = .text then "text-shadow" else "box-shadow",
    pixels (shadow.x.getD 0.0) ++ " " ++ pixels (shadow.y.getD 0.0) ++ " " ++
      pixels (shadow.radius.getD 0.0) ++ " " ++
      (shadow.color.map paint).getD "rgba(0, 0, 0, 0.33)")

/-- The corner radius that clips a view to a shape. -/
def clipRadius (clip : ClipShape) : String :=
  match clip.shape with
  | "Circle" => "50%"
  | "Ellipse" => "50%"
  | "Capsule" => "9999px"
  | "RoundedRectangle" => pixels (clip.cornerRadius.getD 0.0)
  | _ => "0"

/-- The alignment of the lines of a text. -/
def textAlignment (token : String) : String :=
  match token with
  | "leading" => "left"
  | "trailing" => "right"
  | _ => "center"

/-- The change of case of a text. -/
def textTransform (token : String) : String :=
  match token with
  | "uppercase" => "uppercase"
  | "lowercase" => "lowercase"
  | _ => "none"

/-- The declarations that a modifier contributes to the style of a view. -/
def modifierDeclarations (kind : Kind) (options : RenderOptions) (modifier : Modifier View) :
    List (String × String) :=
  let arguments := modifier.arguments
  match modifier.name, arguments with
  | "padding", .padding value => paddingDeclarations value options
  | "foregroundColor", .paint value => foreground kind value
  | "foregroundStyle", .paint value => foreground kind value
  | "tint", .paint value => [("accent-color", paint value), ("--tint", paint value)]
  | "accentColor", .paint value => [("accent-color", paint value), ("--tint", paint value)]
  | "fill", .paint value => [("background", paint value)]
  | "background", .paint value => background value
  | "stroke", .stroke value => [("background", "transparent"), line value]
  | "strokeBorder", .stroke value => [("background", "transparent"), line value]
  | "border", .border value => [line value]
  | "font", .font value => fontDeclarations value
  | "fontWeight", .token value => [("font-weight", natText (fontWeight value))]
  | "bold", _ => [("font-weight", if isOn arguments then "700" else "400")]
  | "italic", _ => [("font-style", if isOn arguments then "italic" else "normal")]
  | "underline", _ => whenOn arguments [("text-decoration", "underline")]
  | "strikethrough", _ => whenOn arguments [("text-decoration", "line-through")]
  | "monospaced", _ => whenOn arguments [("font-family", fontDesign "monospaced")]
  | "multilineTextAlignment", .token value => [("text-align", textAlignment value)]
  | "textCase", .token value => [("text-transform", textTransform value)]
  | "lineLimit", .number value =>
    [("display", "-webkit-box"), ("-webkit-line-clamp", styleText value),
      ("-webkit-box-orient", "vertical"), ("overflow", "hidden")]
  | "kerning", .number value => [("letter-spacing", pixels value)]
  | "tracking", .number value => [("letter-spacing", pixels value)]
  | "lineSpacing", .number value => [("line-height", "calc(1.2em + " ++ pixels value ++ ")")]
  | "cornerRadius", .number value => [("border-radius", pixels value), ("overflow", "hidden")]
  | "opacity", .number value => [("opacity", styleText value)]
  | "frame", .frame value => frameDeclarations value
  | "offset", .point value =>
    [("translate", pixels (value.x.getD 0.0) ++ " " ++ pixels (value.y.getD 0.0))]
  | "position", .point value =>
    [("position", "absolute"), ("left", pixels (value.x.getD 0.0)),
      ("top", pixels (value.y.getD 0.0)), ("translate", "-50% -50%")]
  | "aspectRatio", .aspectRatio value => aspectRatioDeclarations value
  | "scaledToFit", _ => [("object-fit", "contain")]
  | "scaledToFill", _ => [("object-fit", "cover")]
  | "rotationEffect", .angle value => [("rotate", styleText value.inDegrees ++ "deg")]
  | "scaleEffect", .number value => [("scale", styleText value)]
  | "scaleEffect", .point value =>
    [("scale", styleText (value.x.getD 1.0) ++ " " ++ styleText (value.y.getD 1.0))]
  | "shadow", .shadow value => [shadowDeclaration kind value]
  | "clipShape", .clipShape value =>
    [("border-radius", clipRadius value), ("overflow", "hidden")]
  | "clipped", _ => whenOn arguments [("overflow", "hidden")]
  | "zIndex", .number value => [("position", "relative"), ("z-index", styleText value)]
  | "layoutPriority", .number value => if 0.0 < value then [("flex-shrink", "0")] else []
  | "disabled", _ => whenOn arguments [("opacity", "0.5"), ("pointer-events", "none")]
  | "hidden", _ => whenOn arguments [("visibility", "hidden")]
  | "fixedSize", _ => whenOn arguments [("flex-shrink", "0"), ("white-space", "nowrap")]
  | "onTapGesture", _ => [("cursor", "pointer")]
  | "onLongPressGesture", _ => [("cursor", "pointer")]
  | _, _ => []

/-- The filter that a modifier puts into effect. -/
def modifierFilter? (modifier : Modifier View) : Option Filter :=
  match modifier.name, modifier.arguments with
  | "hueRotation", .angle value => some ⟨"hue-rotate", styleText value.inDegrees ++ "deg"⟩
  | "blur", .number value => some ⟨"blur", pixels value⟩
  | "brightness", .number value => some ⟨"brightness", styleText (1.0 + value)⟩
  | "contrast", .number value => some ⟨"contrast", styleText value⟩
  | "saturation", .number value => some ⟨"saturate", styleText value⟩
  | "grayscale", .number value => some ⟨"grayscale", styleText value⟩
  | _, _ => none

/-- A style with the contribution of one modifier. -/
def addModifierStyle (kind : Kind) (options : RenderOptions) (style : InlineStyle)
    (modifier : Modifier View) : InlineStyle :=
  let declared := style.pushAll (modifierDeclarations kind options modifier)
  match modifierFilter? modifier with
  | some filter => declared.filter filter.name filter.argument
  | none => declared

/-- A style with the contributions of all modifiers of a view. -/
def addModifiersStyle (style : InlineStyle) (view : View) (options : RenderOptions) :
    InlineStyle :=
  view.modifiers.foldl (addModifierStyle view.kind options) style

/-- The inline style of a view. -/
def viewStyle (view : View) (options : RenderOptions) : InlineStyle :=
  addModifiersStyle (kindStyle view options) view options

end ViewPreview.Style
