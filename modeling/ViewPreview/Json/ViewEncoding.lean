import ViewPreview.Json.Basic
import ViewPreview.Number.Layout
import ViewPreview.View.Basic

/-!
# Views as JSON

The JSON value of a view with everything inside it.  Every choice between forms is an object with a
`type` and, unless there is nothing more to say, a `value`.  How numbers are written is left to a
parameter; in serialized trees a number that is infinite or undefined becomes `null`.
-/

namespace ViewPreview

/-- How numbers become JSON values. -/
structure NumberEncoding where
  number : Float → Json
  integer : Int → Json

/-- The encoding of serialized trees: numbers as numerals, `null` for those that have none. -/
def NumberEncoding.serialized : NumberEncoding :=
  { number := fun x ↦
      if Number.isFinite x then .numeral (Number.Layout.serialized.text x) else .null
    integer := fun n ↦ .numeral (Number.integerText n) }

namespace NumberEncoding

/-- A number, or `null` in its absence. -/
def optional (encoding : NumberEncoding) (value : Option Float) : Json :=
  (value.map encoding.number).getD .null

/-- A value with the name of its form. -/
def tagged (tag : String) (value : Json) : Json :=
  .object [("type", .string tag), ("value", value)]

/-- A range of integers. -/
def range (encoding : NumberEncoding) (value : IntegerRange) : Json :=
  .object
    [("start", encoding.integer value.start.toInt), ("end", encoding.integer value.stop.toInt),
      ("inclusive", .bool value.inclusive)]

/-- A padding. -/
def padding (encoding : NumberEncoding) (value : Padding) : Json :=
  .object
    [("edges", .strings (value.edges.map Edge.name)), ("amount", encoding.optional value.amount)]

/-- A paint. -/
def paint (encoding : NumberEncoding) (value : Paint) : Json :=
  match value with
  | .color name opacity =>
    .object
      [("type", .string "color"), ("name", .string name), ("opacity", encoding.optional opacity)]
  | .material name => .object [("type", .string "material"), ("name", .string name)]
  | .linearGradient colors start finish =>
    .object
      [("type", .string "linearGradient"), ("colors", .strings colors),
        ("start", .optionalString start), ("end", .optionalString finish)]
  | .radialGradient colors =>
    .object [("type", .string "radialGradient"), ("colors", .strings colors)]

/-- A paint, or `null` in its absence. -/
def optionalPaint (encoding : NumberEncoding) (value : Option Paint) : Json :=
  (value.map encoding.paint).getD .null

/-- A stroke. -/
def stroke (encoding : NumberEncoding) (value : Stroke) : Json :=
  .object
    [("paint", encoding.optionalPaint value.paint), ("width", encoding.optional value.width)]

/-- A font. -/
def font (encoding : NumberEncoding) (value : Font) : Json :=
  .object
    [("style", .optionalString value.style), ("size", encoding.optional value.size),
      ("weight", .optionalString value.weight), ("design", .optionalString value.design),
      ("family", .optionalString value.family)]

/-- A length, or `null` in its absence. -/
def dimension (encoding : NumberEncoding) (value : Option Dimension) : Json :=
  match value with
  | none => .null
  | some .infinity => .string "infinity"
  | some (.fixed length) => .object [("fixed", encoding.number length)]

/-- A frame. -/
def frame (encoding : NumberEncoding) (value : Frame) : Json :=
  .object
    [("width", encoding.dimension value.width), ("height", encoding.dimension value.height),
      ("min_width", encoding.dimension value.minWidth),
      ("max_width", encoding.dimension value.maxWidth),
      ("min_height", encoding.dimension value.minHeight),
      ("max_height", encoding.dimension value.maxHeight),
      ("alignment", .optionalString value.alignment)]

/-- A point. -/
def point (encoding : NumberEncoding) (value : Point) : Json :=
  .object [("x", encoding.optional value.x), ("y", encoding.optional value.y)]

/-- An aspect ratio. -/
def aspectRatio (encoding : NumberEncoding) (value : AspectRatio) : Json :=
  .object [("ratio", encoding.optional value.ratio), ("mode", .optionalString value.mode)]

/-- An angle. -/
def angle (encoding : NumberEncoding) (value : Angle) : Json :=
  match value with
  | .degrees value => .object [("degrees", encoding.number value)]
  | .radians value => .object [("radians", encoding.number value)]

/-- A shadow. -/
def shadow (encoding : NumberEncoding) (value : Shadow) : Json :=
  .object
    [("color", encoding.optionalPaint value.color), ("radius", encoding.optional value.radius),
      ("x", encoding.optional value.x), ("y", encoding.optional value.y)]

/-- The shape a view is clipped to. -/
def clipShape (encoding : NumberEncoding) (value : ClipShape) : Json :=
  .object
    [("shape", .string value.shape), ("corner_radius", encoding.optional value.cornerRadius)]

mutual

/-- A view. -/
def view (encoding : NumberEncoding) : View → Json
  | ⟨kind, properties, modifiers, children⟩ =>
    .object
      [("kind", .string kind.name), ("props", .object (propertyMembers encoding properties)),
        ("modifiers", .array (modifierItems encoding modifiers)),
        ("children", .array (viewItems encoding children))]

/-- The views of a list. -/
def viewItems (encoding : NumberEncoding) : List View → List Json
  | [] => []
  | view :: views => encoding.view view :: viewItems encoding views

/-- The properties of a view. -/
def propertyMembers (encoding : NumberEncoding) :
    List (String × PropertyValue View) → List (String × Json)
  | [] => []
  | property :: properties =>
    propertyMember encoding property :: propertyMembers encoding properties

/-- A property of a view. -/
def propertyMember (encoding : NumberEncoding) : String × PropertyValue View → String × Json
  | (key, value) => (key, propertyValue encoding value)

/-- The value of a property. -/
def propertyValue (encoding : NumberEncoding) : PropertyValue View → Json
  | .number value => tagged "number" (encoding.number value)
  | .bool value => tagged "bool" (.bool value)
  | .text value => tagged "text" (.string value)
  | .token value => tagged "token" (.string value)
  | .list items => tagged "list" (.strings items)
  | .range value => tagged "range" (encoding.range value)
  | .view value => tagged "node" (encoding.view value)

/-- The modifiers of a chain. -/
def modifierItems (encoding : NumberEncoding) : List (Modifier View) → List Json
  | [] => []
  | modifier :: modifiers => encoding.modifier modifier :: modifierItems encoding modifiers

/-- A modifier. -/
def modifier (encoding : NumberEncoding) : Modifier View → Json
  | ⟨name, arguments⟩ =>
    .object [("name", .string name), ("args", modifierArguments encoding arguments)]

/-- The arguments of a modifier. -/
def modifierArguments (encoding : NumberEncoding) : ModifierArguments View → Json
  | .none => .object [("type", .string "none")]
  | .flag value => tagged "flag" (.bool value)
  | .number value => tagged "number" (encoding.number value)
  | .text value => tagged "text" (.string value)
  | .token value => tagged "token" (.string value)
  | .padding value => tagged "padding" (encoding.padding value)
  | .paint value => tagged "paint" (encoding.paint value)
  | .stroke value => tagged "stroke" (encoding.stroke value)
  | .border value => tagged "border" (encoding.stroke value)
  | .font value => tagged "font" (encoding.font value)
  | .frame value => tagged "frame" (encoding.frame value)
  | .point value => tagged "point" (encoding.point value)
  | .aspectRatio value => tagged "aspectRatio" (encoding.aspectRatio value)
  | .angle value => tagged "angle" (encoding.angle value)
  | .shadow value => tagged "shadow" (encoding.shadow value)
  | .clipShape value => tagged "clipShape" (encoding.clipShape value)
  | .content value => tagged "content" (content encoding value)

/-- The view that a modifier carries and where it is placed. -/
def content (encoding : NumberEncoding) : Content View → Json
  | ⟨view, alignment⟩ =>
    .object [("view", encoding.view view), ("alignment", .optionalString alignment)]

end

end NumberEncoding

end ViewPreview
