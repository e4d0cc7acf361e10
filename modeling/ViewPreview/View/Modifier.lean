/-!
# Modifiers

A modifier is a named adjustment attached to a view, such as `.padding(8)`.  Its arguments fall into
a fixed set of categories, one constructor each.  Modifiers may carry a view of their own (an
overlay, a background, a mask or a tab item), so the types are parametric in the type of views.
-/

namespace ViewPreview

/-- The edges a padding applies to. -/
inductive Edge where
  | all | top | bottom | leading | trailing | horizontal | vertical
deriving Repr, DecidableEq

namespace Edge

/-- Every edge set that has a name. -/
def every : List Edge :=
  [.all, .top, .bottom, .leading, .trailing, .horizontal, .vertical]

/-- The name of an edge set. -/
def name : Edge → String
  | .all => "all"
  | .top => "top"
  | .bottom => "bottom"
  | .leading => "leading"
  | .trailing => "trailing"
  | .horizontal => "horizontal"
  | .vertical => "vertical"

/-- The edge set with a given name. -/
def ofName? (name : String) : Option Edge :=
  every.find? fun edge ↦ edge.name == name

end Edge

/-- Padding on some edges; without an amount the renderer's default applies. -/
structure Padding where
  edges : List Edge
  amount : Option Float
deriving Repr, DecidableEq

/-- Anything that can color a view. -/
inductive Paint where
  | color (name : String) (opacity : Option Float)
  | material (name : String)
  | linearGradient (colors : List String) (start finish : Option String)
  | radialGradient (colors : List String)
deriving Repr, DecidableEq

/-- The paint and width of a line. -/
structure Stroke where
  paint : Option Paint
  width : Option Float
deriving Repr, DecidableEq

/-- A font: a named text style, or explicit attributes, or both. -/
structure Font where
  style : Option String := none
  size : Option Float := none
  weight : Option String := none
  design : Option String := none
  family : Option String := none
deriving Repr, DecidableEq

/-- Whether a font says nothing. -/
def Font.isEmpty (font : Font) : Bool :=
  font.style.isNone && font.size.isNone && font.weight.isNone && font.design.isNone &&
    font.family.isNone

/-- A length, or as much space as there is. -/
inductive Dimension where
  | fixed (length : Float)
  | infinity
deriving Repr, DecidableEq

/-- The dimensions a frame asks for and where it places its content. -/
structure Frame where
  width : Option Dimension
  height : Option Dimension
  minWidth : Option Dimension
  maxWidth : Option Dimension
  minHeight : Option Dimension
  maxHeight : Option Dimension
  alignment : Option String
deriving Repr, DecidableEq

/-- Whether a frame asks for any dimension. -/
def Frame.hasDimensions (frame : Frame) : Bool :=
  frame.width.isSome || frame.height.isSome || frame.minWidth.isSome || frame.maxWidth.isSome ||
    frame.minHeight.isSome || frame.maxHeight.isSome

/-- A point or a pair of factors, each coordinate optional. -/
structure Point where
  x : Option Float
  y : Option Float
deriving Repr, DecidableEq

/-- A ratio of width to height and whether the content fits or fills. -/
structure AspectRatio where
  ratio : Option Float
  mode : Option String
deriving Repr, DecidableEq

/-- An angle in the unit it was written in. -/
inductive Angle where
  | degrees (value : Float)
  | radians (value : Float)
deriving Repr, DecidableEq

/-- An angle in degrees. -/
def Angle.inDegrees : Angle → Float
  | .degrees value => value
  | .radians value => value * 57.29577951308232

/-- A shadow's color, blur radius and offset. -/
structure Shadow where
  color : Option Paint
  radius : Option Float
  x : Option Float
  y : Option Float
deriving Repr, DecidableEq

/-- The shape a view is clipped to. -/
structure ClipShape where
  shape : String
  cornerRadius : Option Float
deriving Repr, DecidableEq

/-- A view carried by a modifier and where it is placed. -/
structure Content (V : Type) where
  view : V
  alignment : Option String
deriving Repr, DecidableEq

/-- The arguments of a modifier. -/
inductive ModifierArguments (V : Type) where
  /-- There are no arguments, or the modifier is unknown, or its arguments could not be read. -/
  | none
  | flag (value : Bool)
  | number (value : Float)
  | text (value : String)
  | token (value : String)
  | padding (value : Padding)
  | paint (value : Paint)
  | stroke (value : Stroke)
  | border (value : Stroke)
  | font (value : Font)
  | frame (value : Frame)
  | point (value : Point)
  | aspectRatio (value : AspectRatio)
  | angle (value : Angle)
  | shadow (value : Shadow)
  | clipShape (value : ClipShape)
  | content (value : Content V)
deriving Repr, DecidableEq

/-- A named adjustment of a view. -/
structure Modifier (V : Type) where
  name : String
  arguments : ModifierArguments V
deriving Repr, DecidableEq

/-- A modifier without arguments. -/
def Modifier.bare {V : Type} (name : String) : Modifier V :=
  ⟨name, .none⟩

end ViewPreview
