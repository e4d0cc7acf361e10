import ViewPreview.Call.Font
import ViewPreview.Call.Paint

/-!
# Modifier Calls

What the arguments of a modifier mean.  Every known modifier name belongs to one category of
arguments; an unknown name means a modifier without arguments.  Arguments of a known modifier that
cannot be read are an error that says what was expected in their place.
-/

namespace ViewPreview.Call

open ViewPreview.Text

/-! ## Errors -/

/-- What a modifier expects to find among its arguments. -/
inductive Expectation where
  | colorOrStyle
  | styleToken
  | number
  | string
  | view
  | color
  | font
  | edgesOrNumber
  | colorOrView
  | dimension
  | coordinate
  | ratioOrMode
  | angle
  | radius
  | shape
  | numberOrString
deriving Repr, DecidableEq

/-- What is expected, in words. -/
def Expectation.description : Expectation → String
  | .colorOrStyle => "a color or style"
  | .styleToken => "a style token"
  | .number => "a number"
  | .string => "a string"
  | .view => "a view"
  | .color => "a color"
  | .font => "a font"
  | .edgesOrNumber => "an edge set or a number"
  | .colorOrView => "a color or view"
  | .dimension => "a width or height"
  | .coordinate => "an x or y value"
  | .ratioOrMode => "a ratio or content mode"
  | .angle => "an angle"
  | .radius => "a radius"
  | .shape => "a shape"
  | .numberOrString => "a number or string"

/-- A known modifier whose arguments could not be read. -/
structure ArgumentError where
  modifier : String
  expected : Expectation
deriving Repr, DecidableEq

/-- The text of an argument error. -/
def ArgumentError.message (error : ArgumentError) : String :=
  "Modifier '." ++ error.modifier ++ "' expects " ++ error.expected.description

/-! ## Categories -/

/-- The categories of modifier arguments, with those that several modifiers share. -/
inductive Category where
  | paint | token | number | text | flag | padding | background | overlay | content | stroke
  | border | font | frame | point | aspectRatio | angle | shadow | clipShape | badge | unknown
deriving Repr, DecidableEq

/-- The category of a modifier's arguments. -/
def category (name : String) : Category :=
  match name with
  | "foregroundColor" | "foregroundStyle" | "tint" | "accentColor" | "fill" => .paint
  | "fontWeight" | "multilineTextAlignment" | "textCase" | "textFieldStyle" | "buttonStyle"
  | "listStyle" | "pickerStyle" | "toggleStyle" | "navigationBarTitleDisplayMode" | "animation"
  | "transition" => .token
  | "cornerRadius" | "opacity" | "lineLimit" | "kerning" | "tracking" | "lineSpacing"
  | "brightness" | "contrast" | "saturation" | "grayscale" | "scaleEffect" | "zIndex"
  | "layoutPriority" | "blur" => .number
  | "navigationTitle" | "accessibilityLabel" | "accessibilityHint" | "accessibilityValue"
  | "help" => .text
  | "bold" | "italic" | "underline" | "strikethrough" | "clipped" | "onTapGesture"
  | "onLongPressGesture" | "disabled" | "onAppear" | "onDisappear" | "hidden" | "scaledToFit"
  | "scaledToFill" | "fixedSize" | "ignoresSafeArea" | "edgesIgnoringSafeArea" | "toolbar"
  | "searchable" | "monospaced" => .flag
  | "padding" => .padding
  | "background" => .background
  | "overlay" => .overlay
  | "mask" | "tabItem" => .content
  | "stroke" | "strokeBorder" => .stroke
  | "border" => .border
  | "font" => .font
  | "frame" => .frame
  | "offset" | "position" => .point
  | "aspectRatio" => .aspectRatio
  | "rotationEffect" | "hueRotation" => .angle
  | "shadow" => .shadow
  | "clipShape" => .clipShape
  | "badge" => .badge
  | _ => .unknown

/-- Whether the arguments of a modifier may be views. -/
def argumentTakesView (name : String) : Bool :=
  match category name with
  | .overlay | .background => true
  | _ => name == "mask"

/-- Whether the trailing closure of a modifier builds a view. -/
def closureTakesView (name : String) : Bool :=
  argumentTakesView name || name == "tabItem"

/-! ## Arguments of each category -/

/-- A style token without the name of its style family: both `RoundedBorderTextFieldStyle` and
`roundedBorder` give `roundedBorder`. -/
def normalizeStyle (token : String) : String :=
  let families :=
    ["TextFieldStyle", "ButtonStyle", "ListStyle", "PickerStyle", "ToggleStyle"]
  match families.findSome? fun family ↦ dropFinish? family.toList token.toList with
  | some (c :: stem) => String.ofList (lowerChar c :: stem)
  | _ => token

/-- The edges and amount of a padding, or nothing when an argument is neither. -/
def addPadding (padding : Padding) (argument : Argument) : Option Padding :=
  let text := trim argument.text
  if startsWith "[" text then
    some { padding with
      edges := padding.edges ++ ((listItems? text).getD []).filterMap Edge.ofName? }
  else if startsWith "." text then
    ((token? text).bind Edge.ofName?).map fun edge ↦
      { padding with edges := padding.edges ++ [edge] }
  else
    (Number.first? text).map fun amount ↦ { padding with amount := some amount }

/-- The padding that a call asks for.  Without edges it applies to all of them, and the last amount
counts. -/
def padding? (arguments : Arguments) : Option Padding :=
  (arguments.unlabeled.foldlM addPadding ⟨[], none⟩).map fun padding ↦
    if padding.edges.isEmpty then { padding with edges := [.all] } else padding

/-- The view that a call carries: that of its trailing closure, else the first among its
arguments. -/
def content? (arguments : Arguments) : Option (Content View) :=
  ((View.single? .zStack arguments.trailing).or
    (arguments.values.findSome? Argument.view)).map fun view ↦
      ⟨view, arguments.labeledToken? "alignment"⟩

/-- A background: the view of the trailing closure, a gradient, the view of the first argument, or
any other paint. -/
def background? (arguments : Arguments) : Option (ModifierArguments View) :=
  let alignment := arguments.labeledToken? "alignment"
  match View.single? .zStack arguments.trailing with
  | some view => some (.content ⟨view, alignment⟩)
  | none =>
    arguments.first?.bind fun argument ↦
      if isGradient argument.text then (paint? argument.text).map .paint
      else match argument.view with
        | some view => some (.content ⟨view, alignment⟩)
        | none => (paint? argument.text).map .paint

/-- An overlay: a view, else a paint. -/
def overlay? (arguments : Arguments) : Option (ModifierArguments View) :=
  match content? arguments with
  | some content => some (.content content)
  | none => (arguments.first?.bind fun argument ↦ paint? argument.text).map .paint

/-- The length that a text denotes. -/
def dimension? (text : List Char) : Option Dimension :=
  if occursIn "infinity".toList text then some .infinity
  else (Number.first? text).map .fixed

/-- The frame that a call asks for. -/
def frame? (arguments : Arguments) : Option Frame :=
  let length? (label : String) : Option Dimension :=
    (arguments.labeled? label).bind fun argument ↦ dimension? argument.text
  let frame : Frame :=
    { width := length? "width"
      height := length? "height"
      minWidth := length? "minWidth"
      maxWidth := length? "maxWidth"
      minHeight := length? "minHeight"
      maxHeight := length? "maxHeight"
      alignment := arguments.labeledToken? "alignment" }
  if frame.hasDimensions || frame.alignment.isSome then some frame else none

/-- A point, unless it has no coordinate. -/
def somePoint? (x y : Option Float) : Option Point :=
  if x.isSome || y.isSome then some ⟨x, y⟩ else none

/-- The point that a call asks for, by its coordinates or by a size or point constructed in its
first argument. -/
def point? (arguments : Arguments) : Option Point :=
  (somePoint? (arguments.labeledNumber? "x") (arguments.labeledNumber? "y")).or
    ((arguments.firstUnlabeled?.bind fun argument ↦ callInner? argument.text).bind fun inner ↦
      let size := Arguments.ofText inner
      somePoint? ((size.labeledNumber? "width").or (size.labeledNumber? "x"))
        ((size.labeledNumber? "height").or (size.labeledNumber? "y")))

/-- The ratio that a text denotes: a number, or a quotient whose denominator is not zero. -/
def ratio? (text : List Char) : Option Float :=
  match splitFirst? '/' text with
  | some (numerator, denominator) => do
    let upper ← Number.first? numerator
    let lower ← Number.first? denominator
    if lower == 0.0 then none else some (upper / lower)
  | none => Number.first? text

/-- The aspect ratio after one more argument without a label. -/
def addAspect (aspect : AspectRatio) (argument : Argument) : AspectRatio :=
  let text := trim argument.text
  if startsWith "." text then { aspect with mode := token? text }
  else { aspect with ratio := ratio? text }

/-- The aspect ratio that a call asks for. -/
def aspectRatio? (arguments : Arguments) : Option AspectRatio :=
  let aspect := arguments.unlabeled.foldl addAspect ⟨none, arguments.labeledToken? "contentMode"⟩
  if aspect.ratio.isNone && aspect.mode.isNone then none else some aspect

/-- The numeral of an angle, given the text after its unit. -/
def angleNumeral? (text : List Char) : Option (List Char) :=
  match trimStart text with
  | c :: rest =>
    if c == ':' || c == '(' then (Number.splitNumeral? (trimStart rest)).map Prod.fst else none
  | [] => none

/-- The unit and numeral of the first angle in a text; the unit is radians when the flag is set. -/
def findAngle? : List Char → Option (Bool × List Char)
  | [] => none
  | c :: text =>
    let degrees := (dropStart? "degrees".toList (c :: text)).bind angleNumeral?
    let radians := (dropStart? "radians".toList (c :: text)).bind angleNumeral?
    ((degrees.map fun numeral ↦ (false, numeral)).or
      (radians.map fun numeral ↦ (true, numeral))).or (findAngle? text)

/-- The angle that a text denotes. -/
def angle? (text : List Char) : Option Angle := do
  let (inRadians, numeral) ← findAngle? text
  let value ← Number.readNumeral? numeral
  some (if inRadians then .radians value else .degrees value)

/-- The shadow that a call asks for; it needs a radius. -/
def shadow? (arguments : Arguments) : Option Shadow :=
  ((arguments.labeledNumber? "radius").or
    (arguments.firstUnlabeled?.bind fun argument ↦ Number.first? argument.text)).map fun radius ↦
      { color := (arguments.labeled? "color").bind fun argument ↦ paint? argument.text
        radius := some radius
        x := arguments.labeledNumber? "x"
        y := arguments.labeledNumber? "y" }

/-- The name of the shape that a dot token stands for. -/
def shapeOfToken (token : String) (isRounded : Bool) : String :=
  match token with
  | "circle" => "Circle"
  | "capsule" => "Capsule"
  | "ellipse" => "Ellipse"
  | "rect" | "rectangle" => if isRounded then "RoundedRectangle" else "Rectangle"
  | other => other

/-- The shape that a text denotes. -/
def clipShape? (text : List Char) : Option ClipShape :=
  let trimmed := trim text
  let cornerRadius := (callInner? trimmed).bind fun inner ↦
    (Arguments.ofText inner).labeledNumber? "cornerRadius"
  match trimmed with
  | '.' :: token =>
    (leadingIdentifier? token).map fun name ↦
      ⟨shapeOfToken name cornerRadius.isSome, cornerRadius⟩
  | _ => (leadingIdentifier? trimmed).map fun name ↦ ⟨name, cornerRadius⟩

/-- A modifier's number.  A scale may be a pair of factors, and a limit on lines may be lifted. -/
def number? (name : String) (arguments : Arguments) : Option (ModifierArguments View) :=
  if name == "lineLimit" && arguments.first?.any fun argument ↦ trim argument.text == "nil".toList
  then some .none
  else if name == "scaleEffect" &&
      ((arguments.labeled? "x").isSome || (arguments.labeled? "y").isSome) then
    some (.point ⟨arguments.labeledNumber? "x", arguments.labeledNumber? "y"⟩)
  else (arguments.first?.bind fun argument ↦ Number.first? argument.text).map .number

/-- A badge: a text or a number. -/
def badge? (arguments : Arguments) : Option (ModifierArguments View) :=
  arguments.first?.bind fun argument ↦
    if argument.isQuoted then some (.text ((stringLiteral? argument.text).getD ""))
    else (Number.first? argument.text).map .number

/-- The paint in the first argument without a label. -/
def unlabeledPaint? (arguments : Arguments) : Option Paint :=
  arguments.firstUnlabeled?.bind fun argument ↦ paint? argument.text

/-- Whether a flag is set, which it is unless its argument says otherwise. -/
def flag (arguments : Arguments) : Bool :=
  (arguments.firstUnlabeled?.bind fun argument ↦ boolLiteral? argument.text).getD true

/-- What the arguments of a modifier mean. -/
def interpret (name : String) (arguments : Arguments) :
    Except ArgumentError (ModifierArguments View) :=
  let required (expected : Expectation) (reading : Option (ModifierArguments View)) :
      Except ArgumentError (ModifierArguments View) :=
    match reading with
    | some value => .ok value
    | none => .error ⟨name, expected⟩
  let first? {α : Type} (read : List Char → Option α) : Option α :=
    arguments.first?.bind fun argument ↦ read argument.text
  match category name with
  | .paint => required .colorOrStyle ((first? paint?).map .paint)
  | .token => required .styleToken ((first? token?).map fun token ↦ .token (normalizeStyle token))
  | .number => required .number (number? name arguments)
  | .text => required .string ((arguments.first?.bind Argument.content?).map .text)
  | .flag => .ok (.flag (flag arguments))
  | .padding => required .edgesOrNumber ((padding? arguments).map .padding)
  | .background => required .colorOrView (background? arguments)
  | .overlay => required .view (overlay? arguments)
  | .content => required .view ((content? arguments).map .content)
  | .stroke => .ok (.stroke ⟨unlabeledPaint? arguments, arguments.labeledNumber? "lineWidth"⟩)
  | .border =>
    required .color ((unlabeledPaint? arguments).map fun paint ↦
      .border ⟨some paint, arguments.labeledNumber? "width"⟩)
  | .font =>
    required .font (((first? fun text ↦ some (font text)).filter fun font ↦ !font.isEmpty).map
      .font)
  | .frame => required .dimension ((frame? arguments).map .frame)
  | .point => required .coordinate ((point? arguments).map .point)
  | .aspectRatio => required .ratioOrMode ((aspectRatio? arguments).map .aspectRatio)
  | .angle => required .angle ((first? angle?).map .angle)
  | .shadow => required .radius ((shadow? arguments).map .shadow)
  | .clipShape => required .shape ((first? clipShape?).map .clipShape)
  | .badge => required .numberOrString (badge? arguments)
  | .unknown => .ok .none

/-- The modifier that a call makes, and the error of its arguments, which are then left out. -/
def modifierOf (name : String) (arguments : Arguments) : Modifier View × Option ArgumentError :=
  match interpret name arguments with
  | .ok value => (⟨name, value⟩, none)
  | .error error => (.bare name, some error)

theorem modifierOf_of_ok {name : String} {arguments : Arguments} {value : ModifierArguments View}
    (read : interpret name arguments = .ok value) :
    modifierOf name arguments = (⟨name, value⟩, none) := by
  rw [modifierOf, read]

end ViewPreview.Call
