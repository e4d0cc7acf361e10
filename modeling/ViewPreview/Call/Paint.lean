import ViewPreview.Call.Argument
import ViewPreview.Number.Binary

/-!
# Paints in Argument Text

Reading a text as a color, a material or a gradient.  A color is named by an enumeration case, an
asset, or the red, green and blue channels it is mixed from, and may carry an opacity.
-/

namespace ViewPreview.Call

open ViewPreview.Text

/-- The names of the materials. -/
def materials : List String :=
  ["ultraThinMaterial", "thinMaterial", "regularMaterial", "thickMaterial", "ultraThickMaterial",
    "bar"]

/-- A text without the dots it begins with. -/
def withoutDots (text : List Char) : List Char :=
  text.dropWhile (· == '.')

/-- Whether a text begins like a linear gradient. -/
def isLinearGradient (text : List Char) : Bool :=
  let bare := withoutDots (trim text)
  startsWith "LinearGradient" bare || startsWith "linearGradient" bare

/-- Whether a text begins like a gradient that is drawn as a radial one. -/
def isRadialGradient (text : List Char) : Bool :=
  let bare := withoutDots (trim text)
  startsWith "RadialGradient" bare || startsWith "radialGradient" bare ||
    startsWith "AngularGradient" bare

/-- Whether a text begins like a gradient. -/
def isGradient (text : List Char) : Bool :=
  isLinearGradient text || isRadialGradient text

/-- The gradient that a text denotes. -/
def gradient (text : List Char) : Paint :=
  let inner := (callInner? text).getD []
  let arguments := Arguments.ofText inner
  let colors := (firstList? inner).getD []
  if isLinearGradient text then
    .linearGradient colors (arguments.labeledToken? "startPoint")
      (arguments.labeledToken? "endPoint")
  else .radialGradient colors

/-- The value from 0 to 255 of a color channel, whose argument counts from 0 to 1. -/
def channel? (arguments : Arguments) (label : String) : Option Nat :=
  (arguments.labeledNumber? label).map fun value ↦
    (Number.roundHalfAway (Number.clamp value 0.0 1.0 * 255.0)).toUInt8.toNat

/-- A hexadecimal number of two digits. -/
def hexByte (n : Nat) : List Char :=
  [Nat.digitChar (n / 16), Nat.digitChar (n % 16)]

/-- The color mixed from the channels given as arguments, the text of which may end in a closing
parenthesis. -/
def mixedColor? (inner : List Char) : Option Paint := do
  let arguments := Arguments.ofText ((dropFinish? [')'] inner).getD inner)
  let red ← channel? arguments "red"
  let green ← channel? arguments "green"
  let blue ← channel? arguments "blue"
  some (.color (String.ofList ('#' :: (hexByte red ++ hexByte green ++ hexByte blue)))
    (arguments.labeledNumber? "opacity"))

/-- The numeral of an opacity, given the text after `.opacity(`: nothing but the numeral may stand
before the closing parenthesis. -/
def opacityNumeral? (text : List Char) : Option (List Char) := do
  let (numeral, rest) ← Number.splitNumeral? (trimStart text)
  match trimStart rest with
  | ')' :: _ => some numeral
  | _ => none

/-- The numeral of the first opacity in a text. -/
def findOpacityNumeral? : List Char → Option (List Char)
  | [] => none
  | c :: text =>
    ((dropStart? ".opacity(".toList (c :: text)).bind opacityNumeral?).or
      (findOpacityNumeral? text)

/-- The opacity that a text asks for. -/
def opacity? (text : List Char) : Option Float :=
  (findOpacityNumeral? text).bind Number.readNumeral?

/-- The color that the text after `Color(` denotes: one mixed from channels, or that of an asset. -/
def constructedColor? (inner : List Char) : Option Paint :=
  (mixedColor? inner).or ((stringLiteral? inner).map fun asset ↦ .color asset none)

/-- The color or material that a text names. -/
def namedPaint? (text : List Char) : Option Paint :=
  (token? text).map fun name ↦
    if materials.contains name then .material name else .color name (opacity? text)

/-- The paint that a text denotes. -/
def paint? (text : List Char) : Option Paint :=
  let trimmed := trim text
  if isGradient trimmed then some (gradient trimmed)
  else
    ((dropStart? "Color(".toList trimmed).bind constructedColor?).or (namedPaint? trimmed)

end ViewPreview.Call
