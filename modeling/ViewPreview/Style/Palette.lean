import ViewPreview.Number.Layout
import ViewPreview.Number.Numeral
import ViewPreview.View.Modifier

/-!
# Colors, Materials and Gradients

The style-sheet text of everything that can color a view.  Named colors have fixed values,
well-formed hexadecimal colors stand for themselves, and any other name inherits the current color.
-/

namespace ViewPreview.Style

open ViewPreview.Number (digitOf? digitsOf styleText clamp)

/-- Whether a name is `#` followed by three to eight hexadecimal digits. -/
def isHexColor (name : String) : Bool :=
  match name.toList with
  | '#' :: digits =>
    digits.all (fun c ↦ (digitOf? 16 c).isSome) && 3 ≤ digits.length && digits.length ≤ 8
  | _ => false

/-- The style-sheet text of a named color. -/
def color (name : String) : String :=
  match name with
  | "red" => "#ff3b30"
  | "orange" => "#ff9500"
  | "yellow" => "#ffcc00"
  | "green" => "#34c759"
  | "mint" => "#00c7be"
  | "teal" => "#30b0c7"
  | "cyan" => "#32ade6"
  | "blue" => "#007aff"
  | "accentColor" => "#007aff"
  | "accent" => "#007aff"
  | "indigo" => "#5856d6"
  | "purple" => "#af52de"
  | "pink" => "#ff2d55"
  | "brown" => "#a2845e"
  | "gray" => "#8e8e93"
  | "grey" => "#8e8e93"
  | "black" => "#000000"
  | "primary" => "#000000"
  | "white" => "#ffffff"
  | "secondary" => "#3c3c4399"
  | "clear" => "transparent"
  | _ => if isHexColor name then name else "currentColor"

/-- The value of two hexadecimal digits. -/
def hexPair? (high low : Char) : Option Nat :=
  (digitOf? 16 high).bind fun h ↦ (digitOf? 16 low).map fun l ↦ 16 * h + l

/-- The red, green and blue channels of a hexadecimal color of at least six digits. -/
def channels? (hex : String) : Option (Nat × Nat × Nat) :=
  match hex.toList with
  | '#' :: r₁ :: r₀ :: g₁ :: g₀ :: b₁ :: b₀ :: _ => do
    some (← hexPair? r₁ r₀, ← hexPair? g₁ g₀, ← hexPair? b₁ b₀)
  | _ => none

/-- A natural number in decimal. -/
def natText (n : Nat) : String :=
  String.ofList (digitsOf n)

/-- A named color with an opacity applied. -/
def colorWithOpacity (name : String) (opacity : Option Float) : String :=
  let base := color name
  match opacity with
  | none => base
  | some alpha =>
    match channels? base with
    | some (red, green, blue) =>
      "rgba(" ++ natText red ++ ", " ++ natText green ++ ", " ++ natText blue ++ ", " ++
        styleText (clamp alpha 0.0 1.0) ++ ")"
    | none =>
      if base = "transparent" then base
      else "color-mix(in srgb, " ++ base ++ " " ++ styleText (alpha * 100.0) ++ "%, transparent)"

/-- The translucent fill of a material and the radius of the blur behind it. -/
def material (name : String) : String × Nat :=
  match name with
  | "ultraThinMaterial" => ("rgba(255, 255, 255, 0.35)", 10)
  | "thinMaterial" => ("rgba(255, 255, 255, 0.5)", 15)
  | "thickMaterial" => ("rgba(255, 255, 255, 0.8)", 25)
  | "ultraThickMaterial" => ("rgba(255, 255, 255, 0.9)", 30)
  | "bar" => ("rgba(249, 249, 249, 0.94)", 20)
  | _ => ("rgba(255, 255, 255, 0.65)", 20)

/-- The direction of a gradient between two points of a view. -/
def gradientDirection (start finish : Option String) : String :=
  match start.getD "top", finish.getD "bottom" with
  | "leading", "trailing" => "to right"
  | "trailing", "leading" => "to left"
  | "bottom", "top" => "to top"
  | "topLeading", "bottomTrailing" => "to bottom right"
  | "topTrailing", "bottomLeading" => "to bottom left"
  | "bottomLeading", "topTrailing" => "to top right"
  | "bottomTrailing", "topLeading" => "to top left"
  | _, _ => "to bottom"

/-- The stops of a gradient. -/
def colorStops (colors : List String) : String :=
  if colors.isEmpty then "transparent, transparent"
  else ", ".intercalate (colors.map color)

/-- A gradient along a line. -/
def linearGradient (colors : List String) (start finish : Option String) : String :=
  "linear-gradient(" ++ gradientDirection start finish ++ ", " ++ colorStops colors ++ ")"

/-- A gradient from a center outwards. -/
def radialGradient (colors : List String) : String :=
  "radial-gradient(circle, " ++ colorStops colors ++ ")"

/-- The style-sheet text of a paint. -/
def paint : Paint → String
  | .color name opacity => colorWithOpacity name opacity
  | .material name => (material name).1
  | .linearGradient colors start finish => linearGradient colors start finish
  | .radialGradient colors => radialGradient colors

end ViewPreview.Style
