/-!
# Typography

The size and weight of each named text style, the weights of named font weights, and the font
families of named designs.
-/

namespace ViewPreview.Style

/-- The size in points and the weight of a named text style. -/
def textStyle (style : String) : Float × Nat :=
  match style with
  | "largeTitle" => (34.0, 400)
  | "title" => (28.0, 400)
  | "title2" => (22.0, 400)
  | "title3" => (20.0, 400)
  | "headline" => (17.0, 600)
  | "subheadline" => (15.0, 400)
  | "callout" => (16.0, 400)
  | "footnote" => (13.0, 400)
  | "caption" => (12.0, 400)
  | "caption2" => (11.0, 400)
  | _ => (17.0, 400)

/-- The weight of a named font weight. -/
def fontWeight (weight : String) : Nat :=
  match weight with
  | "ultraLight" => 100
  | "thin" => 200
  | "light" => 300
  | "medium" => 500
  | "semibold" => 600
  | "bold" => 700
  | "heavy" => 800
  | "black" => 900
  | _ => 400

/-- The font families of a named design. -/
def fontDesign (design : String) : String :=
  match design with
  | "monospaced" => "ui-monospace, Menlo, monospace"
  | "serif" => "ui-serif, Georgia, serif"
  | "rounded" => "ui-rounded, -apple-system, sans-serif"
  | _ => "-apple-system, BlinkMacSystemFont, 'Helvetica Neue', sans-serif"

end ViewPreview.Style
