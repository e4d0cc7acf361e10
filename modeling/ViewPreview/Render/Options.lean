/-!
# Rendering Options

What a rendering leaves to the reader of the page: the default lengths, the most rows one repetition
may produce, and the colors around the rendered view.
-/

namespace ViewPreview

/-- The colors of the page around a rendered view. -/
inductive Theme where
  | light
  | dark
deriving Repr, DecidableEq, Inhabited

/-- The name of a theme. -/
def Theme.name : Theme → String
  | .light => "light"
  | .dark => "dark"

/-- The options of a rendering. -/
structure RenderOptions where
  /-- The amount of a padding written without one. -/
  defaultPadding : Float := 8.0
  /-- The gap between the children of a stack written without one. -/
  defaultSpacing : Float := 8.0
  /-- The most rows produced by one repetition. -/
  maxRepeat : Nat := 500
  theme : Theme := .light
deriving Repr, DecidableEq

end ViewPreview
