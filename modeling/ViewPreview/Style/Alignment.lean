import ViewPreview.Text.Occurrence

/-!
# Alignment

How the alignment tokens of stacks, layers and frames are expressed in a style sheet.
-/

namespace ViewPreview.Style

open ViewPreview.Text (startsWith endsWith lower)

/-- A place along one axis. -/
inductive Place where
  | start
  | center
  | finish
deriving Repr, DecidableEq

/-- A place in a flexible box. -/
def Place.flexible : Place → String
  | .start => "flex-start"
  | .center => "center"
  | .finish => "flex-end"

/-- A place in a grid cell. -/
def Place.inCell : Place → String
  | .start => "start"
  | .center => "center"
  | .finish => "end"

/-- The place of a stack's children across its axis. -/
def stackPlace (token : Option String) : Place :=
  match token with
  | some "leading" => .start
  | some "top" => .start
  | some "topLeading" => .start
  | some "firstTextBaseline" => .start
  | some "trailing" => .finish
  | some "bottom" => .finish
  | some "bottomTrailing" => .finish
  | some "lastTextBaseline" => .finish
  | _ => .center

/-- The vertical place that an alignment in two dimensions asks for. -/
def verticalPlace (token : Option String) : Place :=
  let text := (token.getD "center").toList
  if startsWith "top" text then .start
  else if startsWith "bottom" text then .finish
  else .center

/-- The horizontal place that an alignment in two dimensions asks for. -/
def horizontalPlace (token : Option String) : Place :=
  let text := (lower (token.getD "center")).toList
  if endsWith "leading" text then .start
  else if endsWith "trailing" text then .finish
  else .center

/-- The place of a layer in a grid cell: the vertical place, then the horizontal one. -/
def cellPlace (token : Option String) : String :=
  (verticalPlace token).inCell ++ " " ++ (horizontalPlace token).inCell

end ViewPreview.Style
