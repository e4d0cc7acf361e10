import ViewPreview.Call.Argument

/-!
# Closures of a Constructor Call

What a closure attached to the call of a view constructor contributes to the view.  A labeled
closure is known by its label; what an unlabeled one means depends on the constructor and, for
buttons and links, on whether the call also has a title.
-/

namespace ViewPreview.Call

/-- What a closure contributes to a view. -/
inductive ClosureRole where
  /-- The children of the view. -/
  | content
  /-- The view repeated for each row. -/
  | rowTemplate
  /-- The view that a navigation link leads to. -/
  | destination
  /-- A label, header, footer or icon. -/
  | label
  /-- Nothing: the closure is an action. -/
  | ignore
deriving Repr, DecidableEq

/-- The name of a role. -/
def ClosureRole.name : ClosureRole → String
  | .content => "content"
  | .rowTemplate => "rowTemplate"
  | .destination => "destination"
  | .label => "label"
  | .ignore => "ignore"

/-- The views of a closure, with its role, its label and the name of its parameter. -/
structure Closure where
  role : ClosureRole
  label : Option String
  parameter : Option String
  views : List View
deriving Repr

/-- The role of a closure with a label. -/
def labeledRole (label : String) : ClosureRole :=
  match label with
  | "label" | "header" | "footer" | "icon" => .label
  | "content" | "detail" | "sidebar" => .content
  | "destination" => .destination
  | _ => .ignore

/-- The role of a closure without a label in a call with the given arguments.  The flag tells
whether the same call has a closure labeled `label`. -/
def unlabeledRole (kind : Kind) (arguments : Arguments) (hasLabelClosure : Bool) : ClosureRole :=
  match kind with
  | .button => if arguments.firstString?.isSome || hasLabelClosure then .ignore else .label
  | .navigationLink => if arguments.firstString?.isSome then .destination else .label
  | .toggle | .stepper | .link | .datePicker | .colorPicker | .progressView | .slider
  | .label => .label
  | .forEach => .rowTemplate
  | _ => if kind.isContainer then .content else .ignore

/-- The role of a closure in a call with the given arguments. -/
def closureRole (kind : Kind) (arguments : Arguments) (label : Option String)
    (hasLabelClosure : Bool) : ClosureRole :=
  match label with
  | some label => labeledRole label
  | none => unlabeledRole kind arguments hasLabelClosure

end ViewPreview.Call
