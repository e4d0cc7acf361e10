import ViewPreview.Call.Closure

/-!
# Constructor Calls

The view that the call of a constructor makes.  Each kind reads the properties it knows from the
arguments; the closures then add children, templates, destinations and labels in source order.
-/

namespace ViewPreview.Call

open ViewPreview.Text

/-- A property to set when there is a value for it. -/
abbrev OptionalProperty := String × Option (PropertyValue View)

/-! ## Properties -/

/-- A number property. -/
def numberEntry (key : String) (value : Option Float) : OptionalProperty :=
  (key, value.map .number)

/-- A text property. -/
def textEntry (key : String) (value : Option String) : OptionalProperty :=
  (key, value.map .text)

/-- A token property. -/
def tokenEntry (key : String) (value : Option String) : OptionalProperty :=
  (key, value.map .token)

/-- The text of a text view: the content of a string literal, else the argument as it is written. -/
def shownText (arguments : Arguments) : String :=
  match arguments.firstUnlabeled?.or (arguments.labeled? "verbatim") with
  | some argument =>
    if argument.isQuoted then (stringLiteral? argument.text).getD ""
    else String.ofList argument.text
  | none => ""

/-- The symbol or asset name of an image. -/
def imageSource (arguments : Arguments) : OptionalProperty :=
  match arguments.labeledString? "systemName" with
  | some symbol => ("systemName", some (.text symbol))
  | none =>
    let name := arguments.firstString?.or
      (arguments.firstUnlabeled?.map fun argument ↦ String.ofList argument.text)
    ("name", some (.text (name.getD "")))

/-- What a repetition runs over: a range, the elements of an array literal, or else a name, which
stands for a single row with that name as its value. -/
def rowSource (arguments : Arguments) : OptionalProperty :=
  match arguments.firstUnlabeled? with
  | none => ("forEachItems", none)
  | some source =>
    match range? source.text with
    | some range => ("forEachRange", some (.range range))
    | none =>
      match listItems? source.text with
      | some items => ("forEachItems", some (.list items))
      | none =>
        let name := (trim source.text).dropWhile (· == '$')
        ("forEachItems", some (.list [String.ofList name]))

/-- The colors of a gradient view. -/
def gradientColors (arguments : Arguments) : OptionalProperty :=
  ("colors",
    (((arguments.labeled? "colors").or (arguments.labeled? "gradient")).bind fun argument ↦
      firstList? argument.text).map .list)

/-- The value, total and range of a view that shows progress or a level. -/
def levelProperties (arguments : Arguments) : List OptionalProperty :=
  [numberEntry "value" (arguments.labeledNumber? "value"),
    numberEntry "total" (arguments.labeledNumber? "total"),
    ("range", ((arguments.labeled? "in").bind fun argument ↦ range? argument.text).map .range)]

/-- The properties that the arguments of a constructor set. -/
def argumentProperties (kind : Kind) (arguments : Arguments) : List OptionalProperty :=
  let title := textEntry "title" arguments.firstString?
  match kind with
  | .text => [textEntry "text" (some (shownText arguments))]
  | .image => [imageSource arguments]
  | .label => [title, textEntry "systemImage" (arguments.labeledString? "systemImage")]
  | .vStack | .hStack | .zStack | .lazyVStack | .lazyHStack | .grid =>
    [numberEntry "spacing" (arguments.labeledNumber? "spacing"),
      tokenEntry "alignment" (arguments.labeledToken? "alignment")]
  | .scrollView =>
    [tokenEntry "axis" (arguments.firstUnlabeled?.bind fun argument ↦ token? argument.text)]
  | .listSection =>
    [title, textEntry "header" (arguments.labeledString? "header"),
      textEntry "footer" (arguments.labeledString? "footer")]
  | .roundedRectangle => [numberEntry "cornerRadius" (arguments.labeledNumber? "cornerRadius")]
  | .spacer => [numberEntry "minLength" (arguments.labeledNumber? "minLength")]
  | .linearGradient | .radialGradient =>
    [gradientColors arguments, tokenEntry "startPoint" (arguments.labeledToken? "startPoint"),
      tokenEntry "endPoint" (arguments.labeledToken? "endPoint")]
  | .asyncImage => [textEntry "url" (arguments.labeledString? "url")]
  | .forEach => [rowSource arguments]
  | .button | .picker | .menu | .disclosureGroup | .stepper | .datePicker | .colorPicker => [title]
  | .textField | .secureField => [title, textEntry "text" (arguments.labeledString? "text")]
  | .textEditor => [textEntry "text" (arguments.labeledString? "text")]
  | .toggle =>
    [title,
      ("isOn",
        ((arguments.labeled? "isOn").bind fun argument ↦ boolLiteral? argument.text).map .bool)]
  | .slider => levelProperties arguments
  | .progressView => title :: levelProperties arguments
  | .link => [title, textEntry "url" (arguments.labeledString? "destination")]
  | .navigationLink =>
    [title, ("destination", ((arguments.labeled? "destination").bind Argument.view).map .view)]
  | _ => []

/-- The view with properties set. -/
def setProperties (view : View) (properties : List OptionalProperty) : View :=
  properties.foldl (fun view property ↦ view.set? property.1 property.2) view

/-! ## Closures -/

/-- The property that holds the views of a label closure, if they are not children. -/
def labelKey? (kind : Kind) (label : Option String) : Option String :=
  match label with
  | some "header" => some "header"
  | some "footer" => some "footer"
  | some "icon" => some "icon"
  | _ =>
    match kind with
    | .menu | .disclosureGroup | .picker | .listSection => some "label"
    | _ => none

/-- The view with a property set to some views, grouped when there are several; without views it
stays unset. -/
def setViews (view : View) (key : String) (views : List View) : View :=
  view.set? key ((View.single? .group views).map .view)

/-- The view with what a closure contributes. -/
def attach (view : View) (closure : Closure) : View :=
  match closure.role with
  | .ignore => view
  | .content =>
    if view.kind = .navigationSplitView then
      view.addChildren [View.around .group closure.views]
    else view.addChildren closure.views
  | .rowTemplate =>
    setViews (view.set? "rowVariable" (closure.parameter.map .text)) "rowTemplate" closure.views
  | .destination => setViews view "destination" closure.views
  | .label =>
    match labelKey? view.kind closure.label with
    | some key => setViews view key closure.views
    | none => view.addChildren closure.views

/-! ## Views -/

/-- The view that the call of a constructor makes. -/
def build (kind : Kind) (arguments : Arguments) (closures : List Closure) : View :=
  closures.foldl attach (setProperties (View.ofKind kind) (argumentProperties kind arguments))

/-- Whether a name that is no constructor stands for a custom view: a capitalized ASCII identifier
that ends in `View`. -/
def isPlaceholderName (name : String) : Bool :=
  match name.toList with
  | c :: rest =>
    (Kind.ofName? name).isNone && 'A' ≤ c && c ≤ 'Z' && rest.all isIdentifierPart &&
      endsWith "View" rest
  | [] => false

end ViewPreview.Call
