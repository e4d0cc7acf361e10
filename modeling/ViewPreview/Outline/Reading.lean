import ViewPreview.Call.Constructor
import ViewPreview.Outline.Basic
import ViewPreview.Outline.Caveat

/-!
# Views of Outlines

The view that an outline stands for, with the caveats that arise in source order.  An expression
stands for a view when its name is that of a constructor, or of a custom view, which is shown as a
placeholder.  Statements of any other form are left out with a caveat.
-/

namespace ViewPreview.Outline

/-- A value together with the caveats of reading it. -/
structure Reading (α : Type) where
  value : α
  caveats : List Caveat
deriving Repr

/-- Whether a name stands for a view, when it is called or when it stands by itself. -/
def namesView (name : String) (isCalled : Bool) : Bool :=
  match Kind.ofName? name with
  | some kind => isCalled || kind.isBareLeaf
  | none => isCalled && Call.isPlaceholderName name

/-- Whether an expression stands for a view. -/
def Expression.isView (expression : Expression) : Bool :=
  namesView expression.name expression.call.isSome

/-- An argument before the view of its expression is known. -/
def Argument.plain {E : Type} (argument : Argument E) : Call.Argument :=
  { label := argument.label, text := argument.text }

/-- The arguments of a call before the views of their expressions are known. -/
def Call.plain {E : Type} (call : Call E) : ViewPreview.Call.Arguments :=
  { values := call.arguments.map Argument.plain }

/-- Whether a call has a closure labeled `label`. -/
def Call.hasLabelClosure {E : Type} (call : Call E) : Bool :=
  call.closures.any fun closure ↦ closure.label == some "label"

/-- The view with the modifier that a link makes. -/
def addLink (line : Option Nat) (name : String) (arguments : ViewPreview.Call.Arguments)
    (base : Reading View) : Reading View :=
  let (modifier, error) := ViewPreview.Call.modifierOf name arguments
  ⟨base.value.addModifier modifier,
    base.caveats ++ error.toList.flatMap fun error ↦ (Problem.badArguments error).caveats line⟩

mutual

/-- The view that an expression stands for. -/
def Expression.view? : Expression → Option (Reading View)
  | ⟨name, call, links⟩ =>
    if namesView name call.isSome then
      some (followLinks (headView name call) links)
    else none

/-- The view that the name and call of an expression stand for, before its modifiers. -/
def headView (name : String) : Option (Call Expression) → Reading View
  | none => ⟨View.ofKind ((Kind.ofName? name).getD .custom), []⟩
  | some call =>
    match Kind.ofName? name with
    | some kind => constructedView kind call
    | none => ⟨View.placeholder name, []⟩

/-- The view that the call of a constructor makes. -/
def constructedView (kind : Kind) : Call Expression → Reading View
  | ⟨arguments, closures⟩ =>
    let values :=
      if kind.argumentsTakeViews then argumentViews arguments
      else ⟨arguments.map Argument.plain, []⟩
    let attached :=
      closureViews kind { values := values.value } (Call.hasLabelClosure ⟨arguments, closures⟩)
        closures
    ⟨ViewPreview.Call.build kind { values := values.value } attached.value,
      values.caveats ++ attached.caveats⟩

/-- The arguments of a call with the views of their expressions. -/
def argumentViews : List (Argument Expression) → Reading (List ViewPreview.Call.Argument)
  | [] => ⟨[], []⟩
  | argument :: arguments =>
    let first := argumentView argument
    let others := argumentViews arguments
    ⟨first.value :: others.value, first.caveats ++ others.caveats⟩

/-- An argument with the view of its expression. -/
def argumentView : Argument Expression → Reading ViewPreview.Call.Argument
  | ⟨label, text, expression⟩ =>
    match optionalView? expression with
    | some reading => ⟨⟨label, text, some reading.value⟩, reading.caveats⟩
    | none => ⟨⟨label, text, none⟩, []⟩

/-- The view that an expression stands for, if there is one. -/
def optionalView? : Option Expression → Option (Reading View)
  | some expression => expression.view?
  | none => none

/-- The closures of a constructor call with their roles and views.  Actions are not read. -/
def closureViews (kind : Kind) (arguments : ViewPreview.Call.Arguments) (hasLabelClosure : Bool) :
    List (Closure Expression) → Reading (List ViewPreview.Call.Closure)
  | [] => ⟨[], []⟩
  | closure :: closures =>
    let first := closureView kind arguments hasLabelClosure closure
    let others := closureViews kind arguments hasLabelClosure closures
    ⟨first.value :: others.value, first.caveats ++ others.caveats⟩

/-- A closure of a constructor call with its role and views. -/
def closureView (kind : Kind) (arguments : ViewPreview.Call.Arguments) (hasLabelClosure : Bool) :
    Closure Expression → Reading ViewPreview.Call.Closure
  | ⟨label, parameter, statements⟩ =>
    match ViewPreview.Call.closureRole kind arguments label hasLabelClosure with
    | .ignore => ⟨⟨.ignore, label, none, []⟩, []⟩
    | role =>
      let views := statementViews statements
      ⟨⟨role, label, parameter, views.value⟩, views.caveats⟩

/-- The views of a closure's statements. -/
def statementViews : List (Statement Expression) → Reading (List View)
  | [] => ⟨[], []⟩
  | statement :: statements =>
    let first := statementView statement
    let others := statementViews statements
    ⟨first.value ++ others.value, first.caveats ++ others.caveats⟩

/-- The view of a statement; a statement without one is left out with a caveat. -/
def statementView : Statement Expression → Reading (List View)
  | ⟨line, text, expression⟩ =>
    match optionalView? expression with
    | some reading => ⟨[reading.value], reading.caveats⟩
    | none => ⟨[], (Problem.skippedStatement (Text.snippet text)).caveats line⟩

/-- The view with the modifiers of a chain. -/
def followLinks (base : Reading View) : List (Link Expression) → Reading View
  | [] => base
  | link :: links => followLinks (followLink base link) links

/-- The view with the modifier of a link. -/
def followLink (base : Reading View) : Link Expression → Reading View
  | .unread line name => ⟨base.value, base.caveats ++ (Problem.unreadModifier name).caveats line⟩
  | .call line name ⟨arguments, closures⟩ =>
    let values :=
      if ViewPreview.Call.argumentTakesView name then argumentViews arguments
      else ⟨arguments.map Argument.plain, []⟩
    let trailing :=
      if ViewPreview.Call.closureTakesView name then trailingViews closures else ⟨[], []⟩
    addLink line name ⟨values.value, trailing.value⟩
      ⟨base.value, base.caveats ++ values.caveats ++ trailing.caveats⟩

/-- The views of a modifier's closures, one closure after the other. -/
def trailingViews : List (Closure Expression) → Reading (List View)
  | [] => ⟨[], []⟩
  | closure :: closures =>
    let first := trailingView closure
    let others := trailingViews closures
    ⟨first.value ++ others.value, first.caveats ++ others.caveats⟩

/-- The views of one closure of a modifier. -/
def trailingView : Closure Expression → Reading (List View)
  | ⟨_, _, statements⟩ => statementViews statements

end

/-- The view of a body with all caveats, or the failure to find one. -/
def Body.view (body : Body Caveat) : Except Failure (Reading View) :=
  match optionalView? body.expression with
  | some reading => .ok ⟨reading.value, body.caveats ++ reading.caveats⟩
  | none => .error (Failure.unsupported body.text)

end ViewPreview.Outline
