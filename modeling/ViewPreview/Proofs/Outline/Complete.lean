import ViewPreview.Outline.Reading

/-!
# Complete Readings

Reading an outline looks at the statements of the closures that contribute views, at the links of
modifier chains, and at the expressions in them.  A reading is complete when every
such statement is a view and every such link has arguments that can be read, at any depth.  It is
free of caveats exactly when that holds for what has a line; what has none is never reported.
-/

namespace ViewPreview.Outline

/-! ## What is read in an expression -/

/-- The arguments of a link that are read as views. -/
def Link.readArguments : Link Expression → List (Argument Expression)
  | .unread _ _ => []
  | .call _ name made => if ViewPreview.Call.argumentTakesView name then made.arguments else []

/-- The closures of a link that are read as views. -/
def Link.readClosures : Link Expression → List (Closure Expression)
  | .unread _ _ => []
  | .call _ name made => if ViewPreview.Call.closureTakesView name then made.closures else []

/-- The arguments of a link as its modifier gets them. -/
def Link.arguments : Link Expression → ViewPreview.Call.Arguments
  | .unread _ _ => {}
  | .call _ name made =>
    { values :=
        if ViewPreview.Call.argumentTakesView name then (argumentViews made.arguments).value
        else made.arguments.map Argument.plain
      trailing :=
        if ViewPreview.Call.closureTakesView name then (trailingViews made.closures).value else [] }

/-- The line of a link. -/
def Link.line? : Link Expression → Option Nat
  | .call line _ _ => line
  | .unread line _ => line

/-- The call that a link makes. -/
def Link.call? : Link Expression → Option (Call Expression)
  | .call _ _ made => some made
  | .unread _ _ => none

/-- Whether the arguments of a link can be told apart and read. -/
def Link.IsRead : Link Expression → Prop
  | .unread _ _ => False
  | .call line name made =>
    (ViewPreview.Call.modifierOf name (Link.call line name made).arguments).2 = none

/-- The arguments of a constructor call that are read as views. -/
def readArguments (kind : Kind) (call : Call Expression) : List (Argument Expression) :=
  if kind.argumentsTakeViews then call.arguments else []

/-- The arguments of a constructor call as the constructor gets them. -/
def constructorArguments (kind : Kind) (call : Call Expression) : ViewPreview.Call.Arguments :=
  { values :=
      if kind.argumentsTakeViews then (argumentViews call.arguments).value
      else call.arguments.map Argument.plain }

/-- The closures of a constructor call that contribute views. -/
def readClosures (kind : Kind) (call : Call Expression) : List (Closure Expression) :=
  call.closures.filter fun closure ↦
    ViewPreview.Call.closureRole kind (constructorArguments kind call) closure.label
      call.hasLabelClosure != .ignore

namespace Expression

/-- The calls that an expression consists of. -/
def calls (expression : Expression) : List (Call Expression) :=
  expression.call.toList ++ expression.links.filterMap Link.call?

/-- The constructor that an expression calls and the call, if it has a kind of its own. -/
def constructor? (expression : Expression) : Option (Kind × Call Expression) :=
  match Kind.ofName? expression.name, expression.call with
  | some kind, some call => some (kind, call)
  | _, _ => none

/-- The arguments that are read as views in an expression. -/
def readArguments (expression : Expression) : List (Argument Expression) :=
  (expression.constructor?.toList.flatMap fun made ↦ Outline.readArguments made.1 made.2) ++
    expression.links.flatMap Link.readArguments

/-- The statements that are read as views in an expression. -/
def readStatements (expression : Expression) : List (Statement Expression) :=
  ((expression.constructor?.toList.flatMap fun made ↦ Outline.readClosures made.1 made.2) ++
    expression.links.flatMap Link.readClosures).flatMap Closure.statements

/-- The expressions of views that are read directly inside an expression. -/
def inner (expression : Expression) : List Expression :=
  (expression.readArguments.filterMap Argument.expression ++
    expression.readStatements.filterMap Statement.expression).filter isView

/-- The expressions that are read inside an expression at any depth, itself included. -/
inductive Holds : (outer inner : Expression) → Prop
  | self (expression : Expression) : Holds expression expression
  | inside {outer middle inner : Expression} (direct : middle ∈ outer.inner)
      (deeper : Holds middle inner) : Holds outer inner

end Expression

/-- Whether a statement is a view. -/
def Statement.IsRead (statement : Statement Expression) : Prop :=
  ∃ expression, statement.expression = some expression ∧ expression.isView = true

/-- Whether every statement that is read in an expression, at any depth, is a view, and the
arguments of every link can be read. -/
def Expression.Complete (expression : Expression) : Prop :=
  ∀ inner, expression.Holds inner →
    (∀ statement ∈ inner.readStatements, statement.IsRead) ∧ ∀ link ∈ inner.links, link.IsRead

/-- Whether everything with a line that is read directly in an expression can be read. -/
def Expression.IsReadWhereLocated (expression : Expression) : Prop :=
  (∀ statement ∈ expression.readStatements, statement.line = none ∨ statement.IsRead) ∧
    ∀ link ∈ expression.links, link.line? = none ∨ link.IsRead

/-- Whether everything with a line that is read in an expression, at any depth, can be read. -/
def Expression.CompleteWhereLocated (expression : Expression) : Prop :=
  ∀ inner, expression.Holds inner → inner.IsReadWhereLocated

/-! ## What is read in an expression stands in its calls -/

section Calls

variable {expression : Expression}

theorem mem_of_mem_if {α : Type} {condition : Bool} {items : List α} {item : α}
    (member : item ∈ if condition then items else []) : item ∈ items := by
  cases condition with
  | false => cases member
  | true => exact member

/-- A constructor is called by the call that the expression begins with. -/
theorem call_of_constructor? {made : Kind × Call Expression}
    (found : made ∈ expression.constructor?.toList) : expression.call = some made.2 := by
  rw [Option.mem_toList, Expression.constructor?] at found
  split at found
  · next kind written _ called =>
    cases found
    exact called
  · cases found

theorem mem_calls_of_constructor? {made : Kind × Call Expression}
    (found : made ∈ expression.constructor?.toList) : made.2 ∈ expression.calls := by
  rw [Expression.calls, call_of_constructor? found]
  exact List.mem_append_left _ (List.mem_singleton.mpr rfl)

theorem exists_call_of_mem_readArguments {argument : Argument Expression}
    (member : argument ∈ expression.readArguments) :
    ∃ call ∈ expression.calls, argument ∈ call.arguments := by
  rcases List.mem_append.mp member with ofHead | ofLinks
  · obtain ⟨made, found, ofCall⟩ := List.mem_flatMap.mp ofHead
    exact ⟨made.2, mem_calls_of_constructor? found, mem_of_mem_if ofCall⟩
  · obtain ⟨link, found, ofLink⟩ := List.mem_flatMap.mp ofLinks
    cases link with
    | unread line name => cases ofLink
    | call line name made =>
      exact ⟨made, List.mem_append_right _ (List.mem_filterMap.mpr ⟨_, found, rfl⟩),
        mem_of_mem_if ofLink⟩

theorem exists_call_of_mem_readStatements {statement : Statement Expression}
    (member : statement ∈ expression.readStatements) :
    ∃ call ∈ expression.calls, ∃ closure ∈ call.closures, statement ∈ closure.statements := by
  obtain ⟨closure, read, inside⟩ := List.mem_flatMap.mp member
  rcases List.mem_append.mp read with ofHead | ofLinks
  · obtain ⟨made, found, ofCall⟩ := List.mem_flatMap.mp ofHead
    exact ⟨made.2, mem_calls_of_constructor? found, closure, (List.mem_filter.mp ofCall).1, inside⟩
  · obtain ⟨link, found, ofLink⟩ := List.mem_flatMap.mp ofLinks
    cases link with
    | unread line name => cases ofLink
    | call line name made =>
      exact ⟨made, List.mem_append_right _ (List.mem_filterMap.mpr ⟨_, found, rfl⟩), closure,
        mem_of_mem_if ofLink, inside⟩

end Calls

/-! ## What is read in an expression is smaller -/

theorem Argument.sizeOf_lt {argument : Argument Expression} {inner : Expression}
    (found : argument.expression = some inner) : sizeOf inner < sizeOf argument := by
  obtain ⟨label, text, expression⟩ := argument
  cases found
  simp only [Argument.mk.sizeOf_spec, Option.some.sizeOf_spec]
  omega

theorem Statement.sizeOf_lt {statement : Statement Expression} {inner : Expression}
    (found : statement.expression = some inner) : sizeOf inner < sizeOf statement := by
  obtain ⟨line, text, expression⟩ := statement
  cases found
  simp only [Statement.mk.sizeOf_spec, Option.some.sizeOf_spec]
  omega

theorem Closure.sizeOf_lt {closure : Closure Expression} {statement : Statement Expression}
    (member : statement ∈ closure.statements) : sizeOf statement < sizeOf closure := by
  obtain ⟨label, parameter, statements⟩ := closure
  have := List.sizeOf_lt_of_mem member
  simp only [Closure.mk.sizeOf_spec] at *
  omega

theorem Call.sizeOf_argument_lt {call : Call Expression} {argument : Argument Expression}
    (member : argument ∈ call.arguments) : sizeOf argument < sizeOf call := by
  obtain ⟨arguments, closures⟩ := call
  have := List.sizeOf_lt_of_mem member
  simp only [Call.mk.sizeOf_spec] at *
  omega

theorem Call.sizeOf_closure_lt {call : Call Expression} {closure : Closure Expression}
    (member : closure ∈ call.closures) : sizeOf closure < sizeOf call := by
  obtain ⟨arguments, closures⟩ := call
  have := List.sizeOf_lt_of_mem member
  simp only [Call.mk.sizeOf_spec] at *
  omega

namespace Expression

variable {expression inner : Expression}

theorem sizeOf_call_lt {call : Call Expression} (member : call ∈ expression.calls) :
    sizeOf call < sizeOf expression := by
  obtain ⟨name, own, links⟩ := expression
  simp only [Expression.mk.sizeOf_spec]
  rcases List.mem_append.mp member with ofHead | ofLink
  · change call ∈ own.toList at ofHead
    rw [Option.mem_toList.mp ofHead, Option.some.sizeOf_spec]
    omega
  · obtain ⟨link, inside, makes⟩ := List.mem_filterMap.mp ofLink
    have smaller := List.sizeOf_lt_of_mem inside
    cases link with
    | unread line name => cases makes
    | call line name made =>
      cases makes
      simp only [Link.call.sizeOf_spec] at smaller
      omega

theorem sizeOf_inner_lt (member : inner ∈ expression.inner) : sizeOf inner < sizeOf expression := by
  rcases List.mem_append.mp (List.mem_filter.mp member).1 with ofArgument | ofStatement
  · obtain ⟨argument, read, found⟩ := List.mem_filterMap.mp ofArgument
    obtain ⟨call, consists, inside⟩ := exists_call_of_mem_readArguments read
    calc sizeOf inner
      _ < sizeOf argument := Argument.sizeOf_lt found
      _ < sizeOf call := Call.sizeOf_argument_lt inside
      _ < sizeOf expression := sizeOf_call_lt consists
  · obtain ⟨statement, read, found⟩ := List.mem_filterMap.mp ofStatement
    obtain ⟨call, consists, closure, inside, deeper⟩ := exists_call_of_mem_readStatements read
    calc sizeOf inner
      _ < sizeOf statement := Statement.sizeOf_lt found
      _ < sizeOf closure := Closure.sizeOf_lt deeper
      _ < sizeOf call := Call.sizeOf_closure_lt inside
      _ < sizeOf expression := sizeOf_call_lt consists

end Expression

/-! ## Caveats of the parts -/

/-- The caveats of the view that an expression stands for, if it stands for one. -/
def Expression.caveats (expression : Expression) : List Caveat :=
  (expression.view?.map Reading.caveats).getD []

theorem Expression.view?_of_isView {expression : Expression} (isView : expression.isView = true) :
    expression.view? =
      some (followLinks (headView expression.name expression.call) expression.links) := by
  obtain ⟨name, call, links⟩ := expression
  rw [Expression.view?]
  exact if_pos isView

theorem Expression.view?_of_not_isView {expression : Expression}
    (noView : expression.isView = false) : expression.view? = none := by
  obtain ⟨name, call, links⟩ := expression
  rw [Expression.view?]
  exact if_neg (Bool.eq_false_iff.mp noView)

theorem Expression.isView_of_view? {expression : Expression} {reading : Reading View}
    (read : expression.view? = some reading) : expression.isView = true := by
  refine Bool.of_not_eq_false fun noView ↦ ?_
  rw [Expression.view?_of_not_isView noView] at read
  cases read

theorem Expression.caveats_of_view? {expression : Expression} {reading : Reading View}
    (read : expression.view? = some reading) : expression.caveats = reading.caveats := by
  rw [Expression.caveats, read]
  rfl

theorem Problem.caveats_eq_nil_iff (problem : Problem) (line : Option Nat) :
    problem.caveats line = [] ↔ line = none := by
  rw [Problem.caveats, List.map_eq_nil_iff]
  exact Option.toList_eq_nil_iff

theorem caveats_argumentView (argument : Argument Expression) :
    (argumentView argument).caveats = [] ↔
      ∀ inner, argument.expression = some inner → inner.caveats = [] := by
  obtain ⟨label, text, _ | expression⟩ := argument
  · refine ⟨?_, fun _ ↦ rfl⟩
    rintro - inner ⟨⟩
  · have same : (argumentView ⟨label, text, some expression⟩).caveats = expression.caveats := by
      rw [argumentView, optionalView?, Expression.caveats]
      cases expression.view? with
      | none => rfl
      | some reading => rfl
    rw [same]
    exact ⟨fun none _ found ↦ Option.some.inj found ▸ none, fun all ↦ all expression rfl⟩

theorem caveats_statementView (statement : Statement Expression) :
    (statementView statement).caveats = [] ↔
      (statement.line = none ∨ statement.IsRead) ∧
        ∀ inner, statement.expression = some inner → inner.caveats = [] := by
  obtain ⟨line, text, _ | expression⟩ := statement
  · rw [statementView, optionalView?, Problem.caveats_eq_nil_iff]
    refine ⟨fun unplaced ↦ ⟨.inl unplaced, fun _ found ↦ nomatch found⟩, ?_⟩
    rintro ⟨unplaced | ⟨_, ⟨⟩, _⟩, -⟩
    exact unplaced
  · rw [statementView, optionalView?]
    cases isView : expression.isView with
    | false =>
      rw [Expression.view?_of_not_isView isView, Problem.caveats_eq_nil_iff]
      constructor
      · intro unplaced
        refine ⟨.inl unplaced, fun inner found ↦ ?_⟩
        rw [← Option.some.inj found, Expression.caveats, Expression.view?_of_not_isView isView]
        rfl
      · rintro ⟨unplaced | ⟨_, ⟨⟩, isView'⟩, -⟩
        · exact unplaced
        · rw [isView] at isView'
          cases isView'
    | true =>
      have read := Expression.view?_of_isView isView
      rw [read]
      constructor
      · intro none
        refine ⟨.inr ⟨expression, rfl, isView⟩, fun inner found ↦ ?_⟩
        rw [← Option.some.inj found, Expression.caveats_of_view? read]
        exact none
      · rintro ⟨-, all⟩
        rw [← Expression.caveats_of_view? read]
        exact all expression rfl

/-! ## Caveats in order -/

/-- The caveats of the views in some arguments. -/
def argumentsCaveats (arguments : List (Argument Expression)) : List Caveat :=
  arguments.flatMap fun argument ↦ (argumentView argument).caveats

/-- The caveats of the statements in some closures. -/
def closuresCaveats (closures : List (Closure Expression)) : List Caveat :=
  (closures.flatMap Closure.statements).flatMap fun statement ↦ (statementView statement).caveats

/-- What is wrong with a link. -/
def Link.problems : Link Expression → List Problem
  | .unread _ name => [.unreadModifier name]
  | .call line name made =>
    (ViewPreview.Call.modifierOf name (Link.call line name made).arguments).2.toList.map
      .badArguments

/-- A problem of a link is that it is not understood, or that its arguments are not. -/
theorem Link.exists_of_mem_problems (link : Link Expression) {problem : Problem}
    (member : problem ∈ link.problems) :
    (∃ name, problem = .unreadModifier name) ∨ ∃ error, problem = .badArguments error := by
  cases link with
  | unread line name => exact .inl ⟨name, List.mem_singleton.mp member⟩
  | call line name made =>
    obtain ⟨error, -, same⟩ := List.mem_map.mp member
    exact .inr ⟨error, same.symm⟩

/-- The caveats of a link and of what is read in it. -/
def Link.caveats (link : Link Expression) : List Caveat :=
  argumentsCaveats link.readArguments ++ closuresCaveats link.readClosures ++
    link.problems.flatMap fun problem ↦ problem.caveats link.line?

theorem closuresCaveats_append (first second : List (Closure Expression)) :
    closuresCaveats (first ++ second) = closuresCaveats first ++ closuresCaveats second := by
  rw [closuresCaveats, List.flatMap_append, List.flatMap_append]
  rfl

theorem caveats_argumentViews (arguments : List (Argument Expression)) :
    (argumentViews arguments).caveats = argumentsCaveats arguments := by
  induction arguments with
  | nil => rfl
  | cons argument arguments ih =>
    rw [argumentsCaveats, List.flatMap_cons, ← argumentsCaveats, ← ih, argumentViews]

/-- The views in some arguments are looked at only if they are asked for. -/
theorem caveats_argumentsIf (asked : Bool) (arguments : List (Argument Expression)) :
    (if asked then argumentViews arguments
      else (⟨arguments.map Argument.plain, []⟩ : Reading _)).caveats =
        argumentsCaveats (if asked then arguments else []) := by
  cases asked with
  | false => rfl
  | true => exact caveats_argumentViews arguments

theorem caveats_statementViews (statements : List (Statement Expression)) :
    (statementViews statements).caveats =
      statements.flatMap fun statement ↦ (statementView statement).caveats := by
  induction statements with
  | nil => rfl
  | cons statement statements ih => rw [List.flatMap_cons, ← ih, statementViews]

theorem caveats_trailingViews (closures : List (Closure Expression)) :
    (trailingViews closures).caveats = closuresCaveats closures := by
  induction closures with
  | nil => rfl
  | cons closure closures ih =>
    rw [closuresCaveats, List.flatMap_cons, List.flatMap_append, ← caveats_statementViews,
      ← closuresCaveats, ← ih, trailingViews, trailingView]

section Closures

variable (kind : Kind) (arguments : ViewPreview.Call.Arguments) (hasLabelClosure : Bool)

/-- Whether a closure of a call contributes to its view. -/
def Closure.counts (closure : Closure Expression) : Bool :=
  ViewPreview.Call.closureRole kind arguments closure.label hasLabelClosure != .ignore

theorem caveats_closureView (closure : Closure Expression) :
    (closureView kind arguments hasLabelClosure closure).caveats =
      closuresCaveats (if closure.counts kind arguments hasLabelClosure then [closure] else []) := by
  obtain ⟨label, parameter, statements⟩ := closure
  have whole : closuresCaveats [⟨label, parameter, statements⟩] =
      (statementViews statements).caveats := by
    rw [caveats_statementViews, closuresCaveats, List.flatMap_singleton]
  rw [closureView, Closure.counts]
  cases ViewPreview.Call.closureRole kind arguments label hasLabelClosure with
  | ignore => rfl
  | content => exact whole.symm
  | rowTemplate => exact whole.symm
  | destination => exact whole.symm
  | label => exact whole.symm

theorem caveats_closureViews (closures : List (Closure Expression)) :
    (closureViews kind arguments hasLabelClosure closures).caveats =
      closuresCaveats (closures.filter (Closure.counts kind arguments hasLabelClosure)) := by
  induction closures with
  | nil => rfl
  | cons closure closures ih =>
    have split : (closure :: closures).filter (Closure.counts kind arguments hasLabelClosure) =
        (if closure.counts kind arguments hasLabelClosure then [closure] else []) ++
          closures.filter (Closure.counts kind arguments hasLabelClosure) := by
      rw [List.filter_cons]
      split
      · rfl
      · rfl
    rw [split, closuresCaveats_append, ← caveats_closureView, ← ih, closureViews]

end Closures

/-! ## Caveats of a view -/

theorem caveats_constructedView (kind : Kind) (call : Call Expression) :
    (constructedView kind call).caveats =
      argumentsCaveats (readArguments kind call) ++ closuresCaveats (readClosures kind call) := by
  obtain ⟨arguments, closures⟩ := call
  rw [constructedView]
  dsimp only
  rw [caveats_argumentsIf, caveats_closureViews, readArguments, readClosures,
    constructorArguments]
  cases kind.argumentsTakeViews with
  | false => rfl
  | true => rfl

theorem caveats_headView (name : String) (call : Option (Call Expression))
    (links : List (Link Expression)) :
    (headView name call).caveats =
      (⟨name, call, links⟩ : Expression).constructor?.toList.flatMap fun made ↦
        argumentsCaveats (readArguments made.1 made.2) ++
          closuresCaveats (readClosures made.1 made.2) := by
  rw [Expression.constructor?]
  cases call with
  | none =>
    rw [headView]
    cases Kind.ofName? name with
    | none => rfl
    | some kind => rfl
  | some call =>
    rw [headView]
    cases Kind.ofName? name with
    | none => rfl
    | some kind =>
      rw [Option.toList_some, List.flatMap_singleton]
      exact caveats_constructedView kind call

theorem caveats_followLink (base : Reading View) (link : Link Expression) :
    (followLink base link).caveats = base.caveats ++ link.caveats := by
  cases link with
  | unread line name =>
    rw [followLink, Link.caveats, Link.problems, List.flatMap_singleton]
    rfl
  | call line name made =>
    obtain ⟨arguments, closures⟩ := made
    have trailing : (if ViewPreview.Call.closureTakesView name then trailingViews closures
        else (⟨[], []⟩ : Reading _)).caveats =
          closuresCaveats (Link.call line name ⟨arguments, closures⟩).readClosures := by
      rw [Link.readClosures]
      cases ViewPreview.Call.closureTakesView name with
      | false => rfl
      | true => exact caveats_trailingViews closures
    rw [Link.caveats, ← trailing, Link.readArguments, ← caveats_argumentsIf, Link.problems,
      List.flatMap_map, followLink, addLink, Link.arguments, ← List.append_assoc,
      ← List.append_assoc]
    cases ViewPreview.Call.argumentTakesView name
    all_goals
      cases ViewPreview.Call.closureTakesView name
      all_goals rfl

theorem caveats_followLinks (base : Reading View) (links : List (Link Expression)) :
    (followLinks base links).caveats = base.caveats ++ links.flatMap Link.caveats := by
  induction links generalizing base with
  | nil => exact (List.append_nil _).symm
  | cons link links ih =>
    rw [followLinks, ih, caveats_followLink, List.flatMap_cons, List.append_assoc]

/-- The caveats of a view: those of its call and those of its links. -/
theorem Expression.caveats_eq {expression : Expression} (isView : expression.isView = true) :
    expression.caveats =
      (expression.constructor?.toList.flatMap fun made ↦
        argumentsCaveats (Outline.readArguments made.1 made.2) ++
          closuresCaveats (Outline.readClosures made.1 made.2)) ++
        expression.links.flatMap Link.caveats := by
  obtain ⟨name, call, links⟩ := expression
  rw [Expression.caveats_of_view? (Expression.view?_of_isView isView), caveats_followLinks,
    caveats_headView name call links]

theorem Link.caveats_problems_eq_nil_iff (link : Link Expression) :
    (link.problems.flatMap fun problem ↦ problem.caveats link.line?) = [] ↔
      link.line? = none ∨ link.IsRead := by
  cases link with
  | unread line name =>
    rw [Link.problems, List.flatMap_singleton, Problem.caveats_eq_nil_iff]
    exact ⟨.inl, fun either ↦ either.resolve_right id⟩
  | call line name made =>
    rw [Link.problems, Link.IsRead]
    cases (ViewPreview.Call.modifierOf name (Link.call line name made).arguments).2 with
    | none => exact iff_of_true rfl (.inr rfl)
    | some error =>
      rw [Option.toList_some, List.map_singleton, List.flatMap_singleton,
        Problem.caveats_eq_nil_iff]
      exact ⟨.inl, fun either ↦ either.resolve_right (Option.some_ne_none error)⟩

namespace Expression

variable {expression : Expression}

/-- A view is free of caveats when its arguments, its statements and its links are. -/
theorem caveats_eq_nil_iff_parts (isView : expression.isView = true) :
    expression.caveats = [] ↔
      (∀ argument ∈ expression.readArguments, (argumentView argument).caveats = []) ∧
        (∀ statement ∈ expression.readStatements, (statementView statement).caveats = []) ∧
          ∀ link ∈ expression.links, link.line? = none ∨ link.IsRead := by
  simp only [caveats_eq isView, Link.caveats, argumentsCaveats, closuresCaveats,
    List.append_eq_nil_iff, List.flatMap_eq_nil_iff, readArguments, readStatements,
    ← Link.caveats_problems_eq_nil_iff, List.forall_mem_append, List.forall_mem_flatMap, imp_and,
    forall_and]
  constructor
  · rintro ⟨⟨headArguments, headStatements⟩, ⟨linkArguments, linkStatements⟩, links⟩
    exact ⟨⟨headArguments, linkArguments⟩, ⟨headStatements, linkStatements⟩, links⟩
  · rintro ⟨⟨headArguments, linkArguments⟩, ⟨headStatements, linkStatements⟩, links⟩
    exact ⟨⟨headArguments, headStatements⟩, ⟨linkArguments, linkStatements⟩, links⟩

theorem caveats_of_not_isView (noView : expression.isView = false) : expression.caveats = [] := by
  rw [caveats, view?_of_not_isView noView]
  rfl

theorem caveats_inner (expression : Expression) :
    (∀ inner ∈ expression.inner, inner.caveats = []) ↔
      (∀ argument ∈ expression.readArguments,
        ∀ inner, argument.expression = some inner → inner.caveats = []) ∧
      ∀ statement ∈ expression.readStatements,
        ∀ inner, statement.expression = some inner → inner.caveats = [] := by
  have either (inner : Expression) : (inner.isView = true → inner.caveats = []) ↔
      inner.caveats = [] := by
    refine ⟨fun none ↦ ?_, fun none _ ↦ none⟩
    cases isView : inner.isView with
    | false => exact caveats_of_not_isView isView
    | true => exact none isView
  simp only [inner, List.mem_filter, and_imp, either, List.forall_mem_append,
    List.forall_mem_filterMap]

/-- A view is free of caveats when everything read directly in it can be read and every view in it
is free of caveats. -/
theorem caveats_eq_nil_iff_inner (isView : expression.isView = true) :
    expression.caveats = [] ↔
      expression.IsReadWhereLocated ∧ ∀ inner ∈ expression.inner, inner.caveats = [] := by
  rw [caveats_eq_nil_iff_parts isView, caveats_inner, IsReadWhereLocated]
  simp only [caveats_argumentView, caveats_statementView, imp_and, forall_and]
  constructor
  · rintro ⟨arguments, ⟨statements, deeper⟩, links⟩
    exact ⟨⟨statements, links⟩, arguments, deeper⟩
  · rintro ⟨⟨statements, links⟩, arguments, deeper⟩
    exact ⟨arguments, ⟨statements, deeper⟩, links⟩

theorem isView_of_mem_inner {inner : Expression} (member : inner ∈ expression.inner) :
    inner.isView = true :=
  (List.mem_filter.mp member).2

/-- A view is free of caveats exactly when everything with a line that is read in it can be read. -/
theorem caveats_eq_nil_iff {expression : Expression} (isView : expression.isView = true) :
    expression.caveats = [] ↔ expression.CompleteWhereLocated := by
  constructor
  · intro none inner holds
    induction holds with
    | self expression => exact ((caveats_eq_nil_iff_inner isView).mp none).1
    | inside direct _ ih =>
      exact ih (isView_of_mem_inner direct) (((caveats_eq_nil_iff_inner isView).mp none).2 _ direct)
  · intro complete
    refine (caveats_eq_nil_iff_inner isView).mpr ⟨complete expression (.self expression), ?_⟩
    intro inner member
    exact (caveats_eq_nil_iff (isView_of_mem_inner member)).mpr fun deepest holds ↦
      complete deepest (.inside member holds)
termination_by sizeOf expression
decreasing_by exact sizeOf_inner_lt member

end Expression

end ViewPreview.Outline
