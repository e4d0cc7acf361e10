import ViewPreview.Proofs.Outline.Complete

/-!
# Translating with a Report

Views may also be made of outlines step by step, with a report to which each caveat is added when it
is met.  The link of a chain asks for the view of what it is called on before it looks at its own
arguments, and a constructor decides on its name before it looks at anything else, so a translation
that ends without a view has not come to the point of reporting.  Both ways make the same views, and
the report grows by the caveats of the reading.
-/

namespace ViewPreview.Outline

/-! ## Reports -/

/-- A step of a translation that adds caveats to a report. -/
abbrev Reporting := StateM (List Caveat)

/-- Add a problem to the report. -/
def report (problem : Problem) (line : Option Nat) : Reporting Unit :=
  modify fun caveats ↦ caveats ++ problem.caveats line

/-- The value of a reading, with its caveats added to the report. -/
def Reading.tell {α : Type} (reading : Reading α) : Reporting α :=
  fun caveats ↦ (reading.value, caveats ++ reading.caveats)

/-- The value of a reading if there is one; without one nothing is added to the report. -/
def tell? {α : Type} : Option (Reading α) → Reporting (Option α)
  | some reading => some <$> reading.tell
  | none => pure none

section Tell

variable {α β : Type}

theorem pure_eq_tell (value : α) : (pure value : Reporting α) = Reading.tell ⟨value, []⟩ := by
  funext caveats
  exact congrArg (Prod.mk value) (List.append_nil caveats).symm

theorem report_eq_tell (problem : Problem) (line : Option Nat) :
    report problem line = Reading.tell ⟨(), problem.caveats line⟩ :=
  rfl

/-- Two readings one after the other. -/
theorem tell_bind (reading : Reading α) (next : α → Reading β) :
    (reading.tell >>= fun value ↦ (next value).tell) =
      Reading.tell ⟨(next reading.value).value,
        reading.caveats ++ (next reading.value).caveats⟩ := by
  funext caveats
  exact congrArg (Prod.mk (next reading.value).value) (List.append_assoc caveats _ _)

theorem fst_tell?_eq_none_iff {reading : Option (Reading α)} {caveats : List Caveat} :
    (tell? reading caveats).1 = none ↔ reading = none := by
  cases reading with
  | none => exact iff_of_true rfl rfl
  | some reading => exact iff_of_false (Option.some_ne_none _) (Option.some_ne_none _)

end Tell

/-! ## Translations -/

/-- Add the modifier of a link to a view; what is wrong with its arguments is reported. -/
def pushModifier (line : Option Nat) (name : String) (arguments : ViewPreview.Call.Arguments)
    (base : View) : Reporting View :=
  match ViewPreview.Call.interpret name arguments with
  | .ok value => pure (base.addModifier ⟨name, value⟩)
  | .error error => do
    report (.badArguments error) line
    pure (base.addModifier (.bare name))

/-- Go on with the view that a translation ends with, if it ends with one. -/
def onView (target : Reporting (Option View)) (next : View → Reporting View) :
    Reporting (Option View) := do
  match ← target with
  | some base => some <$> next base
  | none => pure none

mutual

/-- Translate an expression: the links of its chain from the last one on, each of which asks for the
translation of what it is called on. -/
def Expression.translate : Expression → Reporting (Option View)
  | ⟨name, call, links⟩ => translateLinks (translateHead name call) links

/-- Translate the name and call of an expression. -/
def translateHead (name : String) : Option (Call Expression) → Reporting (Option View)
  | none =>
    match Kind.ofName? name with
    | some kind => pure (if kind.isBareLeaf then some (View.ofKind kind) else none)
    | none => pure none
  | some call =>
    match Kind.ofName? name with
    | some kind => some <$> construct kind call
    | none =>
      pure (if ViewPreview.Call.isPlaceholderName name then some (View.placeholder name) else none)

/-- Translate the call of a constructor. -/
def construct (kind : Kind) : Call Expression → Reporting View
  | ⟨arguments, closures⟩ => do
    let values ←
      if kind.argumentsTakeViews then translateArguments arguments
      else pure (arguments.map Argument.plain)
    let attached ←
      translateClosures kind { values } (Call.hasLabelClosure ⟨arguments, closures⟩) closures
    pure (ViewPreview.Call.build kind { values } attached)

/-- Translate the arguments of a call. -/
def translateArguments : List (Argument Expression) → Reporting (List ViewPreview.Call.Argument)
  | [] => pure []
  | argument :: arguments => do
    let first ← translateArgument argument
    let others ← translateArguments arguments
    pure (first :: others)

/-- Translate an argument. -/
def translateArgument : Argument Expression → Reporting ViewPreview.Call.Argument
  | ⟨label, text, expression⟩ => do
    let view ← attempt expression
    pure ⟨label, text, view⟩

/-- Translate what may be an expression. -/
def attempt : Option Expression → Reporting (Option View)
  | some expression => expression.translate
  | none => pure none

/-- Translate the closures of a constructor call. -/
def translateClosures (kind : Kind) (arguments : ViewPreview.Call.Arguments)
    (hasLabelClosure : Bool) :
    List (Closure Expression) → Reporting (List ViewPreview.Call.Closure)
  | [] => pure []
  | closure :: closures => do
    let first ← translateClosure kind arguments hasLabelClosure closure
    let others ← translateClosures kind arguments hasLabelClosure closures
    pure (first :: others)

/-- Translate a closure of a constructor call. -/
def translateClosure (kind : Kind) (arguments : ViewPreview.Call.Arguments)
    (hasLabelClosure : Bool) : Closure Expression → Reporting ViewPreview.Call.Closure
  | ⟨label, parameter, statements⟩ =>
    match ViewPreview.Call.closureRole kind arguments label hasLabelClosure with
    | .ignore => pure ⟨.ignore, label, none, []⟩
    | role => do
      let views ← translateStatements statements
      pure ⟨role, label, parameter, views⟩

/-- Translate the statements of a closure. -/
def translateStatements : List (Statement Expression) → Reporting (List View)
  | [] => pure []
  | statement :: statements => do
    let first ← translateStatement statement
    let others ← translateStatements statements
    pure (first ++ others)

/-- Translate a statement; one that is no view is reported. -/
def translateStatement : Statement Expression → Reporting (List View)
  | ⟨line, text, expression⟩ => do
    match ← attempt expression with
    | some view => pure [view]
    | none => do
      report (.skippedStatement (Text.snippet text)) line
      pure []

/-- Translate a chain of links, given the translation of what it is called on. -/
def translateLinks (target : Reporting (Option View)) :
    List (Link Expression) → Reporting (Option View)
  | [] => target
  | link :: links => translateLinks (onView target fun base ↦ follow base link) links

/-- Add the modifier of a link to a view. -/
def follow (base : View) : Link Expression → Reporting View
  | .unread line name => do
    report (.unreadModifier name) line
    pure base
  | .call line name ⟨arguments, closures⟩ => do
    let values ←
      if ViewPreview.Call.argumentTakesView name then translateArguments arguments
      else pure (arguments.map Argument.plain)
    let trailing ←
      if ViewPreview.Call.closureTakesView name then translateTrailing closures else pure []
    pushModifier line name ⟨values, trailing⟩ base

/-- Translate the closures of a modifier. -/
def translateTrailing : List (Closure Expression) → Reporting (List View)
  | [] => pure []
  | closure :: closures => do
    let first ← translateTrailingClosure closure
    let others ← translateTrailing closures
    pure (first ++ others)

/-- Translate a closure of a modifier. -/
def translateTrailingClosure : Closure Expression → Reporting (List View)
  | ⟨_, _, statements⟩ => translateStatements statements

end

/-! ## Translations are readings -/

theorem pushModifier_eq (line : Option Nat) (name : String)
    (arguments : ViewPreview.Call.Arguments) (base : View) :
    pushModifier line name arguments base = (addLink line name arguments ⟨base, []⟩).tell := by
  unfold pushModifier addLink ViewPreview.Call.modifierOf
  cases ViewPreview.Call.interpret name arguments with
  | ok value => exact pure_eq_tell _
  | error error =>
    show (report (.badArguments error) line >>= fun _ ↦ pure _) = _
    simp only [report_eq_tell, pure_eq_tell, tell_bind]
    rfl

/-- A modifier is added after its arguments and its closures have been read. -/
theorem pushModifier_readings (line : Option Nat) (name : String) (base : View)
    (values : Reading (List ViewPreview.Call.Argument)) (trailing : Reading (List View)) :
    (do
      let arguments ← values.tell
      let views ← trailing.tell
      pushModifier line name ⟨arguments, views⟩ base) =
        (addLink line name ⟨values.value, trailing.value⟩
          ⟨base, [] ++ values.caveats ++ trailing.caveats⟩).tell := by
  simp only [pushModifier_eq, tell_bind]
  simp only [addLink, List.nil_append, List.append_assoc]

/-- What a link adds to a reading does not depend on the caveats that there are. -/
theorem followLink_eq (base : Reading View) (link : Link Expression) :
    followLink base link =
      ⟨(followLink ⟨base.value, []⟩ link).value,
        base.caveats ++ (followLink ⟨base.value, []⟩ link).caveats⟩ := by
  cases link with
  | unread line name => rfl
  | call line name made =>
    obtain ⟨arguments, closures⟩ := made
    simp only [followLink, addLink, List.append_assoc, List.nil_append]

theorem onView_tell? (base : Option (Reading View)) (link : Link Expression) :
    onView (tell? base) (fun view ↦ (followLink ⟨view, []⟩ link).tell) =
      tell? (base.map fun reading ↦ followLink reading link) := by
  cases base with
  | none => rfl
  | some reading =>
    rw [Option.map_some, followLink_eq]
    funext caveats
    exact congrArg (Prod.mk _) (List.append_assoc caveats _ _)

mutual

theorem Expression.translate_eq :
    (expression : Expression) → expression.translate = tell? expression.view?
  | ⟨name, call, links⟩ => by
    rw [Expression.translate, translateHead_eq, translateLinks_eq, Expression.view?]
    split
    · rfl
    · rfl

theorem translateHead_eq (name : String) :
    (call : Option (Call Expression)) → translateHead name call =
      tell? (if namesView name call.isSome then some (headView name call) else none)
  | none => by
    rw [translateHead, headView, namesView]
    cases Kind.ofName? name with
    | none => rfl
    | some kind =>
      show pure _ = tell? (if (false || kind.isBareLeaf) = true then _ else _)
      rw [Bool.false_or]
      cases kind.isBareLeaf with
      | false => rfl
      | true => exact pure_eq_tell _
  | some call => by
    rw [translateHead, headView, namesView]
    cases Kind.ofName? name with
    | none =>
      cases ViewPreview.Call.isPlaceholderName name with
      | false => rfl
      | true => exact pure_eq_tell _
    | some kind =>
      dsimp only
      rw [construct_eq kind call]
      rfl

theorem construct_eq (kind : Kind) :
    (call : Call Expression) → construct kind call = (constructedView kind call).tell
  | ⟨arguments, closures⟩ => by
    rw [construct, constructedView, translateArguments_eq arguments]
    simp only [translateClosures_eq kind _ _ closures, pure_eq_tell, tell_bind, List.append_nil]
    cases kind.argumentsTakeViews with
    | false => rfl
    | true => rfl

theorem translateArguments_eq :
    (arguments : List (Argument Expression)) →
      translateArguments arguments = (argumentViews arguments).tell
  | [] => pure_eq_tell []
  | argument :: arguments => by
    rw [translateArguments, argumentViews, translateArgument_eq argument,
      translateArguments_eq arguments]
    simp only [pure_eq_tell, tell_bind, List.append_nil]

theorem translateArgument_eq :
    (argument : Argument Expression) → translateArgument argument = (argumentView argument).tell
  | ⟨label, text, expression⟩ => by
    rw [translateArgument, argumentView, attempt_eq expression]
    cases optionalView? expression with
    | none => exact pure_eq_tell _
    | some reading => rfl

theorem attempt_eq :
    (expression : Option Expression) → attempt expression = tell? (optionalView? expression)
  | some expression => expression.translate_eq
  | none => rfl

theorem translateClosures_eq (kind : Kind) (arguments : ViewPreview.Call.Arguments)
    (hasLabelClosure : Bool) :
    (closures : List (Closure Expression)) →
      translateClosures kind arguments hasLabelClosure closures =
        (closureViews kind arguments hasLabelClosure closures).tell
  | [] => pure_eq_tell []
  | closure :: closures => by
    rw [translateClosures, closureViews, translateClosure_eq kind arguments _ closure,
      translateClosures_eq kind arguments _ closures]
    simp only [pure_eq_tell, tell_bind, List.append_nil]

theorem translateClosure_eq (kind : Kind) (arguments : ViewPreview.Call.Arguments)
    (hasLabelClosure : Bool) :
    (closure : Closure Expression) →
      translateClosure kind arguments hasLabelClosure closure =
        (closureView kind arguments hasLabelClosure closure).tell
  | ⟨label, parameter, statements⟩ => by
    rw [translateClosure, closureView, translateStatements_eq statements]
    cases ViewPreview.Call.closureRole kind arguments label hasLabelClosure with
    | ignore => exact pure_eq_tell _
    | content => rfl
    | rowTemplate => rfl
    | destination => rfl
    | label => rfl

theorem translateStatements_eq :
    (statements : List (Statement Expression)) →
      translateStatements statements = (statementViews statements).tell
  | [] => pure_eq_tell []
  | statement :: statements => by
    rw [translateStatements, statementViews, translateStatement_eq statement,
      translateStatements_eq statements]
    simp only [pure_eq_tell, tell_bind, List.append_nil]

theorem translateStatement_eq :
    (statement : Statement Expression) →
      translateStatement statement = (statementView statement).tell
  | ⟨line, text, expression⟩ => by
    rw [translateStatement, statementView, attempt_eq expression]
    cases optionalView? expression with
    | none => rfl
    | some reading => rfl

theorem translateLinks_eq (base : Option (Reading View)) :
    (links : List (Link Expression)) →
      translateLinks (tell? base) links = tell? (base.map fun reading ↦ followLinks reading links)
  | [] => by
    cases base with
    | none => rfl
    | some reading => rfl
  | link :: links => by
    simp only [translateLinks, follow_eq _ link, onView_tell?]
    rw [translateLinks_eq _ links, Option.map_map]
    rfl

theorem follow_eq (base : View) :
    (link : Link Expression) → follow base link = (followLink ⟨base, []⟩ link).tell
  | .unread line name => by
    rw [follow, followLink]
    rfl
  | .call line name ⟨arguments, closures⟩ => by
    rw [follow, followLink, translateArguments_eq arguments, translateTrailing_eq closures]
    simp only [pure_eq_tell]
    cases ViewPreview.Call.argumentTakesView name with
    | false =>
      cases ViewPreview.Call.closureTakesView name with
      | false => exact pushModifier_readings line name base _ _
      | true => exact pushModifier_readings line name base _ _
    | true =>
      cases ViewPreview.Call.closureTakesView name with
      | false => exact pushModifier_readings line name base _ _
      | true => exact pushModifier_readings line name base _ _

theorem translateTrailing_eq :
    (closures : List (Closure Expression)) →
      translateTrailing closures = (trailingViews closures).tell
  | [] => pure_eq_tell []
  | closure :: closures => by
    rw [translateTrailing, trailingViews, translateTrailingClosure_eq closure,
      translateTrailing_eq closures]
    simp only [pure_eq_tell, tell_bind, List.append_nil]

theorem translateTrailingClosure_eq :
    (closure : Closure Expression) →
      translateTrailingClosure closure = (trailingView closure).tell
  | ⟨_, _, statements⟩ => translateStatements_eq statements

end

/-! ## Translations without a view -/

section Failure

variable {expression : Option Expression} {caveats : List Caveat}

theorem fst_attempt_eq_none_iff :
    (attempt expression caveats).1 = none ↔ optionalView? expression = none := by
  rw [attempt_eq]
  exact fst_tell?_eq_none_iff

/-- A translation that ends without a view has added nothing to the report. -/
theorem attempt_of_none (failed : (attempt expression caveats).1 = none) :
    (attempt expression caveats).2 = caveats := by
  rw [attempt_eq, fst_attempt_eq_none_iff.mp failed]
  rfl

/-- A statement that is translated without a view is reported, and nothing else is. -/
theorem translateStatement_of_none {statement : Statement Expression}
    (failed : (attempt statement.expression caveats).1 = none) :
    translateStatement statement caveats =
      ([], caveats ++ (Problem.skippedStatement (Text.snippet statement.text)).caveats
        statement.line) := by
  obtain ⟨line, text, expression⟩ := statement
  rw [translateStatement_eq, statementView, fst_attempt_eq_none_iff.mp failed]
  rfl

end Failure

end ViewPreview.Outline
