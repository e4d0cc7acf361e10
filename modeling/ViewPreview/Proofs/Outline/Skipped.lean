import Mathlib.Data.List.Basic
import ViewPreview.Proofs.Outline.Complete

/-!
# Skipped Statements and Their Reports

A statement that is read as a view and is none is skipped, in the closures of a call, in those of a
modifier, and in those of an argument that is a view.  Where closures have lines and arguments have
none, the reading reports the statements skipped outside of arguments, each by a caveat of its own
and in source order, and no other one.  Everything else that is reported of a view is a problem of
one of its links or is reported of a view that is read directly inside.  Each problem is one of text
that begins with a character of its own.
-/

namespace ViewPreview.Outline

/-! ## What is skipped -/

/-- The view that an argument consists of, as an expression. -/
def Argument.inner? (argument : Argument Expression) : Option Expression :=
  argument.expression.filter Expression.isView

/-- The view that a statement consists of, as an expression. -/
def Statement.inner? (statement : Statement Expression) : Option Expression :=
  statement.expression.filter Expression.isView

/-- A statement that is skipped, and whether it stands in an argument. -/
structure Skip where
  statement : Statement Expression
  inArgument : Bool

/-- The caveat that reports a skipped statement. -/
def Skip.caveat (skip : Skip) : Caveat :=
  ⟨skip.statement.line, .skippedStatement (Text.snippet skip.statement.text)⟩

/-- Whether a caveat reports a skipped statement. -/
def Caveat.isSkip (caveat : Caveat) : Bool :=
  match caveat.problem with
  | .skippedStatement _ => true
  | _ => false

theorem mem_inner_iff {expression inner : Expression} :
    inner ∈ expression.inner ↔
      (∃ argument ∈ expression.readArguments, argument.inner? = some inner) ∨
        ∃ statement ∈ expression.readStatements, statement.inner? = some inner := by
  simp only [Expression.inner, List.filter_append, List.mem_append, List.mem_filter,
    List.mem_filterMap, Argument.inner?, Statement.inner?, Option.filter_eq_some_iff]
  refine or_congr ?_ ?_
  all_goals
    simp only [← and_assoc, exists_and_right]

theorem mem_inner_of_argument {expression inner : Expression} {argument : Argument Expression}
    (member : argument ∈ expression.readArguments) (found : argument.inner? = some inner) :
    inner ∈ expression.inner :=
  mem_inner_iff.mpr (.inl ⟨argument, member, found⟩)

theorem mem_inner_of_statement {expression inner : Expression} {statement : Statement Expression}
    (member : statement ∈ expression.readStatements) (found : statement.inner? = some inner) :
    inner ∈ expression.inner :=
  mem_inner_iff.mpr (.inr ⟨statement, member, found⟩)

/-- The statements that are skipped in an expression, at any depth; `inArgument` tells whether the
expression itself stands in an argument. -/
def Expression.skips (expression : Expression) (inArgument : Bool) : List Skip :=
  (expression.readArguments.attach.flatMap fun ⟨argument, _read⟩ ↦
    match _found : argument.inner? with
    | some inner => inner.skips true
    | none => []) ++
  expression.readStatements.attach.flatMap fun ⟨statement, _read⟩ ↦
    match _found : statement.inner? with
    | some inner => inner.skips inArgument
    | none => [⟨statement, inArgument⟩]
termination_by sizeOf expression
decreasing_by
  · exact sizeOf_inner_lt (mem_inner_of_argument _read _found)
  · exact sizeOf_inner_lt (mem_inner_of_statement _read _found)

/-- The statements that are skipped in an argument. -/
def Argument.skips (argument : Argument Expression) : List Skip :=
  match argument.inner? with
  | some inner => inner.skips true
  | none => []

/-- The statements that are skipped in a statement, which may be the statement itself. -/
def Statement.skips (statement : Statement Expression) (inArgument : Bool) : List Skip :=
  match statement.inner? with
  | some inner => inner.skips inArgument
  | none => [⟨statement, inArgument⟩]

theorem flatMap_attach {α β : Type} (list : List α) (function : α → List β) :
    (list.attach.flatMap fun item ↦ function item.1) = list.flatMap function := by
  rw [← List.flatMap_map, List.attach_map_subtype_val]

theorem Expression.skips_eq (expression : Expression) (inArgument : Bool) :
    expression.skips inArgument =
      expression.readArguments.flatMap Argument.skips ++
        expression.readStatements.flatMap fun statement ↦ statement.skips inArgument := by
  have arguments (argument : { argument // argument ∈ expression.readArguments }) :
      (match _found : argument.1.inner? with
        | some inner => inner.skips true
        | none => []) = argument.1.skips := by
    rw [Argument.skips]
    split <;> rename_i found <;> rw [found]
  have statements (statement : { statement // statement ∈ expression.readStatements }) :
      (match _found : statement.1.inner? with
        | some inner => inner.skips inArgument
        | none => [⟨statement.1, inArgument⟩]) = statement.1.skips inArgument := by
    rw [Statement.skips]
    split <;> rename_i found <;> rw [found]
  rw [Expression.skips]
  simp only [arguments, statements]
  rw [flatMap_attach, flatMap_attach expression.readStatements fun statement ↦
    statement.skips inArgument]

/-! ## Where lines are -/

/-- Whether the links and statements in an expression have lines, or have none, and what stands in
arguments has none. -/
inductive Expression.Placed : Expression → (located : Bool) → Prop
  | intro {expression : Expression} {located : Bool}
      (links : ∀ link ∈ expression.links, link.line?.isSome = located)
      (arguments : ∀ argument ∈ expression.readArguments,
        ∀ inner, argument.inner? = some inner → inner.Placed false)
      (lines : ∀ statement ∈ expression.readStatements, statement.line.isSome = located)
      (statements : ∀ statement ∈ expression.readStatements,
        ∀ inner, statement.inner? = some inner → inner.Placed located) :
      expression.Placed located

namespace Expression.Placed

variable {expression : Expression} {located : Bool}

theorem links (placed : expression.Placed located) {link : Link Expression}
    (member : link ∈ expression.links) : link.line?.isSome = located := by
  cases placed with
  | intro links => exact links link member

theorem ofArgument (placed : expression.Placed located) {argument : Argument Expression}
    (member : argument ∈ expression.readArguments) {inner : Expression}
    (found : argument.inner? = some inner) : inner.Placed false := by
  cases placed with
  | intro _ arguments => exact arguments argument member inner found

theorem line (placed : expression.Placed located) {statement : Statement Expression}
    (member : statement ∈ expression.readStatements) : statement.line.isSome = located := by
  cases placed with
  | intro _ _ lines => exact lines statement member

theorem ofStatement (placed : expression.Placed located) {statement : Statement Expression}
    (member : statement ∈ expression.readStatements) {inner : Expression}
    (found : statement.inner? = some inner) : inner.Placed located := by
  cases placed with
  | intro _ _ _ statements => exact statements statement member inner found

end Expression.Placed

/-! ## Skipped statements have lines outside of arguments -/

/-- What holds of an expression as soon as it holds of those read directly in it holds of every
expression. -/
theorem Expression.inner_induction {motive : Expression → Prop}
    (step : ∀ expression, (∀ inner ∈ expression.inner, motive inner) → motive expression)
    (expression : Expression) : motive expression :=
  step expression fun inner _member ↦ inner_induction step inner
termination_by sizeOf expression
decreasing_by exact sizeOf_inner_lt _member

/-- A skipped statement is a statement of the expression itself, or is skipped further inside. -/
theorem Expression.mem_skips_iff {expression : Expression} {inArgument : Bool} {skip : Skip} :
    skip ∈ expression.skips inArgument ↔
      (∃ argument ∈ expression.readArguments, ∃ inner, argument.inner? = some inner ∧
        skip ∈ inner.skips true) ∨
      ∃ statement ∈ expression.readStatements,
        (statement.inner? = none ∧ skip = ⟨statement, inArgument⟩) ∨
        ∃ inner, statement.inner? = some inner ∧ skip ∈ inner.skips inArgument := by
  have ofArgument (argument : Argument Expression) : skip ∈ argument.skips ↔
      ∃ inner, argument.inner? = some inner ∧ skip ∈ inner.skips true := by
    rw [Argument.skips]
    cases argument.inner? with
    | none => simp
    | some inner => simp
  have ofStatement (statement : Statement Expression) : skip ∈ statement.skips inArgument ↔
      (statement.inner? = none ∧ skip = ⟨statement, inArgument⟩) ∨
        ∃ inner, statement.inner? = some inner ∧ skip ∈ inner.skips inArgument := by
    rw [Statement.skips]
    cases statement.inner? with
    | none => simp
    | some inner => simp
  rw [skips_eq]
  simp only [List.mem_append, List.mem_flatMap, ofArgument, ofStatement]

theorem line_of_mem_skips (expression : Expression) {located : Bool}
    (placed : expression.Placed located) {skip : Skip}
    (member : skip ∈ expression.skips !located) :
    skip.statement.line.isSome = !skip.inArgument := by
  induction expression using Expression.inner_induction generalizing located with
  | step expression ih =>
    rcases Expression.mem_skips_iff.mp member with
      ⟨argument, read, inner, found, inside⟩ | ⟨statement, read, here | ⟨inner, found, inside⟩⟩
    · exact ih inner (mem_inner_of_argument read found) (placed.ofArgument read found) inside
    · rw [here.2, Bool.not_not]
      exact placed.line read
    · exact ih inner (mem_inner_of_statement read found) (placed.ofStatement read found) inside

theorem inArgument_of_mem_skips (expression : Expression) {skip : Skip}
    (member : skip ∈ expression.skips true) : skip.inArgument = true := by
  induction expression using Expression.inner_induction with
  | step expression ih =>
    rcases Expression.mem_skips_iff.mp member with
      ⟨argument, read, inner, found, inside⟩ | ⟨statement, read, here | ⟨inner, found, inside⟩⟩
    · exact ih inner (mem_inner_of_argument read found) inside
    · rw [here.2]
    · exact ih inner (mem_inner_of_statement read found) inside

/-! ## Nothing is reported in arguments -/

/-- What has no lines at all is read without a caveat. -/
theorem caveats_of_placed_false (expression : Expression) (placed : expression.Placed false) :
    expression.caveats = [] := by
  induction expression using Expression.inner_induction with
  | step expression ih =>
    cases isView : expression.isView with
    | false => exact Expression.caveats_of_not_isView isView
    | true =>
      refine (Expression.caveats_eq_nil_iff_inner isView).mpr ⟨⟨?lines, ?links⟩, ?inner⟩
      case lines =>
        intro statement read
        exact .inl (Option.not_isSome_iff_eq_none.mp (ne_true_of_eq_false (placed.line read)))
      case links =>
        intro link member
        exact .inl (Option.not_isSome_iff_eq_none.mp (ne_true_of_eq_false (placed.links member)))
      case inner =>
        intro inner member
        apply ih inner member
        rcases mem_inner_iff.mp member with ⟨argument, read, found⟩ | ⟨statement, read, found⟩
        · exact placed.ofArgument read found
        · exact placed.ofStatement read found

/-! ## Skipped statements are reported elsewhere -/

/-- The caveats of a reading that report skipped statements. -/
def Reading.skipCaveats {α : Type} (reading : Reading α) : List Caveat :=
  reading.caveats.filter Caveat.isSkip

/-- Other problems give rise to no report of a skipped statement. -/
theorem filter_caveats {problem : Problem} (line : Option Nat)
    (other : Caveat.isSkip ⟨line, problem⟩ = false) :
    (problem.caveats line).filter Caveat.isSkip = [] := by
  cases line with
  | none => rfl
  | some line => exact List.filter_cons_of_neg (Bool.eq_false_iff.mp other)

/-- No problem of a link is a skipped statement. -/
theorem Link.filter_caveats_problems (link : Link Expression) :
    (link.problems.flatMap fun problem ↦ problem.caveats link.line?).filter Caveat.isSkip = [] := by
  rw [List.filter_flatMap, List.flatMap_eq_nil_iff]
  intro problem member
  obtain ⟨name, rfl⟩ | ⟨error, rfl⟩ := link.exists_of_mem_problems member
  · exact filter_caveats _ rfl
  · exact filter_caveats _ rfl

/-- What is reported of the statements in some closures, of skipped ones only. -/
theorem filter_closuresCaveats (closures : List (Closure Expression)) :
    (closuresCaveats closures).filter Caveat.isSkip =
      (closures.flatMap Closure.statements).flatMap fun statement ↦
        (statementView statement).skipCaveats :=
  List.filter_flatMap

/-- A view reports the statements skipped in its own statements. -/
theorem filter_caveats_of_placed {expression : Expression} {located : Bool}
    (isView : expression.isView = true) (placed : expression.Placed located) :
    expression.caveats.filter Caveat.isSkip =
      expression.readStatements.flatMap fun statement ↦ (statementView statement).skipCaveats := by
  have quiet (argument : Argument Expression) (member : argument ∈ expression.readArguments) :
      (argumentView argument).caveats = [] := by
    refine (caveats_argumentView argument).mpr fun inner found ↦ ?_
    cases innerIsView : inner.isView with
    | false => exact Expression.caveats_of_not_isView innerIsView
    | true =>
      apply caveats_of_placed_false
      exact placed.ofArgument member (Option.filter_eq_some_iff.mpr ⟨found, innerIsView⟩)
  obtain ⟨ofHead, ofLinks⟩ := List.forall_mem_append.mp quiet
  have ofMade (made : Kind × Call Expression) (found : made ∈ expression.constructor?.toList) :
      (argumentsCaveats (readArguments made.1 made.2) ++
        closuresCaveats (readClosures made.1 made.2)).filter Caveat.isSkip =
          ((readClosures made.1 made.2).flatMap Closure.statements).flatMap fun statement ↦
            (statementView statement).skipCaveats := by
    rw [argumentsCaveats, List.flatMap_eq_nil_iff.mpr (List.forall_mem_flatMap.mp ofHead made found),
      List.nil_append, filter_closuresCaveats]
  have ofLink (link : Link Expression) (found : link ∈ expression.links) :
      link.caveats.filter Caveat.isSkip =
        (link.readClosures.flatMap Closure.statements).flatMap fun statement ↦
          (statementView statement).skipCaveats := by
    rw [Link.caveats, argumentsCaveats,
      List.flatMap_eq_nil_iff.mpr (List.forall_mem_flatMap.mp ofLinks link found),
      List.nil_append, List.filter_append, filter_closuresCaveats, Link.filter_caveats_problems,
      List.append_nil]
  rw [Expression.caveats_eq isView, List.filter_append, List.filter_flatMap, List.filter_flatMap,
    List.flatMap_congr ofMade, List.flatMap_congr ofLink, Expression.readStatements]
  simp only [List.flatMap_append, List.flatMap_assoc]

/-! ## The reports in an expression -/

/-- The skipped statements that stand in no argument. -/
def outsideArguments (skips : List Skip) : List Skip :=
  skips.filter fun skip ↦ !skip.inArgument

theorem outsideArguments_argument (argument : Argument Expression) :
    outsideArguments argument.skips = [] := by
  rw [outsideArguments, Argument.skips, List.filter_eq_nil_iff]
  cases argument.inner? with
  | none => exact List.forall_mem_nil _
  | some inner =>
    intro skip member
    rw [inArgument_of_mem_skips inner member]
    exact Bool.false_ne_true

theorem outsideArguments_skips (expression : Expression) :
    outsideArguments (expression.skips false) =
      expression.readStatements.flatMap fun statement ↦ outsideArguments (statement.skips false) := by
  have silent : outsideArguments (expression.readArguments.flatMap Argument.skips) = [] := by
    rw [outsideArguments, List.filter_flatMap]
    exact List.flatMap_eq_nil_iff.mpr fun argument _ ↦ outsideArguments_argument argument
  rw [Expression.skips_eq, outsideArguments, List.filter_append, ← outsideArguments, silent,
    List.nil_append, List.filter_flatMap]
  rfl

theorem skipCaveats_statementView (statement : Statement Expression) :
    (statementView statement).skipCaveats =
      match statement.inner? with
      | some inner => inner.caveats.filter Caveat.isSkip
      | none => (Problem.skippedStatement (Text.snippet statement.text)).caveats statement.line := by
  obtain ⟨line, text, expression⟩ := statement
  have report : ((Problem.skippedStatement (Text.snippet text)).caveats line).filter Caveat.isSkip =
      (Problem.skippedStatement (Text.snippet text)).caveats line := by
    cases line with
    | none => rfl
    | some line => rfl
  rw [statementView, Reading.skipCaveats, Statement.inner?]
  cases expression with
  | none => exact report
  | some inner =>
    rw [optionalView?, Option.filter_some]
    cases isView : inner.isView with
    | false =>
      rw [Expression.view?_of_not_isView isView]
      exact report
    | true =>
      change _ = inner.caveats.filter Caveat.isSkip
      rw [Expression.caveats, Expression.view?_of_isView isView]
      rfl

/-- Where what stands outside of arguments has lines, a view reports each statement that is skipped
outside of arguments by a caveat of its own, in source order, and no other one. -/
theorem filter_caveats_eq (expression : Expression) (isView : expression.isView = true)
    (placed : expression.Placed true) :
    expression.caveats.filter Caveat.isSkip =
      (outsideArguments (expression.skips false)).map Skip.caveat := by
  induction expression using Expression.inner_induction with
  | step expression ih =>
    rw [filter_caveats_of_placed isView placed, outsideArguments_skips, List.map_flatMap]
    apply List.flatMap_congr
    intro statement member
    rw [skipCaveats_statementView, Statement.skips]
    cases found : statement.inner? with
    | some inner =>
      have direct := mem_inner_of_statement member found
      exact ih inner direct (Expression.isView_of_mem_inner direct)
        (placed.ofStatement member found)
    | none =>
      obtain ⟨line, located⟩ := Option.isSome_iff_exists.mp (placed.line member)
      simp only
      rw [outsideArguments, List.filter_cons_of_pos rfl, List.filter_nil, List.map_singleton,
        Skip.caveat, Problem.caveats, located]
      rfl

/-! ## What a report begins with -/

/-- Whether a problem is reported of text that begins with a character: an unclosed declaration of
its brace, a modifier of its dot, and a statement of neither a blank nor a semicolon. -/
def Problem.BeginsWith : Problem → Char → Prop
  | .syntaxErrors, _ => False
  | .unclosedDeclaration _, c => c = '{'
  | .skippedStatement _, c => Text.isAsciiBlank c = false ∧ c ≠ ';'
  | .unreadModifier _, c => c = '.'
  | .badArguments _, c => c = '.'

/-- Every problem of a link is one of a modifier. -/
theorem beginsWith_of_mem_problems {link : Link Expression} {problem : Problem}
    (found : problem ∈ link.problems) : problem.BeginsWith '.' := by
  obtain ⟨name, rfl⟩ | ⟨error, rfl⟩ := link.exists_of_mem_problems found
  · rfl
  · rfl

/-! ## Where a caveat comes from -/

/-- The closures that are read in an expression. -/
def Expression.readClosures (expression : Expression) : List (Closure Expression) :=
  (expression.constructor?.toList.flatMap fun made ↦ Outline.readClosures made.1 made.2) ++
    expression.links.flatMap Link.readClosures

variable {caveat : Caveat}

theorem mem_caveats_iff {problem : Problem} {line : Option Nat} :
    caveat ∈ problem.caveats line ↔
      caveat.problem = problem ∧ caveat.line = line ∧ line.isSome = true := by
  obtain ⟨place, found⟩ := caveat
  cases line with
  | none => simp [Problem.caveats]
  | some number => simp [Problem.caveats, and_comm]

theorem exists_of_mem_argumentView {argument : Argument Expression}
    (member : caveat ∈ (argumentView argument).caveats) :
    ∃ inner, argument.inner? = some inner ∧ caveat ∈ inner.caveats := by
  obtain ⟨label, text, _ | expression⟩ := argument
  · cases member
  · rw [argumentView, optionalView?] at member
    cases read : expression.view? with
    | none =>
      rw [read] at member
      cases member
    | some reading =>
      rw [read] at member
      have isView := Expression.isView_of_view? read
      refine ⟨expression, Option.filter_eq_some_iff.mpr ⟨rfl, isView⟩, ?_⟩
      rwa [Expression.caveats_of_view? read]

theorem exists_of_mem_statementView {statement : Statement Expression}
    (member : caveat ∈ (statementView statement).caveats) :
    (statement.inner? = none ∧
      caveat ∈ (Problem.skippedStatement (Text.snippet statement.text)).caveats statement.line) ∨
        ∃ inner, statement.inner? = some inner ∧ caveat ∈ inner.caveats := by
  obtain ⟨line, text, _ | expression⟩ := statement
  · exact .inl ⟨rfl, member⟩
  · rw [statementView, optionalView?] at member
    cases isView : expression.isView with
    | false =>
      rw [Expression.view?_of_not_isView isView] at member
      exact .inl ⟨Option.filter_eq_none_iff.mpr (by simp [isView]), member⟩
    | true =>
      have read := Expression.view?_of_isView isView
      rw [read] at member
      refine .inr ⟨expression, Option.filter_eq_some_iff.mpr ⟨rfl, isView⟩, ?_⟩
      rwa [Expression.caveats_of_view? read]

/-- A caveat of a view is reported of a view in an argument, of a statement, or of a link. -/
theorem exists_of_mem_caveats {expression : Expression} (member : caveat ∈ expression.caveats) :
    (∃ argument ∈ expression.readArguments, ∃ inner, argument.inner? = some inner ∧
      caveat ∈ inner.caveats) ∨
    (∃ closure ∈ expression.readClosures, ∃ statement ∈ closure.statements,
      caveat ∈ (statementView statement).caveats) ∨
    ∃ link ∈ expression.links, ∃ problem ∈ link.problems, caveat ∈ problem.caveats link.line? := by
  have ofArguments {arguments : List (Argument Expression)}
      (inArguments : caveat ∈ argumentsCaveats arguments) :
      ∃ argument ∈ arguments, ∃ inner, argument.inner? = some inner ∧ caveat ∈ inner.caveats := by
    obtain ⟨argument, read, inside⟩ := List.mem_flatMap.mp inArguments
    exact ⟨argument, read, exists_of_mem_argumentView inside⟩
  have ofClosures {closures : List (Closure Expression)}
      (inClosures : caveat ∈ closuresCaveats closures) :
      ∃ closure ∈ closures, ∃ statement ∈ closure.statements,
        caveat ∈ (statementView statement).caveats := by
    obtain ⟨statement, read, inside⟩ := List.mem_flatMap.mp inClosures
    obtain ⟨closure, counted, deeper⟩ := List.mem_flatMap.mp read
    exact ⟨closure, counted, statement, deeper, inside⟩
  cases isView : expression.isView with
  | false =>
    rw [Expression.caveats_of_not_isView isView] at member
    cases member
  | true =>
    rw [Expression.caveats_eq isView] at member
    rcases List.mem_append.mp member with ofHead | ofLinks
    · obtain ⟨made, found, inside⟩ := List.mem_flatMap.mp ofHead
      rcases List.mem_append.mp inside with inArguments | inClosures
      · obtain ⟨argument, read, report⟩ := ofArguments inArguments
        exact .inl ⟨argument, List.mem_append_left _ (List.mem_flatMap.mpr ⟨made, found, read⟩),
          report⟩
      · obtain ⟨closure, read, report⟩ := ofClosures inClosures
        exact .inr (.inl ⟨closure,
          List.mem_append_left _ (List.mem_flatMap.mpr ⟨made, found, read⟩), report⟩)
    · obtain ⟨link, found, inside⟩ := List.mem_flatMap.mp ofLinks
      rcases List.mem_append.mp inside with inParts | inProblems
      · rcases List.mem_append.mp inParts with inArguments | inClosures
        · obtain ⟨argument, read, report⟩ := ofArguments inArguments
          exact .inl ⟨argument, List.mem_append_right _ (List.mem_flatMap.mpr ⟨link, found, read⟩),
            report⟩
        · obtain ⟨closure, read, report⟩ := ofClosures inClosures
          exact .inr (.inl ⟨closure,
            List.mem_append_right _ (List.mem_flatMap.mpr ⟨link, found, read⟩), report⟩)
      · obtain ⟨problem, own, report⟩ := List.mem_flatMap.mp inProblems
        exact .inr (.inr ⟨link, found, problem, own, report⟩)

end ViewPreview.Outline
