import ViewPreview.Proofs.Call.RangeLiteral
import ViewPreview.Proofs.Canonical.Reading
import ViewPreview.Proofs.View.Entry

/-!
# The Views of Canonical Calls

What the call of a canonical leaf, container or repetition stands for.  The closure of a container
holds its children and that of a repetition its template; both are given here by the views of their
statements.
-/

namespace ViewPreview.Canonical

open ViewPreview.Text ViewPreview.Call ViewPreview.Number ViewPreview.Passage ViewPreview.Outline

/-! ## Names of kinds -/

theorem string_kindName (kind : Kind) : (kindName kind).string = kind.name :=
  String.ofList_toList

theorem ofName?_name (kind : Kind) (known : kind ≠ .custom) : Kind.ofName? kind.name = some kind := by
  revert known
  cases kind <;> decide +kernel

theorem namesView_kindName (kind : Kind) (known : kind ≠ .custom) :
    namesView (kindName kind).string true = true := by
  rw [string_kindName, namesView, ofName?_name kind known]
  rfl

theorem ofName?_placeholder {name : String} (isPlaceholder : isPlaceholderName name = true) :
    Kind.ofName? name = none := by
  unfold isPlaceholderName at isPlaceholder
  split at isPlaceholder
  · simp only [Bool.and_eq_true, Option.isNone_iff_eq_none] at isPlaceholder
    exact isPlaceholder.1.1.1.1
  · cases isPlaceholder

theorem namesView_leaf (head : Leaf) : namesView head.name.string true = true := by
  cases head with
  | text content => exact namesView_kindName .text (by decide)
  | image symbol => exact namesView_kindName .image (by decide)
  | spacer => exact namesView_kindName .spacer (by decide)
  | divider => exact namesView_kindName .divider (by decide)
  | placeholder name isPlaceholder =>
    show namesView name.string true = true
    rw [namesView, ofName?_placeholder isPlaceholder]
    exact isPlaceholder

/-! ## Calls of constructors -/

/-- The arguments that are read from a call. -/
def readArguments (arguments : List WrittenArgument) : Call.Arguments :=
  { values := arguments.map WrittenArgument.argument }

/-- Whether outlines are those of some arguments. -/
def StandFor (outlines : List (Outline.Argument Expression)) (arguments : List WrittenArgument) :
    Prop :=
  outlines.map Argument.plain = arguments.map WrittenArgument.argument

theorem standFor_writtenExpressions (arguments : Option (List WrittenArgument)) :
    StandFor (writtenExpressions arguments) (arguments.getD []) := by
  rw [StandFor, writtenExpressions, argumentExpressions_written, map_plain _ view_of_mem_written]

section Constructor

variable {outlines : List (Outline.Argument Expression)}

theorem headView_kindName (kind : Kind) (known : kind ≠ .custom)
    (noViews : kind.argumentsTakeViews = false) {arguments : List WrittenArgument}
    (standFor : StandFor outlines arguments) {closures : List (Outline.Closure Expression)}
    {attached : List Call.Closure} {caveats : List Caveat}
    (attaches : ∀ hasLabelClosure,
      closureViews kind (readArguments arguments) hasLabelClosure closures =
        ⟨attached, caveats⟩) :
    headView (kindName kind).string (some ⟨outlines, closures⟩) =
      ⟨build kind (readArguments arguments) attached, caveats⟩ := by
  have same : (⟨arguments.map WrittenArgument.argument, []⟩ : Call.Arguments) =
      readArguments arguments := rfl
  rw [StandFor] at standFor
  rw [string_kindName, headView, ofName?_name kind known]
  simp only [constructedView, noViews, Bool.false_eq_true, if_false, standFor, same, attaches,
    List.nil_append]

theorem noClosure (kind : Kind) (arguments : Call.Arguments) (hasLabelClosure : Bool) :
    closureViews kind arguments hasLabelClosure [] = ⟨[], []⟩ := by
  rw [closureViews]

theorem headView_leaf (head : Leaf) (standFor : StandFor outlines head.written) :
    headView head.name.string (some ⟨outlines, []⟩) = ⟨head.view, []⟩ := by
  cases head with
  | text content =>
    have quoted : Call.Argument.isQuoted ⟨none, content.quoted, none⟩ = true :=
      content.isQuoted_quoted
    have shown : shownText (readArguments (Leaf.text content).written) = content.string := by
      show (if Call.Argument.isQuoted ⟨none, content.quoted, none⟩ then
        (stringLiteral? content.quoted).getD "" else _) = _
      rw [quoted, if_pos rfl, content.stringLiteral?_quoted, Option.getD_some]
    apply (headView_kindName .text (by decide) rfl standFor (noClosure .text _)).trans
    rw [build, argumentProperties, shown]
    rfl
  | image symbol =>
    have source : imageSource (readArguments (Leaf.image symbol).written) =
        ("systemName", some (.text symbol.string)) := by
      have read : (readArguments (Leaf.image symbol).written).labeledString?
          "systemName" = some symbol.string := symbol.stringLiteral?_quoted
      rw [imageSource, read]
    apply (headView_kindName .image (by decide) rfl standFor (noClosure .image _)).trans
    rw [build, argumentProperties, source]
    rfl
  | spacer => exact headView_kindName .spacer (by decide) rfl standFor (noClosure .spacer _)
  | divider => exact headView_kindName .divider (by decide) rfl standFor (noClosure .divider _)
  | placeholder name isPlaceholder =>
    show headView name.string _ = _
    rw [headView, ofName?_placeholder isPlaceholder]
    rfl

/-! ## Calls with a closure -/

theorem setEntry_stack {α : Type} (alignment spacing : α) :
    setEntry "alignment" alignment [("spacing", spacing)] =
      [("alignment", alignment), ("spacing", spacing)] :=
  setEntry_before (by decide)

theorem setEntry_rows {α : Type} (range row template : α) :
    setEntry "rowTemplate" template (setEntry "rowVariable" row [("forEachRange", range)]) =
      [("forEachRange", range), ("rowTemplate", template), ("rowVariable", row)] := by
  rw [setEntry_after (by decide) (by decide), setEntry, setEntry_after (by decide) (by decide),
    setEntry_before (by decide)]

/-- A closure without a label. -/
def bodyClosure (parameter : Option String) (statements : List (Outline.Statement Expression)) :
    Outline.Closure Expression :=
  { label := none, parameter, statements }

theorem closureViews_body {kind : Kind} {role : ClosureRole} {arguments : Call.Arguments}
    {hasLabelClosure : Bool} {parameter : Option String}
    {statements : List (Outline.Statement Expression)} {views : List View} {caveats : List Caveat}
    (known : unlabeledRole kind arguments hasLabelClosure = role) (read : role ≠ .ignore)
    (shown : statementViews statements = ⟨views, caveats⟩) :
    closureViews kind arguments hasLabelClosure [bodyClosure parameter statements] =
      ⟨[⟨role, none, parameter, views⟩], caveats⟩ := by
  have role_eq : closureRole kind arguments none hasLabelClosure = role := known
  have first : closureView kind arguments hasLabelClosure (bodyClosure parameter statements) =
      ⟨⟨role, none, parameter, views⟩, caveats⟩ := by
    rw [bodyClosure, closureView, role_eq]
    split
    · exact absurd rfl read
    · rw [shown]
  simp only [closureViews, first, List.append_nil]

/-- What the code of constructors says about the kinds of containers. -/
structure IsContainer (kind : Kind) : Prop where
  known : kind ≠ .custom
  noViews : kind.argumentsTakeViews = false
  content : ∀ arguments hasLabelClosure,
    unlabeledRole kind arguments hasLabelClosure = .content
  notSplit : kind ≠ .navigationSplitView

theorem isContainer_of_mem {kind : Kind} (member : kind ∈ stackKinds ++ plainKinds) :
    IsContainer kind where
  known := by
    revert kind
    decide
  noViews := by
    revert kind
    decide
  content arguments hasLabelClosure := by
    simp only [stackKinds, plainKinds, List.cons_append, List.nil_append, List.mem_cons,
      List.not_mem_nil, or_false] at member
    rcases member with rfl | rfl | rfl | rfl | rfl | rfl | rfl | rfl | rfl
    all_goals rfl
  notSplit := by
    revert kind
    decide

theorem isContainer_kind (container : Container) : IsContainer container.kind := by
  apply isContainer_of_mem
  cases container with
  | stack kind isStack alignment spacing => exact List.mem_append_left _ isStack
  | plain kind isPlain => exact List.mem_append_right _ isPlain

theorem getD_arguments (container : Container) :
    container.arguments.getD [] = container.written := by
  rw [Container.arguments]
  split
  · next empty => exact (List.isEmpty_iff.mp empty).symm
  · rfl

/-- The arguments of a container set its properties. -/
theorem setProperties_container (container : Container) :
    setProperties (View.ofKind container.kind)
        (argumentProperties container.kind (readArguments container.written)) =
      ⟨container.kind, container.properties, [], []⟩ := by
  cases container with
  | stack kind isStack alignment spacing =>
    have properties (arguments : Call.Arguments) : argumentProperties kind arguments =
        [numberEntry "spacing" (arguments.labeledNumber? "spacing"),
          tokenEntry "alignment" (arguments.labeledToken? "alignment")] := by
      simp only [stackKinds, List.mem_cons, List.not_mem_nil, or_false] at isStack
      rcases isStack with rfl | rfl | rfl | rfl | rfl
      all_goals rfl
    show setProperties (View.ofKind kind) (argumentProperties kind _) = _
    rw [properties]
    cases alignment with
    | none =>
      cases spacing with
      | none => rfl
      | some spacing =>
        have number : (readArguments (Container.stack kind isStack none
            (some spacing)).written).labeledNumber? "spacing" = some spacing.value :=
          spacing.first?_text
        rw [number]
        rfl
    | some alignment =>
      have token : (readArguments (Container.stack kind isStack (some alignment)
          spacing).written).labeledToken? "alignment" = some alignment.string :=
        token?_caseText alignment
      rw [token]
      cases spacing with
      | none => rfl
      | some spacing =>
        have number : (readArguments (Container.stack kind isStack (some alignment)
            (some spacing)).written).labeledNumber? "spacing" = some spacing.value :=
          spacing.first?_text
        rw [number]
        show (⟨kind, setEntry "alignment" (.token alignment.string)
          [("spacing", .number spacing.value)], [], []⟩ : View) = _
        rw [setEntry_stack]
        rfl
  | plain kind isPlain =>
    simp only [plainKinds, List.mem_cons, List.not_mem_nil, or_false] at isPlain
    rcases isPlain with rfl | rfl | rfl | rfl
    all_goals rfl

/-- The view of a container with its children. -/
theorem headView_container (container : Container) (standFor : StandFor outlines container.written)
    {parameter : Option String} {statements : List (Outline.Statement Expression)}
    {views : List View} {caveats : List Caveat}
    (shown : statementViews statements = ⟨views, caveats⟩) :
    headView (kindName container.kind).string
        (some ⟨outlines, [bodyClosure parameter statements]⟩) =
      ⟨⟨container.kind, container.properties, [], views⟩, caveats⟩ := by
  have isContainer := isContainer_kind container
  have attaches : ∀ hasLabelClosure,
      closureViews container.kind (readArguments container.written) hasLabelClosure
        [bodyClosure parameter statements] = ⟨[⟨.content, none, parameter, views⟩], caveats⟩ := by
    intro hasLabelClosure
    exact closureViews_body (isContainer.content _ _) (by decide) shown
  rw [headView_kindName container.kind isContainer.known isContainer.noViews standFor attaches,
    build, setProperties_container, List.foldl_cons, List.foldl_nil, attach]
  simp only [if_neg isContainer.notSplit]
  rfl

/-- The view of a repetition with its template. -/
theorem headView_repetition (rows : IntegerRange) (row : Identifier)
    (standFor : StandFor outlines (rangeArguments rows))
    {statements : List (Outline.Statement Expression)} {template : View} {caveats : List Caveat}
    (shown : statementViews statements = ⟨[template], caveats⟩) :
    headView (kindName .forEach).string
        (some ⟨outlines, [bodyClosure (some row.string) statements]⟩) =
      ⟨⟨.forEach,
        [("forEachRange", .range rows), ("rowTemplate", .view template),
          ("rowVariable", .text row.string)], [], []⟩, caveats⟩ := by
  have attaches : ∀ hasLabelClosure,
      closureViews .forEach (readArguments (rangeArguments rows)) hasLabelClosure
        [bodyClosure (some row.string) statements] =
          ⟨[⟨.rowTemplate, none, some row.string, [template]⟩], caveats⟩ := by
    intro hasLabelClosure
    exact closureViews_body rfl (by decide) shown
  have source : rowSource (readArguments (rangeArguments rows)) =
      ("forEachRange", some (.range rows)) := by
    have first : (readArguments (rangeArguments rows)).firstUnlabeled? =
        some ⟨none, rangeText rows, none⟩ := rfl
    rw [rowSource, first]
    simp only [range?_rangeText]
  rw [headView_kindName .forEach (by decide) rfl standFor attaches, build, argumentProperties,
    source]
  show (⟨⟨.forEach, setEntry "rowTemplate" (.view template)
    (setEntry "rowVariable" (.text row.string) [("forEachRange", .range rows)]), [], []⟩, caveats⟩ :
      Reading View) = _
  rw [setEntry_rows]

end Constructor

end ViewPreview.Canonical
