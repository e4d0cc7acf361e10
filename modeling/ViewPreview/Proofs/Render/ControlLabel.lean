import ViewPreview.Proofs.Call.Attachment
import ViewPreview.Proofs.Html.Place
import ViewPreview.Proofs.Render.Repetition

/-!
# The Label Closure of a Control

The controls whose closure without a label builds their own label have no other name when they are
called without a title.  What the closure builds becomes children of the control, and the markup of
the control shows the children where its title would stand.  A progress view does not: its markup is
made of its title and its value, and whatever its closures build is left out.
-/

namespace ViewPreview

open ViewPreview.Call

/-- The controls whose closure without a label is their label, whatever their arguments are. -/
def labelControls : List Kind :=
  [.toggle, .stepper, .link, .datePicker, .colorPicker, .progressView, .slider, .label]

theorem labelControl_cases {kind : Kind} (isControl : kind ∈ labelControls) :
    kind = .toggle ∨ kind = .stepper ∨ kind = .link ∨ kind = .datePicker ∨ kind = .colorPicker ∨
      kind = .progressView ∨ kind = .slider ∨ kind = .label := by
  simpa only [labelControls, List.mem_cons, List.not_mem_nil, or_false] using isControl

theorem mem_labelControls_iff {kind : Kind} :
    kind ∈ labelControls ↔
      ∀ arguments hasLabelClosure, unlabeledRole kind arguments hasLabelClosure = .label := by
  constructor
  · intro member arguments hasLabelClosure
    rcases labelControl_cases member with rfl | rfl | rfl | rfl | rfl | rfl | rfl | rfl
    all_goals rfl
  · intro isLabel
    -- The role of a button and of a navigation link depends on their other arguments.
    have noOther := isLabel {} true
    have titled := isLabel ⟨[⟨none, ['"', '"'], none⟩], []⟩ false
    cases kind
    all_goals first
      | decide
      | exact absurd noOther (by decide)
      | exact absurd titled (by decide)

namespace Call

variable {kind : Kind} {arguments : Arguments} {closures : List Closure} {key : String}

/-- A control that is called without a title has none, whatever its closures are. -/
theorem title_of_labelControl (isControl : kind ∈ labelControls)
    (untitled : arguments.firstString? = none) (closures : List Closure) :
    (build kind arguments closures).property? "title" = none := by
  have kept : (build kind arguments closures).property? "title" =
      (ofArguments kind arguments).property? "title" := by
    refine property?_attachAll (by decide) fun closure _ found ↦ ?_
    exact absurd (mem_of_key? found) (by decide)
  refine kept.trans (property?_setProperties ?_ (View.ofKind kind))
  rcases labelControl_cases isControl with rfl | rfl | rfl | rfl | rfl | rfl | rfl | rfl
  all_goals
    simp [argumentProperties, levelProperties, textEntry, numberEntry, untitled]

/-- No closure stores the label of a control. -/
theorem key?_ne_label (isControl : kind ∈ labelControls) (closure : Closure) :
    closure.key? kind ≠ some "label" := by
  have noLabel (label : Option String) : labelKey? kind label ≠ some "label" := by
    unfold labelKey?
    split
    · decide
    · decide
    · decide
    · rcases labelControl_cases isControl with rfl | rfl | rfl | rfl | rfl | rfl | rfl | rfl
      all_goals rintro ⟨⟩
  unfold Closure.key?
  cases closure.role with
  | label => exact noLabel closure.label
  | rowTemplate | destination => exact fun same ↦ absurd (Option.some.inj same) (by decide)
  | content | ignore => rintro ⟨⟩

theorem label_of_labelControl (isControl : kind ∈ labelControls) (arguments : Arguments)
    (closures : List Closure) : (build kind arguments closures).property? "label" = none := by
  have kept : (build kind arguments closures).property? "label" =
      (ofArguments kind arguments).property? "label" := by
    refine property?_attachAll (by decide) fun closure _ ↦ ?_
    have kind_eq := kind_ofArguments kind arguments
    exact kind_eq.symm ▸ key?_ne_label isControl closure
  refine kept.trans (property?_setProperties ?_ (View.ofKind kind))
  rcases labelControl_cases isControl with rfl | rfl | rfl | rfl | rfl | rfl | rfl | rfl
  all_goals
    simp [argumentProperties, levelProperties, textEntry, numberEntry]

end Call

namespace Render

open ViewPreview.Html

/-! ## What a control shows -/

section Controls

variable {options : RenderOptions} {view : View} {render : Within view}

theorem writeNodes_append (first second : List Node) :
    writeNodes (first ++ second) = writeNodes first ++ writeNodes second := by
  induction first with
  | nil => exact (String.empty_append).symm
  | cons node nodes ih => rw [List.cons_append, writeNodes, ih, writeNodes, String.append_assoc]

/-- The contents of an element stand in its text. -/
theorem infix_writeNodes_element (tag : String) (attributes : List Attribute) (nodes : List Node) :
    (writeNodes nodes).toList <:+: (Node.element tag attributes nodes).write.toList := by
  refine ⟨("<" ++ tag ++ writeAttributes attributes ++ ">").toList,
    ("</" ++ tag ++ ">").toList, ?_⟩
  rw [Node.write]
  simp [String.toList_append]

theorem infix_of_mem {node : Node} {nodes : List Node} {text : List Char} (tag : String)
    (attributes : List Attribute) (inNode : text <:+: node.write.toList) (member : node ∈ nodes) :
    text <:+: (Node.element tag attributes nodes).write.toList :=
  inNode.trans (infix_of_isPart (isPart_of_mem member))

/-- The label of a view without a title and a label are its children. -/
theorem labelMarkup_eq_children (untitled : view.property? "title" = none)
    (unlabeled : view.property? "label" = none) :
    labelMarkup view render = children view render := by
  have noTitle : titleMarkup? view = none := by
    rw [titleMarkup?, View.string?, untitled]
    rfl
  have noLabel : propertyMarkup? view render "label" = none := by
    unfold propertyMarkup?
    split
    all_goals simp_all
  rw [labelMarkup, noTitle, noLabel]
  rfl

/-- The children of a control that has neither a title nor a label stand in its markup, unless it is
a progress view. -/
theorem infix_children_of_labelControl (isControl : view.kind ∈ labelControls)
    (noProgress : view.kind ≠ .progressView) (untitled : view.property? "title" = none)
    (unlabeled : view.property? "label" = none) :
    (writeNodes (children view render)).toList <:+: (markup options view render).write.toList := by
  have label : labelMarkup view render = children view render :=
    labelMarkup_eq_children untitled unlabeled
  have title : titleMarkup? view = none := by
    rw [titleMarkup?, View.string?, untitled]
    rfl
  have shown (tag : String) (attributes : List Attribute) :
      (writeNodes (children view render)).toList <:+:
        (Node.element tag attributes (labelMarkup view render)).write.toList := by
    rw [label]
    exact infix_writeNodes_element tag attributes _
  unfold markup
  cases kind : view.kind
  all_goals
    rw [kind] at isControl noProgress
    dsimp only
  case toggle | stepper | datePicker | colorPicker =>
    exact infix_of_mem _ _ (shown _ _) List.mem_cons_self
  case link => exact shown _ _
  case slider =>
    unfold sliderMarkup
    dsimp only
    split
    · next empty =>
      rw [empty]
      exact List.nil_infix
    · refine List.IsInfix.trans ?_ (infix_writeNodes_element "label" _ _)
      rw [writeNodes_append, String.toList_append]
      exact (List.prefix_append _ _).isInfix
  case label =>
    refine infix_of_mem _ _ ?_ (List.mem_cons_of_mem _ List.mem_cons_self)
    rw [title]
    exact infix_writeNodes_element _ _ _
  case progressView => exact absurd rfl noProgress
  all_goals exact absurd isControl (by decide)

/-- The attributes of a progress view without modifiers do not depend on its properties. -/
theorem openingAttributes_progressView {first second : View}
    (isFirst : first.kind = .progressView) (isSecond : second.kind = .progressView)
    (firstPlain : first.modifiers = []) (secondPlain : second.modifiers = [])
    (extraClass : String) :
    openingAttributes first options extraClass = openingAttributes second options extraClass := by
  have style {view : View} (isProgress : view.kind = .progressView) (plain : view.modifiers = []) :
      Style.viewStyle view options = {} := by
    unfold Style.viewStyle Style.addModifiersStyle Style.kindStyle Style.kindDeclarations
    rw [isProgress, plain]
    rfl
  unfold openingAttributes styleAttributes accessibilityAttributes isHidden View.modifier?
  rw [style isFirst firstPlain, style isSecond secondPlain, isFirst, isSecond, firstPlain,
    secondPlain]

/-- A progress view shows its title and its value, and nothing else. -/
theorem progressMarkup_eq {first second : View}
    (isFirst : first.kind = .progressView) (isSecond : second.kind = .progressView)
    (firstPlain : first.modifiers = []) (secondPlain : second.modifiers = [])
    (same : ∀ key ∈ ["title", "value", "total", "range"],
      first.property? key = second.property? key) :
    progressMarkup options first = progressMarkup options second := by
  have attributes (extraClass : String) :
      openingAttributes first options extraClass = openingAttributes second options extraClass :=
    openingAttributes_progressView isFirst isSecond firstPlain secondPlain extraClass
  unfold progressMarkup plainElement viewElement titleMarkup? View.string? View.number? View.range?
  rw [same "title" (by decide), same "value" (by decide), same "total" (by decide),
    same "range" (by decide)]
  simp only [attributes]

end Controls

/-! ## Built controls -/

section Built

variable (options : RenderOptions) (kind : Kind) (arguments : Arguments)

theorem render_build (closures : List Closure) :
    render options (build kind arguments closures) =
      renderBare options (build kind arguments closures) := by
  rw [render, viewNode, wrap_of_unmodified (IsMadeOf.build kind arguments closures).modifiers_eq]
  rfl

/-- Whatever the closures of a progress view build is left out. -/
theorem render_progressView (closures : List Closure) :
    render options (build .progressView arguments closures) =
      render options (build .progressView arguments []) := by
  have made (closures : List Closure) := IsMadeOf.build .progressView arguments closures
  have shows {view : View} (isProgress : view.kind = .progressView) :
      renderBare options view = (progressMarkup options view).write := by
    rw [renderBare, markup, isProgress]
  rw [render_build, render_build, shows (made closures).kind_eq, shows (made []).kind_eq]
  refine congrArg Node.write (progressMarkup_eq (made closures).kind_eq (made []).kind_eq
    (made closures).modifiers_eq (made []).modifiers_eq fun key known ↦ ?_)
  have unset : ∀ key ∈ ["title", "value", "total", "range"], key ∉ "rowVariable" ::
      ["rowTemplate", "destination", "header", "footer", "icon", "label"] := by decide
  refine property?_attachAll ?_ fun closure _ found ↦ ?_
  · exact List.ne_of_not_mem_cons (unset key known)
  · exact List.not_mem_of_not_mem_cons (unset key known) (mem_of_key? found)

/-- Views that stand in a list one behind the other are rendered one behind the other. -/
theorem infix_join_render {views others : List View} (inside : views <:+: others) :
    (String.join (views.map (render options))).toList <:+:
      (writeNodes (others.map (viewNode options))).toList := by
  obtain ⟨before, after, rfl⟩ := inside
  have written (views : List View) : writeNodes (views.map (viewNode options)) =
      String.join (views.map (render options)) := by
    rw [writeNodes_eq_join, List.map_map]
    rfl
  rw [List.map_append, List.map_append, writeNodes_append, writeNodes_append, written views,
    String.toList_append, String.toList_append]
  exact ⟨_, _, rfl⟩

/-- What the closure without a label builds for a control that is called without a title is shown:
the markup of the control contains the markup of these views, one behind the other.  For a progress
view, which has its label from such a closure like the other controls, it is not: its markup is that
of a progress view without closures. -/
theorem labelClosure_shown {kind : Kind}
    (isLabel : ∀ arguments hasLabelClosure,
      unlabeledRole kind arguments hasLabelClosure = .label)
    {arguments : Arguments} (untitled : arguments.firstString? = none) (hasLabelClosure : Bool)
    (parameter : Option String) (views : List View) (before after : List Closure) :
    let closure : Closure :=
      ⟨closureRole kind arguments none hasLabelClosure, none, parameter, views⟩
    let view := build kind arguments (before ++ closure :: after)
    (kind ≠ .progressView →
        (String.join (views.map (render options))).toList <:+: (render options view).toList) ∧
      (kind = .progressView → render options view = render options (build kind arguments [])) := by
  intro closure view
  have isControl := mem_labelControls_iff.mpr isLabel
  refine ⟨fun noProgress ↦ ?_, ?_⟩
  · have made := IsMadeOf.build kind arguments (before ++ closure :: after)
    have label : closure.children kind = views := by
      rw [Closure.children, show closure.role = .label from isLabel arguments hasLabelClosure]
      rcases labelControl_cases isControl with rfl | rfl | rfl | rfl | rfl | rfl | rfl | rfl
      all_goals rfl
    have inside : views <:+: view.children := by
      rw [children_build, List.flatMap_append, List.flatMap_cons, label]
      exact ⟨_, _, List.append_assoc _ _ _⟩
    have shown : (writeNodes (children view fun inner _ ↦ viewNode options inner)).toList <:+:
        (markup options view fun inner _ ↦ viewNode options inner).write.toList :=
      infix_children_of_labelControl (made.kind_eq.symm ▸ isControl)
        (made.kind_eq.symm ▸ noProgress) (title_of_labelControl isControl untitled _)
        (label_of_labelControl isControl arguments _)
    rw [children, List.pmap_eq_map] at shown
    rw [render_build]
    exact (infix_join_render options inside).trans shown
  · rintro rfl
    exact render_progressView options arguments _

end Built

theorem labelClosure_shown_toggle :
    (∀ arguments hasLabelClosure, unlabeledRole .toggle arguments hasLabelClosure = .label) ∧
      ({} : Arguments).firstString? = none ∧
      (String.join ([View.ofText "Wi-Fi", View.ofText "on"].map (render {}))).toList <:+:
        (render {} (build .toggle {} [⟨.label, none, none,
          [View.ofText "Wi-Fi", View.ofText "on"]⟩])).toList := by
  have isLabel : ∀ arguments hasLabelClosure,
      unlabeledRole .toggle arguments hasLabelClosure = .label := fun _ _ ↦ rfl
  exact ⟨isLabel, rfl,
    (labelClosure_shown {} isLabel rfl false none [View.ofText "Wi-Fi", View.ofText "on"] [] []).1
      (by decide)⟩

/-- A progress view with a text for its label. -/
def loading : View :=
  build .progressView {} [⟨.label, none, none, [View.ofText "Loading"]⟩]

/-- A progress view takes the closure for its label, but does not show the text that is in it. -/
theorem loading_left_out :
    (∀ arguments hasLabelClosure, unlabeledRole .progressView arguments hasLabelClosure = .label) ∧
      ({} : Arguments).firstString? = none ∧
      loading.children = [View.ofText "Loading"] ∧
      ¬(String.join ([View.ofText "Loading"].map (render {}))).toList <:+:
        (render {} loading).toList := by
  refine ⟨fun _ _ ↦ rfl, rfl, rfl, fun inside ↦ ?_⟩
  have text : 'L' ∈ (String.join ([View.ofText "Loading"].map (render {}))).toList := by
    rw [List.map_singleton, render, viewNode]
    decide
  have markup : render {} loading = "<div class=\"sv-progressview sv-progress-spinner\"" ++
      " role=\"progressbar\"><span class=\"sv-spinner\"></span></div>" := by
    rw [render, viewNode]
    decide
  have absent : 'L' ∉ (render {} loading).toList := by
    rw [markup]
    decide
  exact absent (inside.subset text)

end Render

end ViewPreview
