import ViewPreview.Render.Attributes
import ViewPreview.Render.Layer
import ViewPreview.Style.Symbol
import ViewPreview.View.Preorder
import ViewPreview.View.Rows

/-!
# Markup of Each Kind

The element that each kind of view becomes.  Rendering is total: a view is rendered in terms of
views that are lighter than it, which are its children, the rows of its repetitions, and the views
in its properties and modifiers.
-/

namespace ViewPreview.Render

open ViewPreview.Html (Node Attribute)
open ViewPreview.Number (styleText)

/-- The element of a view: the attributes every view opens with, and more after them. -/
def viewElement (options : RenderOptions) (tag : String) (view : View) (extraClass : String)
    (more : List Attribute) (contents : List Node) : Node :=
  .element tag (openingAttributes view options extraClass ++ more) contents

/-- The element of a view with no further class or attribute. -/
def plainElement (options : RenderOptions) (tag : String) (view : View) (contents : List Node) :
    Node :=
  viewElement options tag view "" [] contents

/-- The element of a view that has no contents and no closing tag. -/
def voidElement (options : RenderOptions) (tag : String) (view : View) (extraClass : String)
    (more : List Attribute) : Node :=
  .void tag (openingAttributes view options extraClass ++ more)

/-! ## The views inside a view -/

/-- The markup of the children. -/
def children (view : View) (render : Within view) : List Node :=
  view.children.pmap render fun _ member ↦ View.weight_lt_of_mem_children member

/-- The markup of the rows of a repetition. -/
def repetition (options : RenderOptions) (view : View) (render : Within view) : List Node :=
  (view.expandRows options.maxRepeat).pmap render fun _ member ↦
    View.weight_lt_of_mem_expandRows member

/-- The markup of the children, plain repetitions replaced by their rows, each put into a frame. -/
def framedRows (options : RenderOptions) (view : View) (render : Within view)
    (frame : View → Node → Node) : List Node :=
  (inlineRows options.maxRepeat view.children).pmap
    (fun row lighter ↦ frame row (render row lighter))
    fun _ member ↦ View.weight_lt_of_mem_inlineRows member

/-- The markup of a property that is a text or a view. -/
def propertyMarkup? (view : View) (render : Within view) (key : String) : Option (List Node) :=
  match found : view.property? key with
  | some (.text value) => some [.text value]
  | some (.token value) => some [.text value]
  | some (.view inner) => some [render inner (View.weight_lt_of_property found)]
  | _ => none

/-- The title of a view as markup. -/
def titleMarkup? (view : View) : Option (List Node) :=
  (view.string? "title").map fun title ↦ [.text title]

/-- The heading of a view: its title, else its label. -/
def headingMarkup (view : View) (render : Within view) : List Node :=
  ((titleMarkup? view).or (propertyMarkup? view render "label")).getD []

/-- The label of a control: its title, else its label, else its children. -/
def labelMarkup (view : View) (render : Within view) : List Node :=
  ((titleMarkup? view).or (propertyMarkup? view render "label")).getD (children view render)

/-! ## Kinds with a structure of their own -/

/-- A row of a list or section. -/
def listRow (row : Node) : Node :=
  .element "div" [.verbatim "class" "sv-row", .verbatim "role" "listitem"] [row]

/-- A list: sections stand by themselves, other rows are framed. -/
def listMarkup (options : RenderOptions) (view : View) (render : Within view) : Node :=
  let variant := Text.lower ((view.modifierToken? "listStyle").getD "automatic")
  viewElement options "div" view ("sv-list-" ++ variant) [.verbatim "role" "list"]
    (framedRows options view render fun row markup ↦
      if row.kind = .listSection then markup else listRow markup)

/-- A section with its header and footer. -/
def sectionMarkup (options : RenderOptions) (view : View) (render : Within view) : Node :=
  let header :=
    ((propertyMarkup? view render "header").or (titleMarkup? view)).or
      (propertyMarkup? view render "label")
  let footer := propertyMarkup? view render "footer"
  plainElement options "section" view
    ((header.map fun contents ↦ Node.classed "header" "sv-section-header" contents).toList ++
      .element "div" [.verbatim "class" "sv-section-body", .verbatim "role" "list"]
        (framedRows options view render fun _ markup ↦ listRow markup) ::
      (footer.map fun contents ↦ Node.classed "footer" "sv-section-footer" contents).toList)

/-- The bar of a navigation view that shows the title given inside it. -/
def navigationBar (view : View) : List Node :=
  match view.navigationTitle? with
  | some (title, inline) =>
    [.classed "header" (if inline then "sv-navbar sv-navbar-inline" else "sv-navbar")
      [.classed "h1" "sv-navtitle" [.text title]]]
  | none => []

/-- A navigation view: its bar and its contents. -/
def navigationMarkup (options : RenderOptions) (view : View) (render : Within view) : Node :=
  plainElement options "div" view
    (navigationBar view ++ [.classed "div" "sv-navigation-content" (children view render)])

/-- A tab as it is shown: without what belongs to the tab bar. -/
def shownTab (tab : View) : View :=
  { tab with
    modifiers := tab.modifiers.filter fun modifier ↦
      modifier.name != "tabItem" && modifier.name != "badge" }

theorem modifiersWeight_filter_le (keep : Modifier View → Bool) (modifiers : List (Modifier View)) :
    modifiersWeight (modifiers.filter keep) ≤ modifiersWeight modifiers := by
  induction modifiers with
  | nil => simp
  | cons head tail ih =>
    rw [List.filter_cons]
    split
    · simp only [modifiersWeight]
      omega
    · simp only [modifiersWeight]
      omega

theorem weight_shownTab_le (tab : View) : (shownTab tab).weight ≤ tab.weight := by
  rw [View.weight_eq, View.weight_eq tab]
  have := modifiersWeight_filter_le
    (fun modifier ↦ modifier.name != "tabItem" && modifier.name != "badge") tab.modifiers
  simp only [shownTab]
  omega

/-- The label of a tab in the tab bar: the view its last `tabItem` carries, else its number. -/
def tabLabel (tab : View) (render : Within tab) (index : Nat) : Node :=
  match found : tab.modifiers.reverse.find? fun modifier ↦ modifier.name == "tabItem" with
  | some ⟨_, .content content⟩ =>
    render content.view
      (View.weight_lt_of_mem_modifiers (List.mem_reverse.mp (List.mem_of_find?_eq_some found)))
  | _ => .text ("Tab " ++ Style.natText (index + 1))

/-- The button of a tab in the tab bar. -/
def tabButton (tab : View) (render : Within tab) (index : Nat) : Node :=
  .element "button"
    [.verbatim "type" "button",
      .verbatim "class" (if index = 0 then "sv-tab sv-tab-active" else "sv-tab")]
    (tabLabel tab render index ::
      (((tab.modifier? "badge").bind fun modifier ↦ badgeText? modifier.arguments).map
        badge).toList)

/-- A tab view: the first tab and the bar of all tabs. -/
def tabViewMarkup (options : RenderOptions) (view : View) (render : Within view) : Node :=
  let tabs := inlineRows options.maxRepeat view.children
  let shown := (tabs.take 1).pmap
    (fun tab (lighter : tab.weight < view.weight) ↦
      render (shownTab tab) (Nat.lt_of_le_of_lt (weight_shownTab_le tab) lighter))
    fun _ member ↦ View.weight_lt_of_mem_inlineRows (List.mem_of_mem_take member)
  let buttons := tabs.zipIdx.pmap
    (fun tab (lighter : tab.1.weight < view.weight) ↦
      tabButton tab.1 (fun inner inside ↦ render inner (Nat.lt_trans inside lighter)) tab.2)
    fun _ member ↦ View.weight_lt_of_mem_inlineRows (List.fst_mem_of_mem_zipIdx member)
  plainElement options "div" view
    [.classed "div" "sv-tab-content" shown, .classed "nav" "sv-tabbar" buttons]

/-- The button of one choice of a segmented picker. -/
def segment (choice : String) (index : Nat) : Node :=
  .element "button"
    [.verbatim "type" "button",
      .verbatim "class" (if index = 0 then "sv-segment sv-segment-active" else "sv-segment")]
    [.text choice]

/-- The control of a picker over its choices. -/
def pickerControl (segmented : Bool) (choices : List String) : Node :=
  if segmented then
    .element "div" [.verbatim "class" "sv-segmented", .verbatim "role" "radiogroup"]
      (choices.zipIdx.map fun choice ↦ segment choice.1 choice.2)
  else
    .element "select" [] (choices.map fun choice ↦ .element "option" [] [.text choice])

/-- A picker: its heading and one choice for each row, shown by the first text in it. -/
def pickerMarkup (options : RenderOptions) (view : View) (render : Within view) : Node :=
  let choices := (inlineRows options.maxRepeat view.children).map fun row ↦
    row.plainText?.getD ""
  plainElement options "label" view
    [.classed "span" "sv-picker-label" (headingMarkup view render),
      pickerControl (view.modifierToken? "pickerStyle" == some "segmented") choices]

/-- An image: a symbol's glyph, or a box with the name of the asset. -/
def imageMarkup (options : RenderOptions) (view : View) : Node :=
  match view.string? "systemName" with
  | some symbol =>
    viewElement options "span" view "sv-symbol"
      [.verbatim "role" "img", .text "aria-label" symbol] [.text (Style.symbol symbol)]
  | none =>
    let name := (view.propertyText? "name").getD ""
    viewElement options "div" view "sv-image-asset"
      [.verbatim "role" "img", .text "aria-label" name] [.text name]

/-- A progress view: a spinner when there is no value, else a bar up to the total. -/
def progressMarkup (options : RenderOptions) (view : View) : Node :=
  let label := (titleMarkup? view).getD []
  match view.number? "value" with
  | none =>
    viewElement options "div" view "sv-progress-spinner" [.verbatim "role" "progressbar"]
      (.classed "span" "sv-spinner" [] :: label)
  | some value =>
    let total := ((view.number? "total").or
      ((view.range? "range").map fun range ↦ Float.ofInt range.stop.toInt)).getD 1.0
    plainElement options "div" view
      (label ++ [.element "progress"
        [.verbatim "max" (styleText total), .verbatim "value" (styleText value)] []])

/-- A slider, inside a label when it has children. -/
def sliderMarkup (options : RenderOptions) (view : View) (render : Within view) : Node :=
  let (least, greatest) := match view.range? "range" with
    | some range => (Float.ofInt range.start.toInt, Float.ofInt range.stop.toInt)
    | none => (0.0, 1.0)
  let value := (view.number? "value").getD ((least + greatest) / 2.0)
  let input := voidElement options "input" view ""
    [.verbatim "type" "range", .verbatim "min" (styleText least),
      .verbatim "max" (styleText greatest), .verbatim "step" "any",
      .verbatim "value" (styleText value)]
  match children view render with
  | [] => input
  | label => .classed "label" "sv-slider-row" (label ++ [input])

/-- A field for text; `inputType` tells a plain field from one that hides what is typed. -/
def fieldMarkup (options : RenderOptions) (view : View) (inputType : String) : Node :=
  let variant := Text.lower ((view.modifierToken? "textFieldStyle").getD "automatic")
  voidElement options "input" view ("sv-field-" ++ variant)
    ([.verbatim "type" inputType, .text "placeholder" ((view.string? "title").getD "")] ++
      ((view.string? "text").map (.text "value")).toList)

/-- A switch with its label. -/
def toggleMarkup (options : RenderOptions) (view : View) (render : Within view) : Node :=
  plainElement options "label" view
    [.classed "span" "sv-toggle-label" (labelMarkup view render),
      .void "input"
        ([.verbatim "type" "checkbox", .verbatim "role" "switch"] ++
          if (view.bool? "isOn").getD false then [.flag "checked"] else [])]

/-- A label: its icon and its title, or its children in place of the title. -/
def labelViewMarkup (options : RenderOptions) (view : View) (render : Within view) : Node :=
  let icon := match view.string? "systemImage" with
    | some symbol => [.text (Style.symbol symbol)]
    | none => (propertyMarkup? view render "icon").getD []
  plainElement options "span" view
    [.element "span" [.verbatim "class" "sv-label-icon", .verbatim "aria-hidden" "true"] icon,
      .classed "span" "sv-label-title" ((titleMarkup? view).getD (children view render))]

/-- A control that opens a dialog of the browser. -/
def dialogMarkup (options : RenderOptions) (view : View) (render : Within view)
    (inputType : String) : Node :=
  plainElement options "label" view
    [.element "span" [] (labelMarkup view render), .void "input" [.verbatim "type" inputType]]

/-! ## All kinds -/

/-- The markup of a view before its modifiers wrap it. -/
def markup (options : RenderOptions) (view : View) (render : Within view) : Node :=
  match view.kind with
  | .vStack | .hStack | .lazyVStack | .lazyHStack | .grid | .gridRow | .scrollView
  | .geometryReader => plainElement options "div" view (children view render)
  | .zStack =>
    plainElement options "div" view ((children view render).map fun layer ↦
      .element "div" [.verbatim "style" "grid-area: 1 / 1"] [layer])
  | .group =>
    viewElement options "div" view
      (if (view.property? "placeholder").isSome then "sv-placeholder" else "") []
      (children view render)
  | .forEach => plainElement options "div" view (repetition options view render)
  | .list | .form => listMarkup options view render
  | .listSection => sectionMarkup options view render
  | .navigationView | .navigationStack => navigationMarkup options view render
  | .navigationSplitView =>
    plainElement options "div" view ((children view render).map fun column ↦
      .classed "div" "sv-split-column" [column])
  | .tabView => tabViewMarkup options view render
  | .disclosureGroup =>
    viewElement options "details" view "" [.flag "open"]
      [.element "summary" [] (headingMarkup view render),
        .classed "div" "sv-disclosure-content" (children view render)]
  | .menu =>
    plainElement options "details" view
      [.element "summary" [] (headingMarkup view render ++ [.text " ▾"]),
        .classed "div" "sv-menu-items"
          (framedRows options view render fun _ item ↦ .classed "div" "sv-menu-item" [item])]
  | .picker => pickerMarkup options view render
  | .navigationLink =>
    plainElement options "a" view
      [.classed "span" "sv-navlink-label" (labelMarkup view render),
        .classed "span" "sv-chevron" [.text "›"]]
  | .text => plainElement options "span" view [.text ((view.string? "text").getD "")]
  | .image => imageMarkup options view
  | .label => labelViewMarkup options view render
  | .divider => voidElement options "hr" view "" []
  | .button =>
    let variant := Text.lower ((view.modifierToken? "buttonStyle").getD "automatic")
    viewElement options "button" view ("sv-button-" ++ variant) [.verbatim "type" "button"]
      (labelMarkup view render)
  | .toggle => toggleMarkup options view render
  | .textField => fieldMarkup options view "text"
  | .secureField => fieldMarkup options view "password"
  | .textEditor => plainElement options "textarea" view [.text ((view.string? "text").getD "")]
  | .slider => sliderMarkup options view render
  | .stepper =>
    plainElement options "div" view
      [.classed "span" "sv-stepper-label" (labelMarkup view render),
        .classed "span" "sv-stepper-buttons"
          [.element "button" [.verbatim "type" "button"] [.text "−"],
            .element "button" [.verbatim "type" "button"] [.text "+"]]]
  | .progressView => progressMarkup options view
  | .datePicker => dialogMarkup options view render "date"
  | .colorPicker => dialogMarkup options view render "color"
  | .link =>
    viewElement options "a" view "" [.text "href" ((view.string? "url").getD "#")]
      (labelMarkup view render)
  | .asyncImage =>
    voidElement options "img" view ""
      [.text "src" ((view.string? "url").getD ""), .verbatim "alt" ""]
  | .spacer | .rectangle | .circle | .roundedRectangle | .capsule | .ellipse | .linearGradient
  | .radialGradient => plainElement options "div" view []
  | .custom =>
    viewElement options "div" view "sv-placeholder" [] [.text ("<" ++ view.kind.name ++ ">")]

/-- The markup of a view and everything inside it, with the wrappings its modifiers ask for. -/
def viewNode (options : RenderOptions) (view : View) : Node :=
  wrap view (fun inner _ ↦ viewNode options inner)
    (markup options view fun inner _ ↦ viewNode options inner)
termination_by view.weight

/-- The HTML of a view. -/
def render (options : RenderOptions) (view : View) : String :=
  (viewNode options view).write

/-- The HTML of a view before its own modifiers wrap it. -/
def renderBare (options : RenderOptions) (view : View) : String :=
  (markup options view fun inner _ ↦ viewNode options inner).write

end ViewPreview.Render
