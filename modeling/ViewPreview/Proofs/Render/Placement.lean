import ViewPreview.Proofs.Html.Place
import ViewPreview.Proofs.Style.Declared
import ViewPreview.Render.Markup

/-!
# Texts in Rendered Markup

Where the texts of a view stand in its markup: titles, labels and the text itself as contents, or as
values of attributes in fields, locations in the attribute of their link or image, what the
accessibility modifiers say in attributes of the view's tag.  Every one of them is escaped once, so
that decoding its place once gives back the text.
-/

namespace ViewPreview.Render

open ViewPreview.Html
open ViewPreview.Style (Declaration InlineStyle familyText fontDeclarations modifierDeclarations
  readStyle viewStyle viewStyle_allDeclarations withoutQuotes withoutQuotes_append
  withoutQuotes_singleton)

section Markup

variable {options : RenderOptions} {view : View} {render : Within view} {place : Place}
  {text written : String}

/-! ## What is shown where -/

/-- Texts shown as contents. -/
def contents (texts : List String) : List (Place × String) :=
  texts.map fun text ↦ (.content, text)

/-- The title of a view, else its label where that is a text. -/
def labelText? (view : View) : Option String :=
  (view.string? "title").or (view.string? "label")

/-- The text above a section, unless a view stands there. -/
def headerText? (view : View) : Option String :=
  match view.property? "header" with
  | some (.text value) => some value
  | some (.token value) => some value
  | some (.view _) => none
  | _ => labelText? view

/-- The choices of a picker. -/
def choices (options : RenderOptions) (view : View) : List String :=
  (inlineRows options.maxRepeat view.children).map fun row ↦ row.plainText?.getD ""

/-- The name of an image, which is shown where its symbol or asset is not. -/
def imageTexts (view : View) : List (Place × String) :=
  match view.string? "systemName" with
  | some symbol => [(.value "aria-label", symbol)]
  | none =>
    let name := (view.propertyText? "name").getD ""
    [(.value "aria-label", name), (.content, name)]

/-- The texts that a view shows because of its kind, with their places. -/
def kindTexts (options : RenderOptions) (view : View) : List (Place × String) :=
  match view.kind with
  | .text | .textEditor => [(.content, (view.string? "text").getD "")]
  | .textField | .secureField =>
    (.value "placeholder", (view.string? "title").getD "") ::
      (view.string? "text").toList.map fun text ↦ (.value "value", text)
  | .link => (.value "href", (view.string? "url").getD "#") :: contents (labelText? view).toList
  | .asyncImage => [(.value "src", (view.string? "url").getD "")]
  | .image => imageTexts view
  | .progressView | .label => contents (view.string? "title").toList
  | .listSection =>
    contents (headerText? view).toList ++ contents (view.string? "footer").toList
  | .disclosureGroup | .menu | .navigationLink | .button | .toggle | .stepper | .datePicker
  | .colorPicker => contents (labelText? view).toList
  | .picker => contents (labelText? view).toList ++ contents (choices options view)
  | .navigationView | .navigationStack => contents (view.navigationTitle?.map Prod.fst).toList
  | _ => []

/-- The text that an accessibility or help modifier puts into an attribute. -/
def modifierText? (modifier : Modifier View) : Option (Place × String) :=
  match modifier.arguments with
  | .text text => (accessibilityAttribute? modifier.name).map fun name ↦ (.value name, text)
  | _ => none

/-- The texts that a view shows, with their places. -/
def shownTexts (options : RenderOptions) (view : View) : List (Place × String) :=
  kindTexts options view ++ view.modifiers.filterMap modifierText?

/-! ## Elements -/

theorem shows_element {tag : String} {attributes : List Attribute} {nodes : List Node} {node : Node}
    (shows : node.Shows place written) (member : node ∈ nodes) :
    (Node.element tag attributes nodes).Shows place written :=
  shows.of_isPart (isPart_of_mem member)

theorem shows_viewElement {tag extraClass : String} {more : List Attribute} {nodes : List Node}
    {node : Node} (shows : node.Shows place written) (member : node ∈ nodes) :
    (viewElement options tag view extraClass more nodes).Shows place written :=
  shows_element shows member

theorem shows_plainElement {tag : String} {nodes : List Node} {node : Node}
    (shows : node.Shows place written) (member : node ∈ nodes) :
    (plainElement options tag view nodes).Shows place written :=
  shows_element shows member

/-- An attribute behind those that every view opens with. -/
theorem shows_viewElement_value {tag extraClass name : String} {more : List Attribute}
    {nodes : List Node} (member : Attribute.text name text ∈ more) :
    (viewElement options tag view extraClass more nodes).Shows (.value name) (escape text) :=
  shows_value (List.mem_append_right _ member)

theorem shows_voidElement_value {tag extraClass name : String} {more : List Attribute}
    (member : Attribute.text name text ∈ more) :
    (voidElement options tag view extraClass more).Shows (.value name) (escape text) :=
  shows_value (List.mem_append_right _ member)

/-! ### Headings -/

/-- A property that is a text becomes that text. -/
theorem propertyMarkup?_text {key : String} (found : view.string? key = some text) :
    propertyMarkup? view render key = some [.text text] := by
  unfold View.string? at found
  unfold propertyMarkup?
  split at found
  · next value property =>
    cases found
    split
    all_goals simp_all
  · next value property =>
    cases found
    split
    all_goals simp_all
  · cases found

/-- The title or the label of a view becomes its heading, whatever else might stand there. -/
theorem title_or_label_eq (found : labelText? view = some text) :
    (titleMarkup? view).or (propertyMarkup? view render "label") = some [.text text] := by
  rcases Option.or_eq_some_iff.mp found with title | ⟨noTitle, label⟩
  · rw [titleMarkup?, title, Option.map_some, Option.some_or]
  · rw [titleMarkup?, noTitle, Option.map_none, Option.none_or, propertyMarkup?_text label]

theorem headingMarkup_eq (found : labelText? view = some text) :
    headingMarkup view render = [.text text] := by
  rw [headingMarkup, title_or_label_eq found, Option.getD_some]

theorem labelMarkup_eq (found : labelText? view = some text) :
    labelMarkup view render = [.text text] := by
  rw [labelMarkup, title_or_label_eq found, Option.getD_some]

/-- The header of a section is the text above it. -/
theorem headerMarkup_eq (found : headerText? view = some text) :
    ((propertyMarkup? view render "header").or (titleMarkup? view)).or
      (propertyMarkup? view render "label") = some [.text text] := by
  have noHeader (found : labelText? view = some text)
      (none : propertyMarkup? view render "header" = none) :
      ((propertyMarkup? view render "header").or (titleMarkup? view)).or
        (propertyMarkup? view render "label") = some [.text text] := by
    rw [none, Option.none_or, title_or_label_eq found]
  unfold headerText? at found
  split at found
  · next value property =>
    cases found
    rw [propertyMarkup?_text (by rw [View.string?, property]), Option.some_or, Option.some_or]
  · next value property =>
    cases found
    rw [propertyMarkup?_text (by rw [View.string?, property]), Option.some_or, Option.some_or]
  · cases found
  · next noText noToken noView =>
    apply noHeader found
    unfold propertyMarkup?
    split
    · next property => exact absurd property (noText _)
    · next property => exact absurd property (noToken _)
    · next property => exact absurd property (noView _)
    · rfl

/-! ## Kinds -/

/-- An element around a text. -/
theorem shows_around {tag : String} {attributes : List Attribute} {nodes : List Node}
    (same : nodes = [.text text]) :
    (Node.element tag attributes nodes).Shows .content (escape text) := by
  rw [same]
  exact shows_element (shows_text text) List.mem_cons_self

theorem shows_pickerControl {segmented : Bool} {texts : List String} (member : text ∈ texts) :
    (pickerControl segmented texts).Shows .content (escape text) := by
  unfold pickerControl
  split
  · obtain ⟨index, inRange, same⟩ := List.mem_iff_getElem.mp member
    have inIndexed : (text, index) ∈ texts.zipIdx := by
      rw [List.mem_zipIdx_iff_getElem?, List.getElem?_eq_getElem inRange, same]
    exact shows_element (shows_around rfl) (List.mem_map_of_mem inIndexed)
  · exact shows_element (shows_around rfl) (List.mem_map_of_mem member)

theorem shows_navigationBar {inline : Bool} (found : view.navigationTitle? = some (text, inline)) :
    ∃ bar ∈ navigationBar view, bar.Shows .content (escape text) := by
  rw [navigationBar, found]
  exact ⟨_, List.mem_cons_self, shows_element (shows_around rfl) List.mem_cons_self⟩

theorem shows_imageMarkup {entry : Place × String} (member : entry ∈ imageTexts view) :
    (imageMarkup options view).Shows entry.1 (escape entry.2) := by
  rw [imageMarkup]
  rw [imageTexts] at member
  cases named : view.string? "systemName" with
  | some symbol =>
    rw [named] at member
    rw [List.mem_singleton.mp member]
    exact shows_viewElement_value (List.mem_cons_of_mem _ List.mem_cons_self)
  | none =>
    rw [named] at member
    rcases List.mem_cons.mp member with rfl | asset
    · exact shows_viewElement_value (List.mem_cons_of_mem _ List.mem_cons_self)
    · rw [List.mem_singleton.mp asset]
      exact shows_around rfl

/-- What a view shows because of its kind stands in its markup. -/
theorem shows_kindTexts {entry : Place × String} (member : entry ∈ kindTexts options view) :
    (markup options view render).Shows entry.1 (escape entry.2) := by
  have asContents {texts : List String} {goal : Prop} (inContents : entry ∈ contents texts)
      (shows : ∀ text ∈ texts, entry = (.content, text) → goal) : goal := by
    obtain ⟨text, inTexts, same⟩ := List.mem_map.mp inContents
    exact shows text inTexts same.symm
  unfold kindTexts at member
  unfold markup
  cases kind : view.kind
  all_goals
    rw [kind] at member
    dsimp only at member ⊢
  case text | textEditor =>
    rw [List.mem_singleton.mp member]
    exact shows_around rfl
  case textField | secureField =>
    rcases List.mem_cons.mp member with rfl | value
    · exact shows_voidElement_value (by simp)
    · obtain ⟨text, found, rfl⟩ := List.mem_map.mp value
      exact shows_voidElement_value (by simp [Option.mem_toList.mp found])
  case link =>
    rcases List.mem_cons.mp member with rfl | label
    · exact shows_viewElement_value List.mem_cons_self
    · refine asContents label fun text found same ↦ ?_
      rw [same]
      exact shows_around (labelMarkup_eq (Option.mem_toList.mp found))
  case asyncImage =>
    rw [List.mem_singleton.mp member]
    exact shows_voidElement_value List.mem_cons_self
  case image => exact shows_imageMarkup member
  case navigationView | navigationStack =>
    refine asContents member fun text found same ↦ ?_
    rw [same]
    obtain ⟨⟨title, inline⟩, titled, rfl⟩ :=
      Option.map_eq_some_iff.mp (Option.mem_toList.mp found)
    obtain ⟨bar, inBar, shows⟩ := shows_navigationBar titled
    exact shows_plainElement shows (List.mem_append_left _ inBar)
  case picker =>
    rcases List.mem_append.mp member with label | choice
    · refine asContents label fun text found same ↦ ?_
      rw [same]
      exact shows_plainElement (shows_around (headingMarkup_eq (Option.mem_toList.mp found)))
        List.mem_cons_self
    · refine asContents choice fun text inChoices same ↦ ?_
      rw [same]
      exact shows_plainElement (shows_pickerControl inChoices)
        (List.mem_cons_of_mem _ List.mem_cons_self)
  case listSection =>
    rcases List.mem_append.mp member with header | footer
    · refine asContents header fun text found same ↦ ?_
      rw [same]
      unfold sectionMarkup
      rw [headerMarkup_eq (Option.mem_toList.mp found)]
      exact shows_plainElement (shows_around rfl) (List.mem_append_left _ List.mem_cons_self)
    · refine asContents footer fun text found same ↦ ?_
      rw [same]
      unfold sectionMarkup
      rw [propertyMarkup?_text (Option.mem_toList.mp found)]
      exact shows_plainElement (shows_around rfl)
        (List.mem_append_right _ (List.mem_cons_of_mem _ List.mem_cons_self))
  case progressView =>
    refine asContents member fun text found same ↦ ?_
    rw [same]
    have label : Node.text text ∈ (titleMarkup? view).getD [] := by
      rw [titleMarkup?, Option.mem_toList.mp found]
      exact List.mem_cons_self
    unfold progressMarkup
    dsimp only
    split
    · exact shows_viewElement (shows_text text) (List.mem_cons_of_mem _ label)
    · exact shows_plainElement (shows_text text) (List.mem_append_left _ label)
  case label =>
    refine asContents member fun text found same ↦ ?_
    have title : (titleMarkup? view).getD (children view render) = [.text text] := by
      rw [titleMarkup?, Option.mem_toList.mp found]
      rfl
    rw [same]
    exact shows_plainElement (shows_around title) (List.mem_cons_of_mem _ List.mem_cons_self)
  case disclosureGroup =>
    refine asContents member fun text found same ↦ ?_
    rw [same]
    exact shows_viewElement (shows_around (headingMarkup_eq (Option.mem_toList.mp found)))
      List.mem_cons_self
  case menu =>
    refine asContents member fun text found same ↦ ?_
    have summary : Node.text text ∈ headingMarkup view render ++ [.text " ▾"] := by
      rw [headingMarkup_eq (Option.mem_toList.mp found)]
      exact List.mem_cons_self
    rw [same]
    exact shows_plainElement (shows_element (shows_text text) summary) List.mem_cons_self
  case button =>
    refine asContents member fun text found same ↦ ?_
    rw [same]
    exact shows_around (labelMarkup_eq (Option.mem_toList.mp found))
  case navigationLink | toggle | stepper | datePicker | colorPicker =>
    refine asContents member fun text found same ↦ ?_
    rw [same]
    exact shows_plainElement (shows_around (labelMarkup_eq (Option.mem_toList.mp found)))
      List.mem_cons_self
  -- No other kind shows a text of its own.
  all_goals exact absurd member List.not_mem_nil

/-! ## Modifiers -/

/-- A piece of markup that begins with the attributes every view opens with. -/
def HasOpening (options : RenderOptions) (view : View) (node : Node) : Prop :=
  ∃ (part : Node) (extraClass : String) (more : List Attribute), part.IsPart node ∧
    part.attributes = openingAttributes view options extraClass ++ more

theorem hasOpening_viewElement (tag extraClass : String) (more : List Attribute)
    (nodes : List Node) :
    HasOpening options view (viewElement options tag view extraClass more nodes) :=
  ⟨_, extraClass, more, .self, rfl⟩

theorem hasOpening_voidElement (tag extraClass : String) (more : List Attribute) :
    HasOpening options view (voidElement options tag view extraClass more) :=
  ⟨_, extraClass, more, .self, rfl⟩

theorem HasOpening.of_isPart {child node : Node} (opening : HasOpening options view child)
    (inNode : child.IsPart node) : HasOpening options view node := by
  obtain ⟨part, extraClass, more, inChild, attributes⟩ := opening
  exact ⟨part, extraClass, more, inChild.trans inNode, attributes⟩

theorem hasOpening_sliderMarkup : HasOpening options view (sliderMarkup options view render) := by
  unfold sliderMarkup
  dsimp only
  split
  · exact hasOpening_voidElement _ _ _
  · apply HasOpening.of_isPart (hasOpening_voidElement "input" "" _)
    exact isPart_of_mem (List.mem_append_right _ List.mem_cons_self)

/-- The markup of every kind opens with these attributes. -/
theorem hasOpening_markup (options : RenderOptions) (view : View) (render : Within view) :
    HasOpening options view (markup options view render) := by
  unfold markup
  cases view.kind
  all_goals dsimp only
  case slider => exact hasOpening_sliderMarkup
  case divider => exact hasOpening_voidElement _ _ _
  case textField | secureField => exact hasOpening_voidElement _ _ _
  case asyncImage => exact hasOpening_voidElement _ _ _
  case progressView =>
    unfold progressMarkup
    dsimp only
    split
    · exact hasOpening_viewElement _ _ _ _
    · exact hasOpening_viewElement _ _ _ _
  case image =>
    unfold imageMarkup
    split
    · exact hasOpening_viewElement _ _ _ _
    · exact hasOpening_viewElement _ _ _ _
  all_goals exact hasOpening_viewElement _ _ _ _

/-- What an accessibility or help modifier says stands in the tag of its view. -/
theorem shows_modifierText {modifier : Modifier View} {entry : Place × String} {node : Node}
    (opening : HasOpening options view node) (member : modifier ∈ view.modifiers)
    (found : modifierText? modifier = some entry) : node.Shows entry.1 (escape entry.2) := by
  obtain ⟨part, extraClass, more, inNode, attributes⟩ := opening
  unfold modifierText? at found
  split at found
  · next text argument =>
    obtain ⟨name, named, rfl⟩ := Option.map_eq_some_iff.mp found
    have attribute? : modifierAttribute? modifier = some (.text name text) := by
      rw [modifierAttribute?, argument, named]
      rfl
    have inOpening : Attribute.text name text ∈ openingAttributes view options extraClass := by
      refine List.mem_cons_of_mem _ (List.mem_append_right _ (List.mem_append_left _ ?_))
      exact List.mem_filterMap.mpr ⟨modifier, member, attribute?⟩
    exact ⟨part, inNode, attributes ▸ List.mem_append_left more inOpening⟩
  · cases found

/-! ## Wrappings -/

/-- A wrapping keeps what it is put around. -/
theorem isPart_wrapOne (base : Node) (modifier : Modifier View)
    (member : modifier ∈ view.modifiers) :
    base.IsPart (wrapOne view render base modifier member) := by
  have inGrid {layers : List Node} (layer : baseLayer base ∈ layers) : base.IsPart (grid layers) :=
    .child layer (isPart_of_mem List.mem_cons_self)
  unfold wrapOne
  split
  · exact inGrid List.mem_cons_self
  · exact inGrid List.mem_cons_self
  · exact inGrid (List.mem_cons_of_mem _ List.mem_cons_self)
  · split
    · exact isPart_of_mem List.mem_cons_self
    · exact .self
  · exact isPart_of_mem (List.mem_cons_of_mem _ List.mem_cons_self)
  · exact .self

theorem isPart_wrap (base : Node) : base.IsPart (wrap view render base) := by
  unfold wrap
  apply List.foldlRecOn (motive := base.IsPart) _ _ .self
  intro wrapped inWrapped modifier _
  exact inWrapped.trans (isPart_wrapOne wrapped modifier.1 modifier.2)

/-- Every text that a view shows stands in its markup, escaped once. -/
theorem shows_viewNode {entry : Place × String} (member : entry ∈ shownTexts options view) :
    (viewNode options view).Shows entry.1 (escape entry.2) := by
  rw [viewNode]
  refine Node.Shows.of_isPart ?_ (isPart_wrap _)
  rcases List.mem_append.mp member with ofKind | ofModifiers
  · exact shows_kindTexts ofKind
  · obtain ⟨modifier, inModifiers, found⟩ := List.mem_filterMap.mp ofModifiers
    exact shows_modifierText (hasOpening_markup options view _) inModifiers found

/-! ## Font families -/

/-- The families that the fonts of a view name. -/
def fontFamilies (view : View) : List String :=
  view.modifiers.filterMap fun modifier ↦
    match modifier with
    | ⟨"font", .font font⟩ => font.family
    | _ => none

/-- A family without its single quotes. -/
def unquoted (family : String) : String :=
  String.ofList (withoutQuotes family.toList)

/-- A name in single quotes, and the generic family behind it. -/
def quotedFamily (name : String) : String :=
  "'" ++ name ++ "', sans-serif"

theorem toList_quotedFamily (name : String) :
    (quotedFamily name).toList = '\'' :: (name.toList ++ "', sans-serif".toList) := by
  simp [quotedFamily, String.toList_append]

/-- Quotes are not part of any entity, so that they may be removed before escaping. -/
theorem withoutQuotes_flatMap_escapeChar (text : List Char) :
    withoutQuotes (text.flatMap escapeChar) = (withoutQuotes text).flatMap escapeChar := by
  induction text with
  | nil => rfl
  | cons c text ih =>
    rw [List.flatMap_cons, withoutQuotes_append, ih]
    by_cases isQuote : c = '\''
    · rw [isQuote]
      rfl
    · have kept : withoutQuotes (c :: text) = c :: withoutQuotes text :=
        List.filter_cons_of_pos (bne_iff_ne.mpr isQuote)
      have noQuotes : withoutQuotes (escapeChar c) = escapeChar c := by
        unfold escapeChar
        split
        case h_5 => exact withoutQuotes_singleton isQuote
        all_goals rfl
      rw [kept, List.flatMap_cons, noQuotes]

/-- A family is escaped before it is put into the style. -/
theorem familyText_eq (family : String) :
    familyText family = quotedFamily (escape (unquoted family)) := by
  rw [familyText, ← withoutQuotes, escape, String.toList_ofList, withoutQuotes_flatMap_escapeChar,
    quotedFamily, escape, unquoted, String.toList_ofList]

theorem decode_familyText (family : String) :
    decode (familyText family) = quotedFamily (unquoted family) := by
  rw [familyText_eq, decode, toList_quotedFamily, decodeChars_cons (by decide), escape,
    String.toList_ofList, decodeChars_flatMap_escapeChar]
  apply String.toList_inj.mp
  rw [String.toList_ofList, toList_quotedFamily]
  rfl

/-- The style names a family by its own characters exactly when none of them has an entity. -/
theorem familyText_eq_iff (family : String) :
    familyText family = quotedFamily (unquoted family) ↔
      ∀ c ∈ family.toList, c ≠ '&' ∧ c ≠ '<' ∧ c ≠ '>' ∧ c ≠ '"' := by
  have inner : familyText family = quotedFamily (unquoted family) ↔
      escape (unquoted family) = unquoted family := by
    rw [familyText_eq, ← String.toList_inj, toList_quotedFamily, toList_quotedFamily,
      List.cons.injEq, List.append_cancel_right_eq, String.toList_inj]
    exact and_iff_right rfl
  have characters : escape (unquoted family) = unquoted family ↔
      ∀ c ∈ withoutQuotes family.toList, escapeChar c = [c] := by
    rw [← flatMap_escapeChar_eq_iff, ← String.toList_inj, escape, unquoted, String.toList_ofList,
      String.toList_ofList]
  rw [inner, characters]
  constructor
  · intro all c member
    by_cases isQuote : c = '\''
    · rw [isQuote]
      decide
    · exact escapeChar_eq_iff.mp (all c (List.mem_filter.mpr ⟨member, bne_iff_ne.mpr isQuote⟩))
  · intro all c member
    exact escapeChar_eq_iff.mpr (all c (List.mem_filter.mp member).1)

theorem mem_allDeclarations_of_mem_fontFamilies {family : String}
    (member : family ∈ fontFamilies view) :
    ⟨"font-family", familyText family⟩ ∈ (viewStyle view options).allDeclarations := by
  obtain ⟨modifier, inModifiers, found⟩ := List.mem_filterMap.mp member
  have declares : ("font-family", familyText family) ∈
      modifierDeclarations view.kind options modifier := by
    split at found
    · next font =>
      show _ ∈ fontDeclarations font
      rw [fontDeclarations, found]
      exact List.mem_append_right _ List.mem_cons_self
    · cases found
  rw [viewStyle_allDeclarations]
  have pushed : ("font-family", familyText family) ∈
      view.modifiers.flatMap (modifierDeclarations view.kind options) :=
    List.mem_flatMap.mpr ⟨modifier, inModifiers, declares⟩
  exact List.mem_append_left _ (List.mem_map_of_mem (List.mem_append_right _ pushed))

theorem not_isEmpty_text {style : InlineStyle} {declaration : Declaration}
    (member : declaration ∈ style.allDeclarations) : style.text.isEmpty = false := by
  have written (declaration : Declaration) : declaration.write ≠ "" := by
    simp [Declaration.write]
  rw [InlineStyle.text, Bool.eq_false_iff, Ne, String.isEmpty_iff]
  cases all : style.allDeclarations with
  | nil =>
    rw [all] at member
    cases member
  | cons first others =>
    cases others with
    | nil =>
      rw [List.map_cons, List.map_nil, String.intercalate_singleton]
      exact written first
    | cons second others =>
      rw [List.map_cons, List.map_cons, String.intercalate_cons_cons]
      intro empty
      exact written first
        (String.append_eq_empty_iff.mp (String.append_eq_empty_iff.mp empty).1).1

/-- A style that declares something is written in the tag of its view, escaped once. -/
theorem shows_style {node : Node} {declaration : Declaration}
    (opening : HasOpening options view node)
    (member : declaration ∈ (viewStyle view options).allDeclarations) :
    node.Shows (.value "style") (escape (viewStyle view options).text) := by
  obtain ⟨part, extraClass, more, inNode, attributes⟩ := opening
  have styled : styleAttributes view options = [.text "style" (viewStyle view options).text] := by
    rw [styleAttributes, not_isEmpty_text member, if_neg Bool.false_ne_true]
  have inOpening : Attribute.text "style" (viewStyle view options).text ∈
      openingAttributes view options extraClass := by
    rw [openingAttributes, styled]
    exact List.mem_cons_of_mem _ (List.mem_append_left _ List.mem_cons_self)
  exact ⟨part, inNode, attributes ▸ List.mem_append_left more inOpening⟩

end Markup

/-! ## Decoding -/

/-- Decoding the place of a text once gives back the text, for every text that a view shows.
Decoding the style once gives back its declarations, among which each font names its family without
the single quotes; but that name was escaped before, so that it consists of the family's own
characters exactly when none of them has an entity, and otherwise has to be decoded once more. -/
theorem decode_shown (options : RenderOptions) (view : View) :
    (∀ entry ∈ shownTexts options view, ∃ written,
      (viewNode options view).Shows entry.1 written ∧
        (entry.1.write written).toList <:+: (render options view).toList ∧
        decode written = entry.2) ∧
    ∀ family ∈ fontFamilies view, ∃ written,
      (viewNode options view).Shows (.value "style") written ∧
        ((Place.value "style").write written).toList <:+: (render options view).toList ∧
        decode written = (viewStyle view options).text ∧
        ⟨"font-family", familyText family⟩ ∈ (viewStyle view options).allDeclarations ∧
        (familyText family = quotedFamily (unquoted family) ↔
          ∀ c ∈ family.toList, c ≠ '&' ∧ c ≠ '<' ∧ c ≠ '>' ∧ c ≠ '"') ∧
        decode (familyText family) = quotedFamily (unquoted family) := by
  constructor
  · intro entry member
    have shows : (viewNode options view).Shows entry.1 (escape entry.2) := shows_viewNode member
    exact ⟨escape entry.2, shows, infix_of_shows shows, decode_escape entry.2⟩
  · intro family member
    have declares : ⟨"font-family", familyText family⟩ ∈ (viewStyle view options).allDeclarations :=
      mem_allDeclarations_of_mem_fontFamilies member
    have opens := hasOpening_markup options view fun inner _ ↦ viewNode options inner
    have shows : (viewNode options view).Shows (.value "style")
        (escape (viewStyle view options).text) := by
      rw [viewNode]
      exact (shows_style opens declares).of_isPart (isPart_wrap _)
    exact ⟨_, shows, infix_of_shows shows, decode_escape _, declares, familyText_eq_iff family,
      decode_familyText family⟩

/-- A text with a hint, whose font names a family with an ampersand. -/
def ampersands : View :=
  { kind := .text
    properties := [("text", .text "a < b")]
    modifiers := [⟨"help", .text "x & y"⟩, ⟨"font", .font { family := some "A&B" }⟩]
    children := [] }

theorem decode_shown_ampersands :
    ((Place.content, "a < b") ∈ shownTexts {} ampersands ∧
      ∃ written, (viewNode {} ampersands).Shows .content written ∧
        (Place.content.write written).toList <:+: (render {} ampersands).toList ∧
        decode written = "a < b") ∧
    "A&B" ∈ fontFamilies ampersands ∧
      ∃ written, (viewNode {} ampersands).Shows (.value "style") written ∧
        decode written = (viewStyle ampersands {}).text := by
  have text : (Place.content, "a < b") ∈ shownTexts {} ampersands := by decide
  have family : "A&B" ∈ fontFamilies ampersands := by decide
  obtain ⟨written, shows, -, decoded, -⟩ := (decode_shown {} ampersands).2 "A&B" family
  exact ⟨⟨text, (decode_shown {} ampersands).1 _ text⟩, family, written, shows, decoded⟩

/-- Decoding the style of this text once does not give a list that names the family: it names
`A&amp;B` instead. -/
theorem ampersands_escaped_twice :
    styleAttributes ampersands {} =
        [⟨"style", some "font-size: 17px; font-family: 'A&amp;amp;B', sans-serif"⟩] ∧
      readStyle (decode "font-size: 17px; font-family: 'A&amp;amp;B', sans-serif") =
        [⟨"font-size", "17px"⟩, ⟨"font-family", "'A&amp;B', sans-serif"⟩] ∧
      ⟨"font-family", quotedFamily "A&B"⟩ ∉
        readStyle (decode "font-size: 17px; font-family: 'A&amp;amp;B', sans-serif") := by
  decide +kernel

end ViewPreview.Render
