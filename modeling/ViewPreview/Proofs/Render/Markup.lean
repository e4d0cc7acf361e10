import ViewPreview.Proofs.Render.Layer
import ViewPreview.Render.Markup

/-!
# Sound Markup of Each Kind

The element of every kind of view is sound when the tokens in the view are names and the views
inside it become sound markup.  Texts of the view stand in escaped places only.  What stands
elsewhere is the name of the kind, a number, or the token of a style, which is an identifier.
-/

namespace ViewPreview.Render

open ViewPreview.Html
open ViewPreview.Number (styleText)
open ViewPreview.Style (inert_styleText)
open ViewPreview.Text (isIdentifier)

variable {options : RenderOptions} {view : View} {render : Within view}

/-! ## Attributes -/

/-- An identifier in small letters is inert. -/
theorem inert_lower {token : String} (isName : isIdentifier token.toList = true) :
    Inert (Text.lower token) := by
  apply inert_ofList
  intro c member
  obtain ⟨original, originalMember, rfl⟩ := List.mem_map.mp member
  have part := Text.isIdentifierPart_lowerChar
    (Text.Identifier.isIdentifierPart_of_mem ⟨token.toList, isName⟩ originalMember)
  exact isInert_iff.mpr ⟨Text.ne_of_isIdentifierPart part (by decide),
    Text.ne_of_isIdentifierPart part (by decide), Text.ne_of_isIdentifierPart part (by decide)⟩

theorem inert_className (kind : Kind) : Inert (className kind) := by
  unfold className
  rw [inert_append]
  exact ⟨inert_of_all rfl, inert_lower kind.isIdentifier_name⟩

/-- The class that a style token stands for. -/
theorem inert_variant (named : view.TokensAreNames) (name : String) :
    Inert (Text.lower ((view.modifierToken? name).getD "automatic")) := by
  apply inert_lower
  cases found : view.modifierToken? name with
  | none => decide
  | some token => exact named.isIdentifier_of_modifierToken? found

theorem sound_modifierAttribute? {modifier : Modifier View} {entry : Attribute}
    (found : modifierAttribute? modifier = some entry) : entry.Sound := by
  unfold modifierAttribute? at found
  split at found
  · next text _ =>
    obtain ⟨name, named, rfl⟩ := Option.map_eq_some_iff.mp found
    unfold accessibilityAttribute? at named
    split at named
    · cases named
      exact sound_text (by simp [attributeNames]) text
    · cases named
      exact sound_text (by simp [attributeNames]) text
    · cases named
      exact sound_text (by simp [attributeNames]) text
    · cases named
      exact sound_text (by simp [attributeNames]) text
    · cases named
  · cases found

theorem sound_accessibilityAttributes (view : View) :
    ∀ entry ∈ accessibilityAttributes view, entry.Sound := by
  unfold accessibilityAttributes
  rw [List.forall_mem_append]
  constructor
  · intro entry member
    obtain ⟨modifier, -, found⟩ := List.mem_filterMap.mp member
    exact sound_modifierAttribute? found
  · split
    · exact sound_one (sound_constant (by simp [attributeNames]) rfl)
    · exact List.forall_mem_nil _

theorem sound_styleAttributes (view : View) (options : RenderOptions) :
    ∀ entry ∈ styleAttributes view options, entry.Sound := by
  unfold styleAttributes
  dsimp only
  split
  · exact List.forall_mem_nil _
  · exact sound_one (sound_text style_mem _)

theorem sound_openingAttributes (view : View) (options : RenderOptions) {extraClass : String}
    (inert : Inert extraClass) :
    ∀ entry ∈ openingAttributes view options extraClass, entry.Sound := by
  unfold openingAttributes
  dsimp only
  rw [List.forall_mem_cons, List.forall_mem_append]
  refine ⟨sound_verbatim class_mem ?_, sound_styleAttributes view options,
    sound_accessibilityAttributes view⟩
  split
  · exact inert_className view.kind
  · rw [inert_append, inert_append]
    exact ⟨⟨inert_className view.kind, inert_of_all rfl⟩, inert⟩

/-! ## Elements -/

theorem sound_viewElement {tag extraClass : String} {more : List Attribute} {contents : List Node}
    (known : tag ∈ containerTags) (inert : Inert extraClass)
    (moreSound : ∀ entry ∈ more, entry.Sound) (sound : ∀ node ∈ contents, node.Sound) :
    (viewElement options tag view extraClass more contents).Sound := by
  refine Node.Sound.element known ?_ sound
  rw [List.forall_mem_append]
  exact ⟨sound_openingAttributes view options inert, moreSound⟩

theorem sound_plainElement {tag : String} {contents : List Node} (known : tag ∈ containerTags)
    (sound : ∀ node ∈ contents, node.Sound) : (plainElement options tag view contents).Sound :=
  sound_viewElement known (inert_of_all rfl) (List.forall_mem_nil _) sound

theorem sound_voidElement {tag extraClass : String} {more : List Attribute}
    (known : tag ∈ voidTags) (inert : Inert extraClass) (moreSound : ∀ entry ∈ more, entry.Sound) :
    (voidElement options tag view extraClass more).Sound := by
  refine Node.Sound.void known ?_
  rw [List.forall_mem_append]
  exact ⟨sound_openingAttributes view options inert, moreSound⟩

theorem sound_map {frame : Node → Node} {nodes : List Node}
    (framed : ∀ node, node.Sound → (frame node).Sound) (sound : ∀ node ∈ nodes, node.Sound) :
    ∀ node ∈ nodes.map frame, node.Sound := by
  intro node member
  obtain ⟨inner, innerMember, rfl⟩ := List.mem_map.mp member
  exact framed inner (sound inner innerMember)

/-! ### Markup that may be missing -/

section Missing

variable {first second : Option (List Node)} {other : List Node}

theorem sound_or (firstSound : ∀ contents ∈ first, ∀ node ∈ contents, node.Sound)
    (secondSound : ∀ contents ∈ second, ∀ node ∈ contents, node.Sound) :
    ∀ contents ∈ first.or second, ∀ node ∈ contents, node.Sound := by
  intro contents found
  rcases Option.or_eq_some_iff.mp found with inFirst | ⟨-, inSecond⟩
  · exact firstSound contents inFirst
  · exact secondSound contents inSecond

theorem sound_getD (sound : ∀ contents ∈ first, ∀ node ∈ contents, node.Sound)
    (otherSound : ∀ node ∈ other, node.Sound) : ∀ node ∈ first.getD other, node.Sound := by
  cases first with
  | none => exact otherSound
  | some contents => exact sound contents rfl

theorem sound_toList_map {frame : List Node → Node}
    (sound : ∀ contents ∈ first, ∀ node ∈ contents, node.Sound)
    (framed : ∀ contents, (∀ node ∈ contents, node.Sound) → (frame contents).Sound) :
    ∀ node ∈ (first.map frame).toList, node.Sound := by
  intro node member
  obtain ⟨contents, found, rfl⟩ := Option.map_eq_some_iff.mp (Option.mem_toList.mp member)
  exact framed contents (sound contents found)

end Missing

/-! ## Markup without views inside -/

theorem sound_titleMarkup? (view : View) :
    ∀ contents ∈ titleMarkup? view, ∀ node ∈ contents, node.Sound := by
  intro contents found
  obtain ⟨title, -, rfl⟩ := Option.map_eq_some_iff.mp found
  exact sound_textNodes title

theorem sound_listRow {row : Node} (sound : row.Sound) : (listRow row).Sound :=
  Node.Sound.element div_mem (sound_two (sound_constant class_mem rfl) (sound_constant role_mem rfl))
    (sound_singleton sound)

theorem sound_navigationBar (view : View) : ∀ node ∈ navigationBar view, node.Sound := by
  unfold navigationBar
  split
  · next title inline _ =>
    have heading : (Node.classed "h1" "sv-navtitle" [.text title]).Sound :=
      sound_classed (by simp [containerTags]) rfl (sound_textNodes title)
    have header : "header" ∈ containerTags := by simp [containerTags]
    cases inline
    · exact sound_singleton (sound_classed header rfl (sound_singleton heading))
    · exact sound_singleton (sound_classed header rfl (sound_singleton heading))
  · exact List.forall_mem_nil _

/-- A button that is one of several, the first of which has a class of its own. -/
theorem sound_choiceButton {active inactive : String} {contents : List Node}
    (inertActive : Inert active) (inertInactive : Inert inactive)
    (sound : ∀ node ∈ contents, node.Sound) (index : Nat) :
    (Node.element "button"
      [.verbatim "type" "button", .verbatim "class" (if index = 0 then active else inactive)]
      contents).Sound := by
  have inert : Inert (if index = 0 then active else inactive) := by
    split
    · exact inertActive
    · exact inertInactive
  exact Node.Sound.element button_mem
    (sound_two (sound_constant type_mem rfl) (sound_verbatim class_mem inert)) sound

theorem sound_pickerControl (segmented : Bool) (choices : List String) :
    (pickerControl segmented choices).Sound := by
  unfold pickerControl
  split
  · refine Node.Sound.element div_mem
      (sound_two (sound_constant class_mem rfl) (sound_constant role_mem rfl)) ?_
    intro node member
    obtain ⟨⟨choice, index⟩, -, rfl⟩ := List.mem_map.mp member
    exact sound_choiceButton (inert_of_all rfl) (inert_of_all rfl) (sound_textNodes choice) index
  · refine sound_bare (by simp [containerTags]) ?_
    intro node member
    obtain ⟨choice, -, rfl⟩ := List.mem_map.mp member
    exact sound_bare (by simp [containerTags]) (sound_textNodes choice)

theorem sound_imageMarkup (options : RenderOptions) (view : View) :
    (imageMarkup options view).Sound := by
  unfold imageMarkup
  split
  · next symbol _ =>
    exact sound_viewElement span_mem (inert_of_all rfl)
      (sound_two (sound_constant role_mem rfl) (sound_text (by simp [attributeNames]) symbol))
      (sound_textNodes _)
  · exact sound_viewElement div_mem (inert_of_all rfl)
      (sound_two (sound_constant role_mem rfl) (sound_text (by simp [attributeNames]) _))
      (sound_textNodes _)

theorem sound_progressMarkup (options : RenderOptions) (view : View) :
    (progressMarkup options view).Sound := by
  have label : ∀ node ∈ (titleMarkup? view).getD [], node.Sound :=
    sound_getD (sound_titleMarkup? view) (List.forall_mem_nil _)
  unfold progressMarkup
  dsimp only
  split
  · refine sound_viewElement div_mem (inert_of_all rfl) (sound_one (sound_constant role_mem rfl)) ?_
    rw [List.forall_mem_cons]
    exact ⟨sound_classed span_mem rfl (List.forall_mem_nil _), label⟩
  · next value _ =>
    refine sound_plainElement div_mem ?_
    rw [List.forall_mem_append]
    refine ⟨label, sound_singleton (Node.Sound.element (by simp [containerTags]) ?_ ?_)⟩
    · exact sound_two (sound_verbatim (by simp [attributeNames]) (inert_styleText _))
        (sound_verbatim (by simp [attributeNames]) (inert_styleText value))
    · exact List.forall_mem_nil _

theorem sound_sliderInput (least greatest value : Float) :
    (voidElement options "input" view ""
      [.verbatim "type" "range", .verbatim "min" (styleText least),
        .verbatim "max" (styleText greatest), .verbatim "step" "any",
        .verbatim "value" (styleText value)]).Sound := by
  refine sound_voidElement input_mem (inert_of_all rfl) ?_
  simp only [List.forall_mem_cons]
  exact ⟨sound_constant type_mem rfl,
    sound_verbatim (by simp [attributeNames]) (inert_styleText least),
    sound_verbatim (by simp [attributeNames]) (inert_styleText greatest),
    sound_constant (by simp [attributeNames]) rfl,
    sound_verbatim (by simp [attributeNames]) (inert_styleText value), List.forall_mem_nil _⟩

theorem sound_switch (isOn : Bool) :
    (Node.void "input"
      ([.verbatim "type" "checkbox", .verbatim "role" "switch"] ++
        if isOn then [.flag "checked"] else [])).Sound := by
  refine Node.Sound.void input_mem ?_
  rw [List.forall_mem_append]
  refine ⟨sound_two (sound_constant type_mem rfl) (sound_constant role_mem rfl), ?_⟩
  split
  · exact sound_one (sound_flag (by simp [attributeNames]))
  · exact List.forall_mem_nil _

/-! ## The views inside a view -/

theorem tokensAreNames_shownTab {tab : View} (named : tab.TokensAreNames) :
    (shownTab tab).TokensAreNames := by
  cases named with
  | intro own children properties contents =>
    apply View.TokensAreNames.intro
    · exact fun modifier member ↦ own modifier (List.mem_filter.mp member).1
    · exact children
    · exact properties
    · exact fun modifier member ↦ contents modifier (List.mem_filter.mp member).1

section Inside

variable (named : view.TokensAreNames) (soundWithin : SoundWithin render)

include named soundWithin

theorem sound_children : ∀ node ∈ children view render, node.Sound := by
  intro node member
  obtain ⟨child, childMember, rfl⟩ := List.mem_pmap.mp member
  exact soundWithin child _ (named.child childMember)

theorem sound_repetition : ∀ node ∈ repetition options view render, node.Sound := by
  intro node member
  obtain ⟨row, rowMember, rfl⟩ := List.mem_pmap.mp member
  exact soundWithin row _ (named.expandedRow rowMember)

theorem sound_framedRows (options : RenderOptions) (frame : View → Node → Node)
    (framed : ∀ row node, node.Sound → (frame row node).Sound) :
    ∀ node ∈ framedRows options view render frame, node.Sound := by
  intro node member
  obtain ⟨row, rowMember, rfl⟩ := List.mem_pmap.mp member
  exact framed row _ (soundWithin row _ (named.inlinedRow rowMember))

theorem sound_propertyMarkup? (key : String) :
    ∀ contents ∈ propertyMarkup? view render key, ∀ node ∈ contents, node.Sound := by
  intro contents found
  unfold propertyMarkup? at found
  split at found
  · next value _ =>
    rw [← Option.some.inj found]
    exact sound_textNodes value
  · next value _ =>
    rw [← Option.some.inj found]
    exact sound_textNodes value
  · next inner property =>
    rw [← Option.some.inj found, List.forall_mem_singleton]
    exact soundWithin inner _ (named.property property)
  · cases found

theorem sound_headingMarkup : ∀ node ∈ headingMarkup view render, node.Sound :=
  sound_getD (sound_or (sound_titleMarkup? view) (sound_propertyMarkup? named soundWithin "label"))
    (List.forall_mem_nil _)

theorem sound_labelMarkup : ∀ node ∈ labelMarkup view render, node.Sound :=
  sound_getD (sound_or (sound_titleMarkup? view) (sound_propertyMarkup? named soundWithin "label"))
    (sound_children named soundWithin)

/-! ## Kinds with a structure of their own -/

theorem sound_listMarkup : (listMarkup options view render).Sound := by
  refine sound_viewElement div_mem (inert_append.mpr ⟨inert_of_all rfl, inert_variant named _⟩)
    (sound_one (sound_constant role_mem rfl)) ?_
  apply sound_framedRows named soundWithin options
  intro row node sound
  split
  · exact sound
  · exact sound_listRow sound

theorem sound_sectionMarkup : (sectionMarkup options view render).Sound := by
  have property := sound_propertyMarkup? named soundWithin
  have rows := sound_framedRows named soundWithin options (fun _ ↦ listRow) fun _ _ ↦ sound_listRow
  refine sound_plainElement (by simp [containerTags]) ?_
  rw [List.forall_mem_append, List.forall_mem_cons]
  refine ⟨?_, Node.Sound.element div_mem ?_ rows, ?_⟩
  · apply sound_toList_map
    · exact sound_or (sound_or (property "header") (sound_titleMarkup? view)) (property "label")
    · exact fun _ sound ↦ sound_classed (by simp [containerTags]) rfl sound
  · exact sound_two (sound_constant class_mem rfl) (sound_constant role_mem rfl)
  · apply sound_toList_map (property "footer")
    exact fun _ sound ↦ sound_classed (by simp [containerTags]) rfl sound

theorem sound_navigationMarkup : (navigationMarkup options view render).Sound := by
  refine sound_plainElement div_mem ?_
  rw [List.forall_mem_append]
  exact ⟨sound_navigationBar view,
    sound_singleton (sound_classed div_mem rfl (sound_children named soundWithin))⟩

theorem sound_tabLabel (index : Nat) : (tabLabel view render index).Sound := by
  unfold tabLabel
  split
  · next content found =>
    have member := List.mem_reverse.mp (List.mem_of_find?_eq_some found)
    exact soundWithin content.view _ (named.content member)
  · exact Node.Sound.text _

theorem sound_tabButton (index : Nat) : (tabButton view render index).Sound := by
  refine sound_choiceButton (inert_of_all rfl) (inert_of_all rfl) ?_ index
  rw [List.forall_mem_cons]
  refine ⟨sound_tabLabel named soundWithin index, ?_⟩
  intro node member
  obtain ⟨text, -, rfl⟩ := Option.map_eq_some_iff.mp (Option.mem_toList.mp member)
  exact sound_badge text

theorem sound_tabViewMarkup : (tabViewMarkup options view render).Sound := by
  refine sound_plainElement div_mem (sound_pair ?_ ?_)
  · refine sound_classed div_mem rfl ?_
    intro node member
    obtain ⟨tab, tabMember, rfl⟩ := List.mem_pmap.mp member
    have tabNamed := named.inlinedRow (List.mem_of_mem_take tabMember)
    exact soundWithin _ _ (tokensAreNames_shownTab tabNamed)
  · refine sound_classed (by simp [containerTags]) rfl ?_
    intro node member
    obtain ⟨⟨tab, index⟩, tabMember, rfl⟩ := List.mem_pmap.mp member
    have tabNamed := named.inlinedRow (List.fst_mem_of_mem_zipIdx tabMember)
    exact sound_tabButton tabNamed (fun inner _ ↦ soundWithin inner _) index

theorem sound_pickerMarkup : (pickerMarkup options view render).Sound :=
  sound_plainElement label_mem (sound_pair
    (sound_classed span_mem rfl (sound_headingMarkup named soundWithin)) (sound_pickerControl _ _))

theorem sound_sliderMarkup : (sliderMarkup options view render).Sound := by
  have label := sound_children named soundWithin
  unfold sliderMarkup
  dsimp only
  split
  · exact sound_sliderInput _ _ _
  · refine sound_classed label_mem rfl ?_
    rw [List.forall_mem_append]
    exact ⟨label, sound_singleton (sound_sliderInput _ _ _)⟩

theorem sound_toggleMarkup : (toggleMarkup options view render).Sound :=
  sound_plainElement label_mem (sound_pair
    (sound_classed span_mem rfl (sound_labelMarkup named soundWithin)) (sound_switch _))

theorem sound_labelViewMarkup : (labelViewMarkup options view render).Sound := by
  refine sound_plainElement span_mem (sound_pair ?_ (sound_classed span_mem rfl ?_))
  · refine Node.Sound.element span_mem
      (sound_two (sound_constant class_mem rfl) (sound_constant (by simp [attributeNames]) rfl)) ?_
    split
    · exact sound_textNodes _
    · exact sound_getD (sound_propertyMarkup? named soundWithin "icon") (List.forall_mem_nil _)
  · exact sound_getD (sound_titleMarkup? view) (sound_children named soundWithin)

theorem sound_dialogMarkup {inputType : String} (inert : Inert inputType) :
    (dialogMarkup options view render inputType).Sound := by
  have label := sound_labelMarkup named soundWithin
  exact sound_plainElement label_mem (sound_pair (sound_bare span_mem label)
    (Node.Sound.void input_mem (sound_one (sound_verbatim type_mem inert))))

omit soundWithin in
theorem sound_fieldMarkup {inputType : String} (inert : Inert inputType) :
    (fieldMarkup options view inputType).Sound := by
  refine sound_voidElement input_mem
    (inert_append.mpr ⟨inert_of_all rfl, inert_variant named _⟩) ?_
  rw [List.forall_mem_append]
  refine ⟨sound_two (sound_verbatim type_mem inert) (sound_text (by simp [attributeNames]) _), ?_⟩
  intro entry member
  obtain ⟨text, -, rfl⟩ := Option.map_eq_some_iff.mp (Option.mem_toList.mp member)
  exact sound_text (by simp [attributeNames]) text

omit soundWithin in
theorem sound_button {contents : List Node} (sound : ∀ node ∈ contents, node.Sound) :
    (viewElement options "button" view
      ("sv-button-" ++ Text.lower ((view.modifierToken? "buttonStyle").getD "automatic"))
      [.verbatim "type" "button"] contents).Sound :=
  sound_viewElement button_mem (inert_append.mpr ⟨inert_of_all rfl, inert_variant named _⟩)
    (sound_one (sound_constant type_mem rfl)) sound

/-! ## All kinds -/

/-- The markup of a view of any kind is sound. -/
theorem sound_markup : (markup options view render).Sound := by
  have inside := sound_children named soundWithin
  have heading := sound_headingMarkup named soundWithin
  have label := sound_labelMarkup named soundWithin
  unfold markup
  cases view.kind
  all_goals dsimp only
  case zStack =>
    refine sound_plainElement div_mem (sound_map ?_ inside)
    intro layer sound
    exact Node.Sound.element div_mem (sound_one (sound_constant style_mem rfl))
      (sound_singleton sound)
  case group =>
    cases (view.property? "placeholder").isSome
    · exact sound_viewElement div_mem (inert_of_all rfl) (List.forall_mem_nil _) inside
    · exact sound_viewElement div_mem (inert_of_all rfl) (List.forall_mem_nil _) inside
  case forEach => exact sound_plainElement div_mem (sound_repetition named soundWithin)
  case list | form => exact sound_listMarkup named soundWithin
  case listSection => exact sound_sectionMarkup named soundWithin
  case navigationView | navigationStack => exact sound_navigationMarkup named soundWithin
  case navigationSplitView =>
    refine sound_plainElement div_mem (sound_map ?_ inside)
    exact fun column sound ↦ sound_classed div_mem rfl (sound_singleton sound)
  case tabView => exact sound_tabViewMarkup named soundWithin
  case disclosureGroup =>
    refine sound_viewElement (by simp [containerTags]) (inert_of_all rfl)
      (sound_one (sound_flag (by simp [attributeNames]))) ?_
    exact sound_pair (sound_bare (by simp [containerTags]) heading)
      (sound_classed div_mem rfl inside)
  case menu =>
    have items := sound_framedRows named soundWithin options
      (fun _ item ↦ .classed "div" "sv-menu-item" [item])
      fun _ _ sound ↦ sound_classed div_mem rfl (sound_singleton sound)
    refine sound_plainElement (by simp [containerTags])
      (sound_pair (sound_bare (by simp [containerTags]) ?_) (sound_classed div_mem rfl items))
    rw [List.forall_mem_append]
    exact ⟨heading, sound_textNodes _⟩
  case picker => exact sound_pickerMarkup named soundWithin
  case navigationLink =>
    exact sound_plainElement (by simp [containerTags])
      (sound_pair (sound_classed span_mem rfl label)
        (sound_classed span_mem rfl (sound_textNodes _)))
  case text => exact sound_plainElement span_mem (sound_textNodes _)
  case textEditor => exact sound_plainElement (by simp [containerTags]) (sound_textNodes _)
  case image => exact sound_imageMarkup options view
  case label => exact sound_labelViewMarkup named soundWithin
  case divider =>
    exact sound_voidElement (by simp [voidTags]) (inert_of_all rfl) (List.forall_mem_nil _)
  case button => exact sound_button named label
  case toggle => exact sound_toggleMarkup named soundWithin
  case textField | secureField => exact sound_fieldMarkup named (inert_of_all rfl)
  case slider => exact sound_sliderMarkup named soundWithin
  case stepper =>
    have step : ∀ sign, (Node.element "button" [.verbatim "type" "button"] [.text sign]).Sound :=
      fun sign ↦ Node.Sound.element button_mem (sound_one (sound_constant type_mem rfl))
        (sound_textNodes sign)
    exact sound_plainElement div_mem (sound_pair (sound_classed span_mem rfl label)
      (sound_classed span_mem rfl (sound_pair (step _) (step _))))
  case progressView => exact sound_progressMarkup options view
  case datePicker | colorPicker => exact sound_dialogMarkup named soundWithin (inert_of_all rfl)
  case link =>
    exact sound_viewElement (by simp [containerTags]) (inert_of_all rfl)
      (sound_one (sound_text (by simp [attributeNames]) _)) label
  case asyncImage =>
    exact sound_voidElement (by simp [voidTags]) (inert_of_all rfl)
      (sound_two (sound_text (by simp [attributeNames]) _)
        (sound_constant (by simp [attributeNames]) rfl))
  case spacer | rectangle | circle | roundedRectangle | capsule | ellipse | linearGradient
    | radialGradient => exact sound_plainElement div_mem (List.forall_mem_nil _)
  case custom =>
    exact sound_viewElement div_mem (inert_of_all rfl) (List.forall_mem_nil _) (sound_textNodes _)
  -- What is left are the containers that lay out their children and nothing else.
  all_goals exact sound_plainElement div_mem inside

end Inside

end ViewPreview.Render
