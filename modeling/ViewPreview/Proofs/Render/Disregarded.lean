import ViewPreview.Proofs.Call.Form
import ViewPreview.Render.Markup
import Mathlib.Data.Nat.Init

/-!
# Modifiers Whose Arguments Are Disregarded

Some modifiers are read with arguments that rendering never looks at: gestures, transitions and the
like.  Leaving these arguments out, on a view and on all views below it, leaves its markup as it is.
-/

namespace ViewPreview

/-- The names of modifiers whose arguments are read but never shown. -/
def disregardedNames : List String :=
  ["animation", "transition", "toggleStyle", "mask", "onAppear", "onDisappear", "ignoresSafeArea",
    "edgesIgnoringSafeArea", "toolbar", "scaledToFit", "scaledToFill", "onTapGesture",
    "onLongPressGesture"]

/-- Whether rendering disregards the arguments of the modifiers with a name. -/
def IsDisregarded (name : String) : Prop :=
  name ∈ disregardedNames ∨ name ∉ Call.knownNames

instance : DecidablePred IsDisregarded :=
  fun name ↦ inferInstanceAs (Decidable (name ∈ disregardedNames ∨ name ∉ Call.knownNames))

theorem not_isDisregarded_iff {name : String} :
    ¬IsDisregarded name ↔ name ∈ Call.knownNames ∧ name ∉ disregardedNames := by
  rw [IsDisregarded, not_or, Decidable.not_not, And.comm]

/-- A modifier without arguments that are disregarded. -/
def Modifier.disregard (modifier : Modifier View) : Modifier View :=
  if IsDisregarded modifier.name then .bare modifier.name else modifier

mutual

/-- A view without arguments that are disregarded, on itself and on the views below it. -/
def View.disregard : View → View
  | ⟨kind, properties, modifiers, children⟩ =>
    ⟨kind, properties, modifiers.map Modifier.disregard, disregardViews children⟩

/-- Views without arguments that are disregarded. -/
def disregardViews : List View → List View
  | [] => []
  | view :: views => view.disregard :: disregardViews views

end

theorem disregardViews_eq_map (views : List View) :
    disregardViews views = views.map View.disregard := by
  induction views with
  | nil => rfl
  | cons view views ih => rw [disregardViews, ih, List.map_cons]

@[simp]
theorem Modifier.name_disregard (modifier : Modifier View) :
    modifier.disregard.name = modifier.name := by
  unfold disregard
  split <;> rfl

theorem Modifier.disregard_of_not_mem {modifier : Modifier View}
    (regarded : ¬IsDisregarded modifier.name) : modifier.disregard = modifier :=
  if_neg regarded

/-- A function of modifiers that looks at no disregarded arguments. -/
theorem Modifier.apply_disregard {α : Type} (f : Modifier View → α)
    (blind : ∀ name, IsDisregarded name → ∀ arguments, f ⟨name, arguments⟩ = f (.bare name))
    (modifier : Modifier View) : f modifier.disregard = f modifier := by
  unfold disregard
  split
  · next disregarded => exact (blind _ disregarded _).symm
  · rfl

namespace View

variable (view : View)

@[simp]
theorem kind_disregard : view.disregard.kind = view.kind := by
  cases view
  rfl

@[simp]
theorem properties_disregard : view.disregard.properties = view.properties := by
  cases view
  rfl

@[simp]
theorem modifiers_disregard : view.disregard.modifiers = view.modifiers.map Modifier.disregard := by
  cases view
  rfl

@[simp]
theorem children_disregard : view.disregard.children = view.children.map disregard := by
  cases view
  exact disregardViews_eq_map _

@[simp]
theorem property?_disregard (key : String) : view.disregard.property? key = view.property? key := by
  rw [property?, property?, properties_disregard]

@[simp]
theorem string?_disregard (key : String) : view.disregard.string? key = view.string? key := by
  simp [string?]

@[simp]
theorem number?_disregard (key : String) : view.disregard.number? key = view.number? key := by
  simp [number?]

@[simp]
theorem bool?_disregard (key : String) : view.disregard.bool? key = view.bool? key := by
  simp [bool?]

@[simp]
theorem list?_disregard (key : String) : view.disregard.list? key = view.list? key := by
  simp [list?]

@[simp]
theorem range?_disregard (key : String) : view.disregard.range? key = view.range? key := by
  simp [range?]

@[simp]
theorem view?_disregard (key : String) : view.disregard.view? key = view.view? key := by
  simp [view?]

theorem modifier?_disregard (name : String) :
    view.disregard.modifier? name = (view.modifier? name).map Modifier.disregard := by
  have named : (fun modifier : Modifier View ↦ modifier.name == name) ∘ Modifier.disregard =
      fun modifier ↦ modifier.name == name := by
    funext modifier
    simp
  rw [modifier?, modifier?, modifiers_disregard, ← List.map_reverse, List.find?_map, named]

theorem modifier?_disregard_of_not_mem {name : String} (regarded : ¬IsDisregarded name) :
    view.disregard.modifier? name = view.modifier? name := by
  rw [modifier?_disregard]
  cases found : view.modifier? name with
  | none => rfl
  | some modifier =>
    have named : modifier.name = name := by simpa using List.find?_some found
    rw [Option.map_some, Modifier.disregard_of_not_mem (named ▸ regarded)]

theorem modifierToken?_disregard {name : String} (regarded : ¬IsDisregarded name) :
    view.disregard.modifierToken? name = view.modifierToken? name := by
  rw [modifierToken?, modifierToken?, modifier?_disregard_of_not_mem view regarded]

end View

/-! ## Styles and attributes -/

/-- A function of modifiers looks at no disregarded arguments if it does not on the names of a list,
and knows no name but those whose arguments are read. -/
theorem Modifier.blind_of_forall {α : Type} (f : Modifier View → α) (usual : α)
    (listed : ∀ name ∈ disregardedNames, ∀ arguments, f ⟨name, arguments⟩ = f (.bare name))
    (unlisted : ∀ name ∉ Call.knownNames, ∀ arguments, f ⟨name, arguments⟩ = usual)
    (name : String) (disregarded : IsDisregarded name) (arguments : ModifierArguments View) :
    f ⟨name, arguments⟩ = f (.bare name) := by
  rcases disregarded with inList | notKnown
  · exact listed name inList arguments
  · rw [bare, unlisted name notKnown arguments, unlisted name notKnown .none]

/-- What holds of each name in the list of those whose arguments are disregarded. -/
theorem forall_mem_disregardedNames {P : String → Prop} :
    (∀ name ∈ disregardedNames, P name) ↔
      P "animation" ∧ P "transition" ∧ P "toggleStyle" ∧ P "mask" ∧ P "onAppear" ∧
        P "onDisappear" ∧ P "ignoresSafeArea" ∧ P "edgesIgnoringSafeArea" ∧ P "toolbar" ∧
        P "scaledToFit" ∧ P "scaledToFill" ∧ P "onTapGesture" ∧ P "onLongPressGesture" := by
  simp [disregardedNames]

theorem Style.modifierDeclarations_blind (kind : Kind) (options : RenderOptions) :
    ∀ name, IsDisregarded name → ∀ arguments,
      modifierDeclarations kind options ⟨name, arguments⟩ =
        modifierDeclarations kind options (.bare name) := by
  apply Modifier.blind_of_forall (modifierDeclarations kind options) []
  · rw [forall_mem_disregardedNames]
    and_intros <;> exact fun _ ↦ rfl
  · intro name unlisted arguments
    unfold modifierDeclarations
    dsimp only
    split
    all_goals first | rfl | exact absurd (by decide) unlisted

theorem Style.modifierFilter?_blind :
    ∀ name, IsDisregarded name → ∀ arguments,
      modifierFilter? ⟨name, arguments⟩ = modifierFilter? (.bare name) := by
  apply Modifier.blind_of_forall modifierFilter? none
  · rw [forall_mem_disregardedNames]
    and_intros <;> exact fun _ ↦ rfl
  · intro name unlisted arguments
    unfold modifierFilter?
    dsimp only
    split
    all_goals first | rfl | exact absurd (by decide) unlisted

theorem Render.modifierAttribute?_blind :
    ∀ name, IsDisregarded name → ∀ arguments,
      modifierAttribute? ⟨name, arguments⟩ = modifierAttribute? (.bare name) := by
  intro name disregarded arguments
  have unnamed : accessibilityAttribute? name = none := by
    unfold accessibilityAttribute?
    split
    all_goals first | rfl | exact absurd disregarded (by decide)
  unfold modifierAttribute?
  split
  · rw [unnamed]
    rfl
  · rfl

namespace Style

variable (view : View) (options : RenderOptions)

theorem addModifierStyle_disregard (kind : Kind) (style : InlineStyle) (modifier : Modifier View) :
    addModifierStyle kind options style modifier.disregard =
      addModifierStyle kind options style modifier := by
  apply Modifier.apply_disregard (addModifierStyle kind options style)
  intro name disregarded arguments
  simp only [addModifierStyle, modifierDeclarations_blind kind options name disregarded arguments,
    modifierFilter?_blind name disregarded arguments]

theorem viewStyle_disregard : viewStyle view.disregard options = viewStyle view options := by
  have start : kindStyle view.disregard options = kindStyle view options := by
    simp [kindStyle, kindDeclarations]
  simp only [viewStyle, addModifiersStyle, start, View.modifiers_disregard, View.kind_disregard,
    List.foldl_map, addModifierStyle_disregard]

end Style

namespace Render

open ViewPreview.Html (Node)

variable (options : RenderOptions) (view : View)

theorem accessibilityAttributes_disregard :
    accessibilityAttributes view.disregard = accessibilityAttributes view := by
  have hidden : isHidden view.disregard = isHidden view := by
    rw [isHidden, View.modifier?_disregard_of_not_mem view (by decide), isHidden]
  have same : modifierAttribute? ∘ Modifier.disregard = modifierAttribute? := by
    funext modifier
    exact modifier.apply_disregard modifierAttribute? modifierAttribute?_blind
  rw [accessibilityAttributes, accessibilityAttributes, hidden, View.modifiers_disregard,
    List.filterMap_map, same]

@[simp]
theorem openingAttributes_disregard (extraClass : String) :
    openingAttributes view.disregard options extraClass =
      openingAttributes view options extraClass := by
  simp only [openingAttributes, styleAttributes, View.kind_disregard, Style.viewStyle_disregard,
    accessibilityAttributes_disregard]

@[simp]
theorem viewElement_disregard (tag extraClass : String) (more : List Html.Attribute)
    (contents : List Node) : viewElement options tag view.disregard extraClass more contents =
      viewElement options tag view extraClass more contents := by
  rw [viewElement, openingAttributes_disregard, viewElement]

@[simp]
theorem plainElement_disregard (tag : String) (contents : List Node) :
    plainElement options tag view.disregard contents = plainElement options tag view contents :=
  viewElement_disregard options view tag "" [] contents

@[simp]
theorem voidElement_disregard (tag extraClass : String) (more : List Html.Attribute) :
    voidElement options tag view.disregard extraClass more =
      voidElement options tag view extraClass more := by
  rw [voidElement, openingAttributes_disregard, voidElement]

/-! ## Wrappings -/

/-- How a modifier wraps depends on nothing else of its view. -/
theorem wrapOne_congr {first second : View} (shown : View → Node) (markup : Node)
    (modifier : Modifier View) (inFirst : modifier ∈ first.modifiers)
    (inSecond : modifier ∈ second.modifiers) :
    wrapOne first (fun inner _ ↦ shown inner) markup modifier inFirst =
      wrapOne second (fun inner _ ↦ shown inner) markup modifier inSecond := by
  unfold wrapOne
  split
  case h_6 overlay paint background badge search =>
    split
    · exact absurd HEq.rfl (overlay _ inFirst rfl)
    · exact absurd HEq.rfl (paint _ inFirst rfl)
    · exact absurd HEq.rfl (background _ inFirst rfl)
    · exact absurd HEq.rfl (badge _ inFirst rfl)
    · exact absurd HEq.rfl (search inFirst rfl)
    · rfl
  all_goals rfl

/-- The wrapping that a modifier asks for. -/
def wrapWith (shown : View → Node) (markup : Node) (modifier : Modifier View) : Node :=
  wrapOne ⟨.custom, [], [modifier], []⟩ (fun inner _ ↦ shown inner) markup modifier
    List.mem_cons_self

theorem wrap_eq_foldl (view : View) (shown : View → Node) (markup : Node) :
    wrap view (fun inner _ ↦ shown inner) markup =
      view.modifiers.foldl (wrapWith shown) markup := by
  have single (wrapped : Node) (modifier : {modifier // modifier ∈ view.modifiers}) :
      wrapOne view (fun inner _ ↦ shown inner) wrapped modifier.1 modifier.2 =
        wrapWith shown wrapped modifier.1 :=
    wrapOne_congr shown wrapped modifier.1 modifier.2 List.mem_cons_self
  simp only [wrap, single]
  exact List.foldl_attach

theorem wrapWith_disregard (shown : View → Node) (markup : Node) (modifier : Modifier View) :
    wrapWith shown markup modifier.disregard = wrapWith shown markup modifier := by
  apply Modifier.apply_disregard (wrapWith shown markup)
  apply Modifier.blind_of_forall (wrapWith shown markup) markup
  · rw [forall_mem_disregardedNames]
    and_intros <;> exact fun _ ↦ rfl
  · intro name unlisted arguments
    unfold wrapWith wrapOne
    split
    case h_6 => rfl
    all_goals
      next same _ =>
        cases same
        exact absurd (by decide) unlisted

theorem wrap_disregard (shown : View → Node) (markup : Node) :
    wrap view.disregard (fun inner _ ↦ shown inner) markup =
      wrap view (fun inner _ ↦ shown inner) markup := by
  simp only [wrap_eq_foldl, View.modifiers_disregard, List.foldl_map, wrapWith_disregard]

end Render

/-! ## Rows and texts -/

namespace View

variable (view : View)

mutual

theorem findInTree?_disregard {α : Type} (f : View → Option α)
    (blind : ∀ view, f view.disregard = f view) :
    ∀ view : View, view.disregard.findInTree? f = view.findInTree? f
  | ⟨kind, properties, modifiers, children⟩ => by
    have own := blind ⟨kind, properties, modifiers, children⟩
    rw [disregard] at own
    rw [disregard, findInTree?, own, findInViews?_disregard f blind children, findInTree?]

theorem findInViews?_disregard {α : Type} (f : View → Option α)
    (blind : ∀ view, f view.disregard = f view) :
    ∀ views : List View, findInViews? f (disregardViews views) = findInViews? f views
  | [] => rfl
  | view :: views => by
    rw [disregardViews, findInViews?, findInTree?_disregard f blind view,
      findInViews?_disregard f blind views, findInViews?]

end

theorem plainText?_disregard : view.disregard.plainText? = view.plainText? :=
  findInTree?_disregard ownText? (fun view ↦ by simp [ownText?]) view

theorem propertyText?_disregard (key : String) :
    view.disregard.propertyText? key = view.propertyText? key := by
  rw [propertyText?, property?_disregard, propertyText?]

theorem ownNavigationTitle?_disregard :
    view.disregard.ownNavigationTitle? = view.ownNavigationTitle? := by
  rw [ownNavigationTitle?, modifier?_disregard_of_not_mem view (by decide),
    modifierToken?_disregard view (by decide), ownNavigationTitle?]

theorem navigationTitle?_disregard : view.disregard.navigationTitle? = view.navigationTitle? := by
  rw [navigationTitle?, children_disregard, ← disregardViews_eq_map,
    findInViews?_disregard _ ownNavigationTitle?_disregard, navigationTitle?]

theorem expandRows_disregard (maxRepeat : Nat) :
    view.disregard.expandRows maxRepeat = view.expandRows maxRepeat := by
  simp [expandRows, rowValues]

theorem isPlainRepetition_disregard :
    view.disregard.isPlainRepetition = view.isPlainRepetition := by
  simp [isPlainRepetition]

end View

/-- What is made of rows stays the same if it is the same for each view. -/
theorem map_inlineRows_disregard {α : Type} (make : View → α) (maxRepeat : Nat) (views : List View)
    (same : ∀ view ∈ views, make view.disregard = make view) :
    (inlineRows maxRepeat (views.map View.disregard)).map make =
      (inlineRows maxRepeat views).map make := by
  induction views with
  | nil => rfl
  | cons view views ih =>
    have first : (view.disregard.asRows maxRepeat).map make = (view.asRows maxRepeat).map make := by
      simp only [View.asRows, View.isPlainRepetition_disregard, View.expandRows_disregard]
      split
      · rfl
      · rw [List.map_singleton, List.map_singleton, same view List.mem_cons_self]
    have rest := ih fun view member ↦ same view (List.mem_cons_of_mem _ member)
    simp only [inlineRows, List.map_cons, List.flatMap_cons, List.map_append] at rest ⊢
    rw [first, rest]

namespace Render

open ViewPreview.Html (Node)

/-! ## Parts of the markup -/

section Parts

variable (options : RenderOptions) (view : View) (shown : View → Node)

theorem propertyMarkup?_eq (key : String) :
    propertyMarkup? view (fun inner _ ↦ shown inner) key =
      (view.property? key).bind fun value ↦
        match value with
        | .text value => some [.text value]
        | .token value => some [.text value]
        | .view inner => some [shown inner]
        | _ => none := by
  unfold propertyMarkup?
  split
  · next found => rw [found]; rfl
  · next found => rw [found]; rfl
  · next inner found =>
    change some [shown inner] = _
    rw [found]
    rfl
  · next noText noToken noView =>
    cases found : view.property? key with
    | none => rfl
    | some value =>
      cases value with
      | text value => exact absurd found (noText value)
      | token value => exact absurd found (noToken value)
      | view inner => exact absurd found (noView inner)
      | _ => rfl

theorem propertyMarkup?_disregard (key : String) :
    propertyMarkup? view.disregard (fun inner _ ↦ shown inner) key =
      propertyMarkup? view (fun inner _ ↦ shown inner) key := by
  rw [propertyMarkup?_eq, View.property?_disregard, propertyMarkup?_eq]

theorem titleMarkup?_disregard : titleMarkup? view.disregard = titleMarkup? view := by
  simp [titleMarkup?]

theorem headingMarkup_disregard :
    headingMarkup view.disregard (fun inner _ ↦ shown inner) =
      headingMarkup view (fun inner _ ↦ shown inner) := by
  rw [headingMarkup, titleMarkup?_disregard, propertyMarkup?_disregard, headingMarkup]

theorem children_eq_map :
    children view (fun inner _ ↦ shown inner) = view.children.map shown :=
  List.pmap_eq_map _

theorem repetition_eq_map :
    repetition options view (fun inner _ ↦ shown inner) =
      (view.expandRows options.maxRepeat).map shown :=
  List.pmap_eq_map _

theorem framedRows_eq_map (frame : View → Node → Node) :
    framedRows options view (fun inner _ ↦ shown inner) frame =
      (inlineRows options.maxRepeat view.children).map fun row ↦ frame row (shown row) :=
  List.pmap_eq_map _

theorem repetition_disregard :
    repetition options view.disregard (fun inner _ ↦ shown inner) =
      repetition options view (fun inner _ ↦ shown inner) := by
  rw [repetition_eq_map, View.expandRows_disregard, repetition_eq_map]

theorem navigationBar_disregard : navigationBar view.disregard = navigationBar view := by
  rw [navigationBar, View.navigationTitle?_disregard, navigationBar]

theorem tabLabel_eq (index : Nat) :
    tabLabel view (fun inner _ ↦ shown inner) index =
      match view.modifier? "tabItem" with
      | some ⟨_, .content content⟩ => shown content.view
      | _ => .text ("Tab " ++ Style.natText (index + 1)) := by
  unfold tabLabel
  split
  · next content found =>
    change shown content.view = _
    rw [View.modifier?, found]
  · next other =>
    split
    · next found => exact absurd found (other _ _)
    · rfl

theorem tabLabel_disregard (index : Nat) :
    tabLabel view.disregard (fun inner _ ↦ shown inner) index =
      tabLabel view (fun inner _ ↦ shown inner) index := by
  rw [tabLabel_eq, View.modifier?_disregard_of_not_mem view (by decide), tabLabel_eq]

theorem tabButton_disregard (index : Nat) :
    tabButton view.disregard (fun inner _ ↦ shown inner) index =
      tabButton view (fun inner _ ↦ shown inner) index := by
  rw [tabButton, tabLabel_disregard, View.modifier?_disregard_of_not_mem view (by decide),
    tabButton]

theorem shownTab_disregard : shownTab view.disregard = (shownTab view).disregard := by
  have named : (fun modifier : Modifier View ↦
      modifier.name != "tabItem" && modifier.name != "badge") ∘ Modifier.disregard =
        fun modifier ↦ modifier.name != "tabItem" && modifier.name != "badge" := by
    funext modifier
    simp
  cases view
  simp only [shownTab, View.disregard, List.filter_map, named]

/-- The parts of a tab view, with the markup of every view at hand. -/
theorem tabViewMarkup_eq :
    tabViewMarkup options view (fun inner _ ↦ shown inner) =
      plainElement options "div" view
        [.classed "div" "sv-tab-content"
          (((inlineRows options.maxRepeat view.children).map fun tab ↦
            shown (shownTab tab)).take 1),
          .classed "nav" "sv-tabbar"
            (((inlineRows options.maxRepeat view.children).map fun tab ↦
              tabButton tab fun inner _ ↦ shown inner).zipIdx.map fun button ↦
                button.1 button.2)] := by
  simp only [tabViewMarkup, List.pmap_eq_map, List.map_take, List.zipIdx_map, List.map_map]
  rfl

section Children

variable (same : ∀ child ∈ view.children, shown child.disregard = shown child)

include same

theorem children_disregard :
    children view.disregard (fun inner _ ↦ shown inner) =
      children view (fun inner _ ↦ shown inner) := by
  rw [children_eq_map, View.children_disregard, List.map_map, children_eq_map]
  exact List.map_congr_left same

theorem framedRows_disregard (frame : View → Node → Node)
    (blind : ∀ row, frame row.disregard = frame row) :
    framedRows options view.disregard (fun inner _ ↦ shown inner) frame =
      framedRows options view (fun inner _ ↦ shown inner) frame := by
  rw [framedRows_eq_map, View.children_disregard, framedRows_eq_map]
  apply map_inlineRows_disregard
  intro child member
  rw [blind, same child member]

theorem labelMarkup_disregard :
    labelMarkup view.disregard (fun inner _ ↦ shown inner) =
      labelMarkup view (fun inner _ ↦ shown inner) := by
  rw [labelMarkup, titleMarkup?_disregard, propertyMarkup?_disregard,
    children_disregard view shown same, labelMarkup]

theorem listMarkup_disregard :
    listMarkup options view.disregard (fun inner _ ↦ shown inner) =
      listMarkup options view (fun inner _ ↦ shown inner) := by
  have style := View.modifierToken?_disregard view (show ¬IsDisregarded "listStyle" by decide)
  simp only [listMarkup, style, viewElement_disregard]
  rw [framedRows_disregard options view shown same]
  intro row
  rw [View.kind_disregard]

theorem sectionMarkup_disregard :
    sectionMarkup options view.disregard (fun inner _ ↦ shown inner) =
      sectionMarkup options view (fun inner _ ↦ shown inner) := by
  have rows := framedRows_disregard options view shown same (fun _ markup ↦ listRow markup)
    fun _ ↦ rfl
  simp only [sectionMarkup, rows, titleMarkup?_disregard, propertyMarkup?_disregard,
    plainElement_disregard]

theorem navigationMarkup_disregard :
    navigationMarkup options view.disregard (fun inner _ ↦ shown inner) =
      navigationMarkup options view (fun inner _ ↦ shown inner) := by
  rw [navigationMarkup, navigationBar_disregard, children_disregard view shown same,
    plainElement_disregard, navigationMarkup]

theorem sliderMarkup_disregard :
    sliderMarkup options view.disregard (fun inner _ ↦ shown inner) =
      sliderMarkup options view (fun inner _ ↦ shown inner) := by
  simp only [sliderMarkup, View.range?_disregard, View.number?_disregard, voidElement_disregard,
    children_disregard view shown same]

theorem toggleMarkup_disregard :
    toggleMarkup options view.disregard (fun inner _ ↦ shown inner) =
      toggleMarkup options view (fun inner _ ↦ shown inner) := by
  simp only [toggleMarkup, labelMarkup_disregard view shown same, View.bool?_disregard,
    plainElement_disregard]

theorem labelViewMarkup_disregard :
    labelViewMarkup options view.disregard (fun inner _ ↦ shown inner) =
      labelViewMarkup options view (fun inner _ ↦ shown inner) := by
  simp only [labelViewMarkup, View.string?_disregard, propertyMarkup?_disregard,
    titleMarkup?_disregard, children_disregard view shown same, plainElement_disregard]

theorem dialogMarkup_disregard (inputType : String) :
    dialogMarkup options view.disregard (fun inner _ ↦ shown inner) inputType =
      dialogMarkup options view (fun inner _ ↦ shown inner) inputType := by
  rw [dialogMarkup, labelMarkup_disregard view shown same, plainElement_disregard, dialogMarkup]

end Children

theorem tabViewMarkup_disregard
    (sameTab : ∀ child ∈ view.children,
      shown (shownTab child).disregard = shown (shownTab child)) :
    tabViewMarkup options view.disregard (fun inner _ ↦ shown inner) =
      tabViewMarkup options view (fun inner _ ↦ shown inner) := by
  have tabs := map_inlineRows_disregard (fun tab ↦ shown (shownTab tab)) options.maxRepeat
    view.children fun child member ↦ by rw [shownTab_disregard, sameTab child member]
  have buttons := map_inlineRows_disregard (fun tab ↦ tabButton tab fun inner _ ↦ shown inner)
    options.maxRepeat view.children fun child _ ↦ funext (tabButton_disregard child shown)
  rw [tabViewMarkup_eq, View.children_disregard, tabs, buttons, plainElement_disregard,
    tabViewMarkup_eq]

theorem pickerMarkup_disregard :
    pickerMarkup options view.disregard (fun inner _ ↦ shown inner) =
      pickerMarkup options view (fun inner _ ↦ shown inner) := by
  have choices := map_inlineRows_disregard (fun row ↦ row.plainText?.getD "") options.maxRepeat
    view.children fun child _ ↦ by rw [View.plainText?_disregard]
  have style := View.modifierToken?_disregard view (show ¬IsDisregarded "pickerStyle" by decide)
  simp only [pickerMarkup, View.children_disregard, choices, headingMarkup_disregard, style,
    plainElement_disregard]

theorem imageMarkup_disregard : imageMarkup options view.disregard = imageMarkup options view := by
  simp only [imageMarkup, View.string?_disregard, View.propertyText?_disregard,
    viewElement_disregard]

theorem progressMarkup_disregard :
    progressMarkup options view.disregard = progressMarkup options view := by
  simp only [progressMarkup, View.number?_disregard, View.range?_disregard,
    titleMarkup?_disregard, viewElement_disregard, plainElement_disregard]

theorem fieldMarkup_disregard (inputType : String) :
    fieldMarkup options view.disregard inputType = fieldMarkup options view inputType := by
  have style := View.modifierToken?_disregard view (show ¬IsDisregarded "textFieldStyle" by decide)
  simp only [fieldMarkup, style, View.string?_disregard, voidElement_disregard]

end Parts

/-! ## All kinds -/

variable {view : View} {shown : View → Node}

/-- The markup of a view needs no disregarded arguments if that of the views inside it does not. -/
theorem markup_disregard (options : RenderOptions)
    (same : ∀ inner : View, inner.weight < view.weight → shown inner.disregard = shown inner) :
    markup options view.disregard (fun inner _ ↦ shown inner) =
      markup options view (fun inner _ ↦ shown inner) := by
  have sameChild (child : View) (member : child ∈ view.children) :
      shown child.disregard = shown child :=
    same child (View.weight_lt_of_mem_children member)
  have sameTab (child : View) (member : child ∈ view.children) :
      shown (shownTab child).disregard = shown (shownTab child) :=
    same _ (Nat.lt_of_le_of_lt (weight_shownTab_le child) (View.weight_lt_of_mem_children member))
  have items := framedRows_disregard options view shown sameChild
    (fun _ item ↦ .classed "div" "sv-menu-item" [item]) fun _ ↦ rfl
  have style := View.modifierToken?_disregard view (show ¬IsDisregarded "buttonStyle" by decide)
  unfold markup
  simp only [View.kind_disregard, View.property?_disregard, View.string?_disregard, style, items,
    viewElement_disregard, plainElement_disregard, voidElement_disregard, headingMarkup_disregard,
    repetition_disregard, imageMarkup_disregard, progressMarkup_disregard, fieldMarkup_disregard,
    pickerMarkup_disregard, tabViewMarkup_disregard options view shown sameTab,
    children_disregard view shown sameChild, labelMarkup_disregard view shown sameChild,
    listMarkup_disregard options view shown sameChild,
    sectionMarkup_disregard options view shown sameChild,
    navigationMarkup_disregard options view shown sameChild,
    sliderMarkup_disregard options view shown sameChild,
    toggleMarkup_disregard options view shown sameChild,
    labelViewMarkup_disregard options view shown sameChild,
    dialogMarkup_disregard options view shown sameChild]

/-- Rendering looks at no disregarded arguments. -/
theorem viewNode_disregard (options : RenderOptions) (view : View) :
    viewNode options view.disregard = viewNode options view := by
  have same (inner : View) (_ : inner.weight < view.weight) :
      viewNode options inner.disregard = viewNode options inner :=
    viewNode_disregard options inner
  rw [viewNode, wrap_disregard, markup_disregard options same, viewNode]
termination_by view.weight

end Render

end ViewPreview
