import ViewPreview.View.Substitution

/-!
# The Weight of a View

The number of views in a tree, counting those held by properties and modifiers.  Every view found
inside another one is lighter, and substitution in texts changes no weight, so rendering a view in
terms of the views inside it, even after substitution, comes to an end.
-/

namespace ViewPreview

mutual

/-- The number of views in a tree. -/
def View.weight : View → Nat
  | ⟨_, properties, modifiers, children⟩ =>
    1 + propertiesWeight properties + modifiersWeight modifiers + viewsWeight children

/-- The number of views in a list of trees. -/
def viewsWeight : List View → Nat
  | [] => 0
  | view :: views => view.weight + viewsWeight views

/-- The number of views held by a list of properties. -/
def propertiesWeight : List (String × PropertyValue View) → Nat
  | [] => 0
  | property :: properties => propertyWeight property + propertiesWeight properties

/-- The number of views held by a property. -/
def propertyWeight : String × PropertyValue View → Nat
  | (_, value) => valueWeight value

/-- The number of views held by a property value. -/
def valueWeight : PropertyValue View → Nat
  | .view value => value.weight
  | _ => 0

/-- The number of views held by a chain of modifiers. -/
def modifiersWeight : List (Modifier View) → Nat
  | [] => 0
  | modifier :: modifiers => modifierWeight modifier + modifiersWeight modifiers

/-- The number of views held by a modifier. -/
def modifierWeight : Modifier View → Nat
  | ⟨_, arguments⟩ => argumentsWeight arguments

/-- The number of views held by the arguments of a modifier. -/
def argumentsWeight : ModifierArguments View → Nat
  | .content value => contentWeight value
  | _ => 0

/-- The number of views in the tree that a modifier carries. -/
def contentWeight : Content View → Nat
  | ⟨view, _⟩ => view.weight

end

/-! ## Substitution keeps the weight -/

mutual

@[simp]
theorem View.weight_mapTexts (f : String → String) :
    (view : View) → (view.mapTexts f).weight = view.weight
  | ⟨_, properties, modifiers, children⟩ => by
    simp [View.mapTexts, View.weight, propertiesWeight_mapTexts f properties,
      modifiersWeight_mapTexts f modifiers, viewsWeight_mapTexts f children]

theorem viewsWeight_mapTexts (f : String → String) :
    (views : List View) → viewsWeight (mapTextsViews f views) = viewsWeight views
  | [] => by simp [mapTextsViews]
  | view :: views => by
    simp [mapTextsViews, viewsWeight, View.weight_mapTexts f view, viewsWeight_mapTexts f views]

theorem propertiesWeight_mapTexts (f : String → String) :
    (properties : List (String × PropertyValue View)) →
      propertiesWeight (mapTextsProperties f properties) = propertiesWeight properties
  | [] => by simp [mapTextsProperties]
  | property :: properties => by
    simp [mapTextsProperties, propertiesWeight, propertyWeight_mapTexts f property,
      propertiesWeight_mapTexts f properties]

theorem propertyWeight_mapTexts (f : String → String) :
    (property : String × PropertyValue View) →
      propertyWeight (mapTextsProperty f property) = propertyWeight property
  | (_, value) => by
    simp [mapTextsProperty, propertyWeight, valueWeight_mapTexts f value]

theorem valueWeight_mapTexts (f : String → String) :
    (value : PropertyValue View) → valueWeight (mapTextsValue f value) = valueWeight value
  | .view value => by simp [mapTextsValue, valueWeight, View.weight_mapTexts f value]
  | .text _ | .number _ | .bool _ | .token _ | .list _ | .range _ => by
    simp [mapTextsValue, valueWeight]

theorem modifiersWeight_mapTexts (f : String → String) :
    (modifiers : List (Modifier View)) →
      modifiersWeight (mapTextsModifiers f modifiers) = modifiersWeight modifiers
  | [] => by simp [mapTextsModifiers]
  | modifier :: modifiers => by
    simp [mapTextsModifiers, modifiersWeight, modifierWeight_mapTexts f modifier,
      modifiersWeight_mapTexts f modifiers]

theorem modifierWeight_mapTexts (f : String → String) :
    (modifier : Modifier View) →
      modifierWeight (mapTextsModifier f modifier) = modifierWeight modifier
  | ⟨_, arguments⟩ => by
    simp [mapTextsModifier, modifierWeight, argumentsWeight_mapTexts f arguments]

theorem argumentsWeight_mapTexts (f : String → String) :
    (arguments : ModifierArguments View) →
      argumentsWeight (mapTextsArguments f arguments) = argumentsWeight arguments
  | .content value => by
    simp [mapTextsArguments, argumentsWeight, contentWeight_mapTexts f value]
  | .none | .flag _ | .number _ | .text _ | .token _ | .padding _ | .paint _ | .stroke _
  | .border _ | .font _ | .frame _ | .point _ | .aspectRatio _ | .angle _ | .shadow _
  | .clipShape _ => by
    simp [mapTextsArguments, argumentsWeight]

theorem contentWeight_mapTexts (f : String → String) :
    (content : Content View) → contentWeight (mapTextsContent f content) = contentWeight content
  | ⟨view, _⟩ => by simp [mapTextsContent, contentWeight, View.weight_mapTexts f view]

end

@[simp]
theorem View.weight_replaceText (needle replacement : String) (view : View) :
    (view.replaceText needle replacement).weight = view.weight := by
  simp [View.replaceText]

/-! ## Views inside a view are lighter -/

theorem View.weight_eq (view : View) :
    view.weight = 1 + propertiesWeight view.properties + modifiersWeight view.modifiers +
      viewsWeight view.children := by
  cases view
  simp [View.weight]

theorem weight_le_viewsWeight {view : View} {views : List View} (member : view ∈ views) :
    view.weight ≤ viewsWeight views := by
  induction views with
  | nil => simp at member
  | cons head tail ih =>
    rw [viewsWeight]
    rcases List.mem_cons.mp member with rfl | inTail
    · omega
    · have := ih inTail
      omega

theorem valueWeight_le_propertiesWeight {key : String} {value : PropertyValue View}
    {properties : List (String × PropertyValue View)} (member : (key, value) ∈ properties) :
    valueWeight value ≤ propertiesWeight properties := by
  induction properties with
  | nil => simp at member
  | cons head tail ih =>
    rw [propertiesWeight]
    rcases List.mem_cons.mp member with rfl | inTail
    · rw [propertyWeight]
      omega
    · have := ih inTail
      omega

theorem argumentsWeight_le_modifiersWeight {modifier : Modifier View}
    {modifiers : List (Modifier View)} (member : modifier ∈ modifiers) :
    argumentsWeight modifier.arguments ≤ modifiersWeight modifiers := by
  induction modifiers with
  | nil => simp at member
  | cons head tail ih =>
    rw [modifiersWeight]
    rcases List.mem_cons.mp member with rfl | inTail
    · rw [modifierWeight]
      omega
    · have := ih inTail
      omega

/-- A child is lighter than its parent. -/
theorem View.weight_lt_of_mem_children {view child : View} (member : child ∈ view.children) :
    child.weight < view.weight := by
  have := weight_le_viewsWeight member
  rw [View.weight_eq view]
  omega

/-- A view in a property is lighter than the view that has the property. -/
theorem View.weight_lt_of_mem_properties {view inner : View} {key : String}
    (member : (key, .view inner) ∈ view.properties) : inner.weight < view.weight := by
  have := valueWeight_le_propertiesWeight member
  rw [View.weight_eq view]
  rw [valueWeight] at this
  omega

theorem View.weight_lt_of_property {view inner : View} {key : String}
    (found : view.property? key = some (.view inner)) : inner.weight < view.weight := by
  obtain ⟨before, after, split, -⟩ := List.lookup_eq_some_iff.mp found
  apply View.weight_lt_of_mem_properties
  rw [split]
  exact List.mem_append_right before List.mem_cons_self

/-- A view carried by a modifier is lighter than the view that has the modifier. -/
theorem View.weight_lt_of_mem_modifiers {view : View} {name : String} {content : Content View}
    (member : ⟨name, .content content⟩ ∈ view.modifiers) :
    content.view.weight < view.weight := by
  have := argumentsWeight_le_modifiersWeight member
  rw [View.weight_eq view]
  rw [argumentsWeight, contentWeight] at this
  omega

end ViewPreview
