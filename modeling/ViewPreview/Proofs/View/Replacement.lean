import Mathlib.Data.List.Forall2
import ViewPreview.Proofs.Text.Occurrence
import ViewPreview.Proofs.View.Nesting

/-!
# What Replacement Reaches

Replacing a text everywhere in a view keeps the shape of the tree: kinds, keys, names of modifiers,
and the children with their order.  Each text property and each text argument, of the view and of
every view inside it, has the replacement carried out in it.  The items of a list are strings as
well, but they stay what they were, so that the replaced text may still be found in them.
-/

namespace ViewPreview

open ViewPreview.Text (Lacks lacks_replaceString replaceString replaceString_of_lacks)

/-! ## Induction on the views inside a view -/

theorem View.sizeOf_child_lt {view child : View} (member : child ∈ view.children) :
    sizeOf child < sizeOf view := by
  obtain ⟨kind, properties, modifiers, children⟩ := view
  have := List.sizeOf_lt_of_mem member
  simp only [View.mk.sizeOf_spec] at *
  omega

theorem View.sizeOf_property_lt {view inner : View} {key : String}
    (member : (key, .view inner) ∈ view.properties) : sizeOf inner < sizeOf view := by
  obtain ⟨kind, properties, modifiers, children⟩ := view
  have := List.sizeOf_lt_of_mem member
  simp only [View.mk.sizeOf_spec, Prod.mk.sizeOf_spec, PropertyValue.view.sizeOf_spec] at *
  omega

theorem View.sizeOf_content_lt {view : View} {modifier : Modifier View} {content : Content View}
    (member : modifier ∈ view.modifiers) (carries : modifier.arguments = .content content) :
    sizeOf content.view < sizeOf view := by
  obtain ⟨kind, properties, modifiers, children⟩ := view
  obtain ⟨name, arguments⟩ := modifier
  obtain ⟨inner, alignment⟩ := content
  obtain rfl := carries
  have := List.sizeOf_lt_of_mem member
  simp only [View.mk.sizeOf_spec, Modifier.mk.sizeOf_spec, ModifierArguments.content.sizeOf_spec,
    Content.mk.sizeOf_spec] at *
  omega

/-- What passes from the views directly inside a view to the view holds of all views. -/
theorem View.induction {motive : View → Prop}
    (step : ∀ view : View, (∀ child ∈ view.children, motive child) →
      (∀ key inner, (key, .view inner) ∈ view.properties → motive inner) →
      (∀ modifier ∈ view.modifiers, ∀ content, modifier.arguments = .content content →
        motive content.view) →
      motive view)
    (view : View) : motive view :=
  step view (fun child _member ↦ View.induction step child)
    (fun _key inner _member ↦ View.induction step inner)
    (fun _modifier _member content _carries ↦ View.induction step content.view)
termination_by sizeOf view
decreasing_by
  · exact View.sizeOf_child_lt _member
  · exact View.sizeOf_property_lt _member
  · exact View.sizeOf_content_lt _member _carries

/-! ## Views of one shape -/

section Reworded

variable (text : String → String → Prop) (view : View → View → Prop)

/-- Two property values that are related as texts or as views, or the same. -/
inductive PropertyValue.Reworded : PropertyValue View → PropertyValue View → Prop
  | text {old new : String} (related : text old new) : Reworded (.text old) (.text new)
  | view {old new : View} (related : view old new) : Reworded (.view old) (.view new)
  | other {value : PropertyValue View} (noText : ∀ written, value ≠ .text written)
      (noView : ∀ inner, value ≠ .view inner) : Reworded value value

/-- Two properties with one key. -/
inductive Property.Reworded :
    String × PropertyValue View → String × PropertyValue View → Prop
  | intro {key : String} {old new : PropertyValue View}
      (values : PropertyValue.Reworded text view old new) : Reworded (key, old) (key, new)

/-- Two modifiers with one name whose arguments are related as texts or as views, or the same. -/
inductive Modifier.Reworded : Modifier View → Modifier View → Prop
  | text {name old new : String} (related : text old new) :
      Reworded ⟨name, .text old⟩ ⟨name, .text new⟩
  | content {name : String} {old new : Content View} (related : view old.view new.view)
      (alignment : new.alignment = old.alignment) :
      Reworded ⟨name, .content old⟩ ⟨name, .content new⟩
  | other {modifier : Modifier View} (noText : ∀ written, modifier.arguments ≠ .text written)
      (noContent : ∀ content, modifier.arguments ≠ .content content) : Reworded modifier modifier

/-- Two views that differ in nothing but related texts, here and in all views inside. -/
inductive View.Reworded : View → View → Prop
  | intro {old new : View} (kind : new.kind = old.kind)
      (properties :
        List.Forall₂ (Property.Reworded text View.Reworded) old.properties new.properties)
      (modifiers : List.Forall₂ (Modifier.Reworded text View.Reworded) old.modifiers new.modifiers)
      (children : List.Forall₂ View.Reworded old.children new.children) : Reworded old new

end Reworded

section Substitution

variable {f : String → String} {related : String → String → Prop}

theorem PropertyValue.reworded_mapTexts (texts : ∀ text, related text (f text))
    (value : PropertyValue View)
    (inside : ∀ inner, value = .view inner → inner.Reworded related (inner.mapTexts f)) :
    PropertyValue.Reworded related (View.Reworded related) value (mapTextsValue f value) := by
  cases value with
  | text written => exact .text (texts written)
  | view inner => exact .view (inside inner rfl)
  | _ => exact .other (by rintro _ ⟨⟩) (by rintro _ ⟨⟩)

theorem Modifier.reworded_mapTexts (texts : ∀ text, related text (f text))
    (modifier : Modifier View)
    (inside : ∀ content, modifier.arguments = .content content →
      content.view.Reworded related (content.view.mapTexts f)) :
    Modifier.Reworded related (View.Reworded related) modifier (mapTextsModifier f modifier) := by
  obtain ⟨name, arguments⟩ := modifier
  cases arguments with
  | text written => exact .text (texts written)
  | content content =>
    obtain ⟨inner, alignment⟩ := content
    exact .content (inside ⟨inner, alignment⟩ rfl) rfl
  | _ => exact .other (by rintro _ ⟨⟩) (by rintro _ ⟨⟩)

/-- Substitution in texts rewords a view. -/
theorem View.reworded_mapTexts (texts : ∀ text, related text (f text)) (view : View) :
    view.Reworded related (view.mapTexts f) := by
  induction view using View.induction with
  | step view children properties contents =>
    have sameProperties : List.Forall₂ (Property.Reworded related (View.Reworded related))
        view.properties (view.properties.map (mapTextsProperty f)) := by
      rw [List.forall₂_map_right_iff, List.forall₂_same]
      rintro ⟨key, value⟩ member
      apply Property.Reworded.intro
      apply PropertyValue.reworded_mapTexts texts
      rintro inner rfl
      exact properties key inner member
    have sameModifiers : List.Forall₂ (Modifier.Reworded related (View.Reworded related))
        view.modifiers (view.modifiers.map (mapTextsModifier f)) := by
      rw [List.forall₂_map_right_iff, List.forall₂_same]
      intro modifier member
      exact Modifier.reworded_mapTexts texts modifier (contents modifier member)
    have sameChildren : List.Forall₂ (View.Reworded related)
        view.children (view.children.map fun child ↦ child.mapTexts f) := by
      rw [List.forall₂_map_right_iff, List.forall₂_same]
      exact children
    rw [View.mapTexts_eq]
    exact .intro rfl sameProperties sameModifiers sameChildren

end Substitution

/-! ## Parts of a view after substitution -/

section Parts

variable {f : String → String} {view : View} {holds : View → Prop}

theorem View.mem_properties_mapTexts {key : String} {value : PropertyValue View} :
    (key, value) ∈ (view.mapTexts f).properties ↔
      ∃ original, (key, original) ∈ view.properties ∧ mapTextsValue f original = value := by
  rw [View.mapTexts_eq, List.mem_map]
  constructor
  · rintro ⟨⟨_, original⟩, member, ⟨⟩⟩
    exact ⟨original, member, rfl⟩
  · rintro ⟨original, member, rfl⟩
    exact ⟨(key, original), member, rfl⟩

theorem View.mem_modifiers_mapTexts {modifier : Modifier View} :
    modifier ∈ (view.mapTexts f).modifiers ↔
      ∃ original ∈ view.modifiers, mapTextsModifier f original = modifier := by
  rw [View.mapTexts_eq, List.mem_map]

theorem View.mem_properties_mapTexts_list {key : String} {items : List String} :
    (key, .list items) ∈ (view.mapTexts f).properties ↔ (key, .list items) ∈ view.properties := by
  rw [View.mem_properties_mapTexts]
  constructor
  · rintro ⟨original, member, same⟩
    cases original with
    | list => exact PropertyValue.list.inj same ▸ member
    | _ => cases same
  · exact fun member ↦ ⟨_, member, rfl⟩

theorem View.forall_children_mapTexts :
    (∀ child ∈ (view.mapTexts f).children, holds child) ↔
      ∀ child ∈ view.children, holds (child.mapTexts f) := by
  rw [View.mapTexts_eq, List.forall_mem_map]

theorem View.forall_properties_mapTexts :
    (∀ key inner, (key, .view inner) ∈ (view.mapTexts f).properties → holds inner) ↔
      ∀ key inner, (key, .view inner) ∈ view.properties → holds (inner.mapTexts f) := by
  constructor
  · exact fun all key inner member ↦ all key _ (View.mem_properties_mapTexts.mpr ⟨_, member, rfl⟩)
  · intro all key mapped member
    obtain ⟨value, originalMember, same⟩ := View.mem_properties_mapTexts.mp member
    obtain ⟨original, rfl, rfl⟩ := view_of_mapTextsValue f same
    exact all key original originalMember

theorem View.forall_contents_mapTexts :
    (∀ modifier ∈ (view.mapTexts f).modifiers, ∀ content,
        modifier.arguments = .content content → holds content.view) ↔
      ∀ modifier ∈ view.modifiers, ∀ content,
        modifier.arguments = .content content → holds (content.view.mapTexts f) := by
  constructor
  · rintro all ⟨name, arguments⟩ member ⟨inner, alignment⟩ rfl
    exact all _ (View.mem_modifiers_mapTexts.mpr ⟨_, member, rfl⟩) _ rfl
  · intro all mapped member content carries
    obtain ⟨⟨name, arguments⟩, originalMember, rfl⟩ := View.mem_modifiers_mapTexts.mp member
    obtain ⟨original, rfl, same⟩ := content_of_mapTextsArguments f carries
    exact same ▸ all _ originalMember original rfl

end Parts

/-! ## Texts and items after substitution -/

/-- Whether all items of lists in a view and in the views inside it satisfy a condition. -/
inductive View.AllItems (holds : String → Prop) : View → Prop
  | intro {view : View}
      (items : ∀ key items, (key, .list items) ∈ view.properties → ∀ item ∈ items, holds item)
      (children : ∀ child ∈ view.children, child.AllItems holds)
      (properties : ∀ key inner, (key, .view inner) ∈ view.properties → inner.AllItems holds)
      (contents : ∀ modifier ∈ view.modifiers, ∀ content, modifier.arguments = .content content →
        content.view.AllItems holds) :
      view.AllItems holds

section Substitution

variable {f : String → String} {holds : String → Prop}

theorem View.allItems_iff {view : View} :
    view.AllItems holds ↔
      (∀ key items, (key, .list items) ∈ view.properties → ∀ item ∈ items, holds item) ∧
      (∀ child ∈ view.children, child.AllItems holds) ∧
      (∀ key inner, (key, .view inner) ∈ view.properties → inner.AllItems holds) ∧
      (∀ modifier ∈ view.modifiers, ∀ content, modifier.arguments = .content content →
        content.view.AllItems holds) := by
  constructor
  · rintro ⟨items, children, properties, contents⟩
    exact ⟨items, children, properties, contents⟩
  · rintro ⟨items, children, properties, contents⟩
    exact .intro items children properties contents

/-- Substitution in texts changes no item. -/
theorem View.allItems_mapTexts (view : View) :
    (view.mapTexts f).AllItems holds ↔ view.AllItems holds := by
  induction view using View.induction with
  | step view children properties contents =>
    have sameChildren := View.forall_children_mapTexts.trans (forall₂_congr children)
    have sameProperties := View.forall_properties_mapTexts.trans (forall₃_congr properties)
    have sameContents := View.forall_contents_mapTexts.trans (forall₄_congr contents)
    rw [View.allItems_iff, View.allItems_iff, sameChildren, sameProperties, sameContents]
    simp only [View.mem_properties_mapTexts_list]

/-- What holds of all values of a function holds of all texts after substitution. -/
theorem View.allTexts_mapTexts (all : ∀ text, holds (f text)) (view : View) :
    (view.mapTexts f).AllTexts holds := by
  induction view using View.induction with
  | step view children properties contents =>
    apply View.AllTexts.intro
    · intro key text member
      obtain ⟨original, -, same⟩ := View.mem_properties_mapTexts.mp member
      cases original with
      | text written => exact PropertyValue.text.inj same ▸ all written
      | _ => cases same
    · intro modifier member text carries
      obtain ⟨⟨name, arguments⟩, -, rfl⟩ := View.mem_modifiers_mapTexts.mp member
      cases arguments with
      | text written => exact ModifierArguments.text.inj carries ▸ all written
      | _ => cases carries
    · exact View.forall_children_mapTexts.mpr children
    · exact View.forall_properties_mapTexts.mpr properties
    · exact View.forall_contents_mapTexts.mpr contents

end Substitution

/-! ## Replacement -/

namespace View

/-- Replacing a nonempty text by one that shares no character with it.  Views of one shape come out,
in which every text, at whatever depth, lacks what was replaced, and is the same as before where it
lacked that already.  Lists keep their items: what was replaced is found in an item of the result
exactly if it was found in an item before. -/
theorem replaceText_reworded {needle replacement : String} (nonempty : needle ≠ "")
    (filled : replacement ≠ "") (apart : ∀ c ∈ needle.toList, c ∉ replacement.toList)
    (view : View) :
    view.Reworded (fun old new ↦ Lacks needle new ∧ (Lacks needle old → new = old))
        (view.replaceText needle replacement) ∧
      (view.replaceText needle replacement).AllTexts (Lacks needle) ∧
      ((view.replaceText needle replacement).AllItems (Lacks needle) ↔
        view.AllItems (Lacks needle)) := by
  have lacks := lacks_replaceString nonempty filled apart
  refine ⟨?shape, allTexts_mapTexts lacks view, allItems_mapTexts view⟩
  case shape =>
    exact reworded_mapTexts (fun text ↦ ⟨lacks text, replaceString_of_lacks replacement⟩) view

/-- A repetition with the variable `j` over the one item that interpolates the variable `i`. -/
def listedInterpolation : View :=
  ⟨.forEach, [("forEachItems", .list ["\\(i)"]), ("rowTemplate", .view (ofText "\\(j)")),
    ("rowVariable", .text "j")], [], []⟩

theorem listedInterpolation_item : ¬listedInterpolation.AllItems (Lacks "\\(i)") := by
  intro all
  have lacks := (allItems_iff.mp all).1 "forEachItems" _ List.mem_cons_self _ List.mem_cons_self
  exact absurd lacks (by decide)

theorem replaceText_reworded_listedInterpolation :
    (listedInterpolation.replaceText "\\(j)" "0").AllTexts (Lacks "\\(j)") ∧
      (listedInterpolation.replaceText "\\(i)" "0").AllTexts (Lacks "\\(i)") ∧
      ¬(listedInterpolation.replaceText "\\(i)" "0").AllItems (Lacks "\\(i)") := by
  have own := replaceText_reworded (show "\\(j)" ≠ "" by decide) (show "0" ≠ "" by decide)
    (by simp) listedInterpolation
  have outer := replaceText_reworded (show "\\(i)" ≠ "" by decide) (show "0" ≠ "" by decide)
    (by simp) listedInterpolation
  exact ⟨own.2.1, outer.2.1, fun all ↦ listedInterpolation_item (outer.2.2.mp all)⟩

/-- Items of lists are not reached: an interpolation in one is still there after replacement. -/
theorem listedInterpolation_kept :
    ¬ ∀ (needle replacement : String) (view : View), needle ≠ "" → replacement ≠ "" →
      (∀ c ∈ needle.toList, c ∉ replacement.toList) →
        (view.replaceText needle replacement).AllTexts (Lacks needle) ∧
          (view.replaceText needle replacement).AllItems (Lacks needle) := by
  intro reaches
  have reached := reaches "\\(i)" "0" listedInterpolation (by decide) (by decide) (by simp)
  exact listedInterpolation_item ((allItems_mapTexts listedInterpolation).mp reached.2)

end View

end ViewPreview
