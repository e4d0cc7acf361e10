import ViewPreview.Proofs.Style.Declared
import ViewPreview.Proofs.Style.Properties
import ViewPreview.Render.Attributes
import Mathlib.Data.List.Perm.Basic

/-!
# Modifiers That Are Switched On and Off

Some modifiers make declarations while they are on and none while they are off.  A style only ever
grows along the chain, so what such a modifier declares stays when a later one of its name is off:
the last one decides alone exactly when all before it are off.  The attributes of the tag go by the
last one, so that they agree with the style on whether a view is hidden unless it is hidden first
and shown again later.
-/

namespace ViewPreview

/-- The modifiers that make declarations only while they are on. -/
inductive Switch where
  | underline | strikethrough | monospaced | clipped | hidden | disabled | fixedSize
deriving Repr, DecidableEq

namespace Switch

/-- The name of a modifier. -/
def name : Switch → String
  | .underline => "underline"
  | .strikethrough => "strikethrough"
  | .monospaced => "monospaced"
  | .clipped => "clipped"
  | .hidden => "hidden"
  | .disabled => "disabled"
  | .fixedSize => "fixedSize"

/-- What a modifier declares while it is on. -/
def declarations : Switch → List (String × String)
  | .underline => [("text-decoration", "underline")]
  | .strikethrough => [("text-decoration", "line-through")]
  | .monospaced => [("font-family", Style.fontDesign "monospaced")]
  | .clipped => [("overflow", "hidden")]
  | .hidden => [("visibility", "hidden")]
  | .disabled => [("opacity", "0.5"), ("pointer-events", "none")]
  | .fixedSize => [("flex-shrink", "0"), ("white-space", "nowrap")]

theorem declarations_ne_nil (switch : Switch) : switch.declarations ≠ [] := by
  cases switch with
  | _ => exact List.cons_ne_nil _ _

end Switch

/-! ## Chains -/

/-- The modifiers of a name that a later one of that name follows in the chain. -/
def overridden (name : String) : List (Modifier View) → List (Modifier View)
  | [] => []
  | modifier :: later =>
    if modifier.name = name ∧ ∃ other ∈ later, other.name = name then
      modifier :: overridden name later
    else overridden name later

/-- A chain without the modifiers of a name that a later one of that name follows. -/
def lastOnly (name : String) : List (Modifier View) → List (Modifier View)
  | [] => []
  | modifier :: later =>
    if modifier.name = name ∧ ∃ other ∈ later, other.name = name then lastOnly name later
    else modifier :: lastOnly name later

/-- A view with only the last of its modifiers of a name. -/
def View.keepLast (view : View) (name : String) : View :=
  { view with modifiers := lastOnly name view.modifiers }

section Chains

variable {name : String} {modifier : Modifier View}

theorem name_of_mem_overridden {modifiers : List (Modifier View)}
    (member : modifier ∈ overridden name modifiers) : modifier.name = name := by
  induction modifiers with
  | nil => cases member
  | cons first later ih =>
    rw [overridden] at member
    split at member
    · next followed =>
      rcases List.mem_cons.mp member with rfl | behind
      · exact followed.1
      · exact ih behind
    · exact ih member

/-- A chain is taken apart into what is overridden and what is not. -/
theorem perm_lastOnly (name : String) (modifiers : List (Modifier View)) :
    modifiers.Perm (lastOnly name modifiers ++ overridden name modifiers) := by
  induction modifiers with
  | nil => exact List.Perm.refl []
  | cons first later ih =>
    rw [lastOnly, overridden]
    split
    · exact (ih.cons first).trans List.perm_middle.symm
    · exact ih.cons first

theorem isEmpty_lastOnly (name : String) (modifiers : List (Modifier View)) :
    (lastOnly name modifiers).isEmpty = modifiers.isEmpty := by
  induction modifiers with
  | nil => rfl
  | cons first later ih =>
    rw [lastOnly]
    split
    · next followed =>
      obtain ⟨-, other, member, -⟩ := followed
      rw [ih, List.isEmpty_eq_false_iff.mpr (List.ne_nil_of_mem member)]
      rfl
    · rfl

/-- What is overridden can be left out where it contributes nothing. -/
theorem flatMap_lastOnly {α : Type} {contribution : Modifier View → List α}
    {modifiers : List (Modifier View)}
    (nothing : ∀ modifier ∈ overridden name modifiers, contribution modifier = []) :
    (lastOnly name modifiers).flatMap contribution = modifiers.flatMap contribution := by
  induction modifiers with
  | nil => rfl
  | cons first later ih =>
    rw [overridden] at nothing
    rw [lastOnly]
    split at nothing
    · next followed =>
      obtain ⟨noFirst, noLater⟩ := List.forall_mem_cons.mp nothing
      rw [if_pos followed, ih noLater, List.flatMap_cons, noFirst, List.nil_append]
    · next last => rw [if_neg last, List.flatMap_cons, List.flatMap_cons, ih nothing]

end Chains

namespace Style

open InlineStyle (pixels)

/-! ## Contributions of one modifier -/

section Contributions

variable (kind : Kind) (options : RenderOptions)

theorem modifierDeclarations_switch (switch : Switch) (arguments : ModifierArguments View) :
    modifierDeclarations kind options ⟨switch.name, arguments⟩ =
      whenOn arguments switch.declarations := by
  cases switch with
  | _ => rfl

theorem modifierFilter?_switch (switch : Switch) (arguments : ModifierArguments View) :
    modifierFilter? ⟨switch.name, arguments⟩ = none := by
  cases switch with
  | _ => rfl

theorem isOn_eq_false_iff {arguments : ModifierArguments View} :
    isOn arguments = false ↔ arguments = .flag false := by
  cases arguments with
  | flag value =>
    rw [isOn, ModifierArguments.flag.injEq]
  | _ => exact iff_of_false Bool.noConfusion (by rintro ⟨⟩)

/-- A modifier of the name declares nothing exactly when it is off. -/
theorem modifierDeclarations_eq_nil_iff {switch : Switch} {modifier : Modifier View}
    (named : modifier.name = switch.name) :
    modifierDeclarations kind options modifier = [] ↔ modifier.arguments = .flag false := by
  obtain ⟨_, arguments⟩ := modifier
  obtain rfl := named
  rw [modifierDeclarations_switch, whenOn, ← isOn_eq_false_iff]
  cases isOn arguments with
  | true => exact iff_of_false switch.declarations_ne_nil Bool.noConfusion
  | false => exact iff_of_true rfl rfl

end Contributions

/-! ## Styles -/

section Views

variable (view : View) (options : RenderOptions)

theorem kindDeclarations_keepLast (name : String) :
    kindDeclarations (view.keepLast name) options = kindDeclarations view options := by
  unfold kindDeclarations
  simp only [View.keepLast, isEmpty_lastOnly]
  rfl

theorem filterMap_lastOnly (switch : Switch) (modifiers : List (Modifier View)) :
    (lastOnly switch.name modifiers).filterMap modifierFilter? =
      modifiers.filterMap modifierFilter? := by
  have noFilter : ∀ modifier ∈ overridden switch.name modifiers,
      (modifierFilter? modifier).toList = [] := by
    rintro ⟨_, arguments⟩ member
    obtain rfl := name_of_mem_overridden member
    rw [modifierFilter?_switch]
    rfl
  rw [List.filterMap_eq_flatMap_toList, List.filterMap_eq_flatMap_toList, flatMap_lastOnly noFilter]

/-- The style of a view is that with only the last modifier of a name, and all that the earlier ones
declare. -/
theorem perm_viewStyle_keepLast (switch : Switch) :
    (viewStyle view options).declarations.Perm
      ((viewStyle (view.keepLast switch.name) options).declarations ++
        ((overridden switch.name view.modifiers).flatMap
          (modifierDeclarations view.kind options)).map fun entry ↦ ⟨entry.1, entry.2⟩) := by
  have contributed : (view.modifiers.flatMap (modifierDeclarations view.kind options)).Perm
      ((lastOnly switch.name view.modifiers).flatMap (modifierDeclarations view.kind options) ++
        (overridden switch.name view.modifiers).flatMap
          (modifierDeclarations view.kind options)) := by
    rw [← List.flatMap_append]
    exact (perm_lastOnly switch.name view.modifiers).flatMap_right _
  rw [viewStyle_eq, viewStyle_eq, kindDeclarations_keepLast, ← List.map_append, List.append_assoc]
  exact (contributed.append_left _).map _

/-- The last modifier of a name decides alone exactly when all before it are off. -/
theorem viewStyle_keepLast_iff (switch : Switch) :
    viewStyle (view.keepLast switch.name) options = viewStyle view options ↔
      ∀ modifier ∈ overridden switch.name view.modifiers, modifier.arguments = .flag false := by
  have nothing_iff : ∀ modifier ∈ overridden switch.name view.modifiers,
      (modifierDeclarations view.kind options modifier = [] ↔
        modifier.arguments = .flag false) := fun modifier member ↦
    modifierDeclarations_eq_nil_iff view.kind options (name_of_mem_overridden member)
  constructor
  · intro same modifier member
    have lengths := (perm_viewStyle_keepLast view options switch).length_eq
    rw [same, List.length_append, List.length_map] at lengths
    have none : (overridden switch.name view.modifiers).flatMap
        (modifierDeclarations view.kind options) = [] := List.eq_nil_of_length_eq_zero (by omega)
    exact (nothing_iff modifier member).mp (List.flatMap_eq_nil_iff.mp none modifier member)
  · intro off
    have nothing : ∀ modifier ∈ overridden switch.name view.modifiers,
        modifierDeclarations view.kind options modifier = [] := fun modifier member ↦
      (nothing_iff modifier member).mpr (off modifier member)
    rw [viewStyle_eq, viewStyle_eq, kindDeclarations_keepLast]
    simp only [View.keepLast, flatMap_lastOnly nothing, filterMap_lastOnly]

end Views

/-! ## Visibility -/

/-- The declaration that hides a view. -/
def hidingDeclaration : Declaration :=
  ⟨"visibility", "hidden"⟩

/-- A view is hidden by its style as soon as one of its modifiers hides it. -/
theorem hidingDeclaration_mem_iff (view : View) (options : RenderOptions) :
    hidingDeclaration ∈ (viewStyle view options).allDeclarations ↔
      ∃ modifier ∈ view.modifiers,
        modifier.name = Switch.hidden.name ∧ isOn modifier.arguments = true := by
  rw [viewStyle_allDeclarations, declared]
  constructor
  · intro member
    rcases List.mem_append.mp member with pushed | filter
    · obtain ⟨entry, inEntries, same⟩ := List.mem_map.mp pushed
      have named : "visibility" = entry.1 := (congrArg Declaration.property same).symm
      have about {declarations : List (String × String)} (inside : entry ∈ declarations) :
          ¬IsOrdinary declarations := fun ordinary ↦
        absurd (named ▸ ordinary entry inside) (by decide)
      rcases List.mem_append.mp inEntries with ofKind | ofModifiers
      · exact absurd (isOrdinary_kindDeclarations view options) (about ofKind)
      · obtain ⟨modifier, inChain, ofModifier⟩ := List.mem_flatMap.mp ofModifiers
        by_cases isHidden : modifier.name = Switch.hidden.name
        · refine ⟨modifier, inChain, isHidden, ?_⟩
          by_contra off
          rw [Bool.not_eq_true, isOn_eq_false_iff] at off
          rw [(modifierDeclarations_eq_nil_iff view.kind options isHidden).mpr off] at ofModifier
          exact List.not_mem_nil ofModifier
        · exact absurd (isOrdinary_modifierDeclarations view.kind options isHidden)
            (about ofModifier)
    · unfold filterDeclarations at filter
      split at filter
      · cases filter
      · have same : "visibility" = "filter" :=
          congrArg Declaration.property (List.mem_singleton.mp filter)
        exact absurd same (by decide)
  · rintro ⟨⟨_, arguments⟩, inChain, rfl, on⟩
    refine List.mem_append_left _ (List.mem_map.mpr ⟨("visibility", "hidden"), ?_, rfl⟩)
    refine List.mem_append_right _ (List.mem_flatMap.mpr ⟨_, inChain, ?_⟩)
    rw [modifierDeclarations_switch, whenOn, if_pos on]
    exact List.mem_singleton_self _

end Style

namespace Render

open ViewPreview.Html (Attribute)
open ViewPreview.Style

/-- The attribute that hides a view from assistive technology. -/
def hidingAttribute : Attribute :=
  .verbatim "aria-hidden" "true"

/-- A view is hidden by its attributes when the last modifier about it hides it. -/
theorem hidingAttribute_mem_iff (view : View) :
    hidingAttribute ∈ accessibilityAttributes view ↔ isHidden view = true := by
  have others : hidingAttribute ∉ view.modifiers.filterMap modifierAttribute? := by
    intro member
    obtain ⟨modifier, -, found⟩ := List.mem_filterMap.mp member
    unfold modifierAttribute? at found
    split at found
    · obtain ⟨name, known, same⟩ := Option.map_eq_some_iff.mp found
      have named : name = "aria-hidden" := congrArg Attribute.name same
      subst named
      unfold accessibilityAttribute? at known
      split at known
      case h_5 => cases known
      all_goals exact absurd (Option.some.inj known) (by decide)
    · cases found
  rw [accessibilityAttributes, List.mem_append, or_iff_right others]
  split
  · next hidden => exact iff_of_true (List.mem_singleton_self _) hidden
  · next shown => exact iff_of_false List.not_mem_nil shown

/-- Of the modifiers that are switched on and off, a style keeps what the earlier ones of a name
declare, whatever the last one says.  So the last one decides alone exactly when all before it are
off; and the style and the attributes of a view agree on whether it is hidden exactly when the last
of the modifiers about it hides it or none does. -/
theorem lastSwitch_decides_iff (view : View) (options : RenderOptions) :
    (∀ switch : Switch,
      (viewStyle view options).declarations.Perm
          ((viewStyle (view.keepLast switch.name) options).declarations ++
            ((overridden switch.name view.modifiers).flatMap
              (modifierDeclarations view.kind options)).map fun entry ↦ ⟨entry.1, entry.2⟩) ∧
        (viewStyle (view.keepLast switch.name) options = viewStyle view options ↔
          ∀ modifier ∈ overridden switch.name view.modifiers, modifier.arguments = .flag false)) ∧
      ((hidingDeclaration ∈ (viewStyle view options).allDeclarations ↔
          hidingAttribute ∈ accessibilityAttributes view) ↔
        ((∃ modifier ∈ view.modifiers,
          modifier.name = "hidden" ∧ isOn modifier.arguments = true) → isHidden view = true)) := by
  refine ⟨fun switch ↦ ⟨?kept, ?decides⟩, ?agree⟩
  case kept => exact perm_viewStyle_keepLast view options switch
  case decides => exact viewStyle_keepLast_iff view options switch
  case agree =>
    rw [hidingDeclaration_mem_iff, hidingAttribute_mem_iff]
    constructor
    · intro agree hidden
      exact agree.mp hidden
    · intro last
      refine ⟨last, fun hidden ↦ ?_⟩
      obtain ⟨modifier, found, on⟩ := (Option.any_eq_true _ _).mp hidden
      have named : (modifier.name == "hidden") = true := by
        apply List.find?_some found
      have inChain := List.mem_reverse.mp (List.mem_of_find?_eq_some found)
      exact ⟨modifier, inChain, beq_iff_eq.mp named, on⟩

/-- A text that is hidden first and shown again later. -/
def shownAgain : View :=
  { kind := .text
    properties := [("text", .text "a")]
    modifiers := [⟨"hidden", .flag true⟩, ⟨"hidden", .flag false⟩]
    children := [] }

/-- The last modifier shows the text, and so do the attributes, but the style still hides it. -/
theorem shownAgain_hidden :
    shownAgain.modifier? "hidden" = some ⟨"hidden", .flag false⟩ ∧
      modifierDeclarations .text {} ⟨"hidden", .flag true⟩ = [("visibility", "hidden")] ∧
      hidingDeclaration ∈ (viewStyle shownAgain {}).allDeclarations ∧
      hidingAttribute ∉ accessibilityAttributes shownAgain := by
  refine ⟨rfl, rfl, ?style, ?attributes⟩
  case style => decide
  case attributes => decide

end Render
end ViewPreview
