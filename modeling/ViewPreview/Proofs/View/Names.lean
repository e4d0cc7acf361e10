import ViewPreview.Proofs.Text.Identifier
import ViewPreview.View.Rows

/-!
# Names in Views

The names of kinds are ASCII identifiers.  The tokens of a tree are names as well when every modifier
whose argument is a token carries an ASCII identifier, on the view itself and on every view inside
it.  Substitution in texts changes no token, so the rows of a repetition have this property when the
repetition has it.
-/

namespace ViewPreview

open ViewPreview.Text (isIdentifier)

theorem Kind.isIdentifier_name (kind : Kind) : isIdentifier kind.name.toList = true := by
  cases kind
  all_goals decide

/-- Whether all tokens of modifiers in a tree are ASCII identifiers. -/
inductive View.TokensAreNames : View → Prop
  | intro {view : View}
      (own : ∀ modifier ∈ view.modifiers, ∀ token, modifier.arguments = .token token →
        isIdentifier token.toList = true)
      (children : ∀ child ∈ view.children, child.TokensAreNames)
      (properties : ∀ key inner, (key, .view inner) ∈ view.properties → inner.TokensAreNames)
      (contents : ∀ modifier ∈ view.modifiers, ∀ content, modifier.arguments = .content content →
        content.view.TokensAreNames) :
      view.TokensAreNames

/-! ## Parts of a view after substitution -/

section Parts

variable (f : String → String)

theorem mapTextsViews_eq_map (views : List View) :
    mapTextsViews f views = views.map fun view ↦ view.mapTexts f := by
  induction views with
  | nil => rfl
  | cons view views ih => rw [mapTextsViews, ih, List.map_cons]

theorem mapTextsProperties_eq_map (properties : List (String × PropertyValue View)) :
    mapTextsProperties f properties = properties.map (mapTextsProperty f) := by
  induction properties with
  | nil => rfl
  | cons property properties ih => rw [mapTextsProperties, ih, List.map_cons]

theorem mapTextsModifiers_eq_map (modifiers : List (Modifier View)) :
    mapTextsModifiers f modifiers = modifiers.map (mapTextsModifier f) := by
  induction modifiers with
  | nil => rfl
  | cons modifier modifiers ih => rw [mapTextsModifiers, ih, List.map_cons]

theorem View.mapTexts_eq (view : View) :
    view.mapTexts f =
      ⟨view.kind, view.properties.map (mapTextsProperty f),
        view.modifiers.map (mapTextsModifier f), view.children.map fun child ↦ child.mapTexts f⟩ := by
  cases view with
  | mk kind properties modifiers children =>
    rw [View.mapTexts, mapTextsProperties_eq_map, mapTextsModifiers_eq_map, mapTextsViews_eq_map]

theorem view_of_mapTextsValue {value : PropertyValue View} {inner : View}
    (same : mapTextsValue f value = .view inner) :
    ∃ original, value = .view original ∧ inner = original.mapTexts f := by
  cases value with
  | view original => exact ⟨original, rfl, (PropertyValue.view.inj same).symm⟩
  | _ => cases same

theorem token_of_mapTextsArguments {arguments : ModifierArguments View} {token : String}
    (same : mapTextsArguments f arguments = .token token) : arguments = .token token := by
  cases arguments with
  | token original => exact same
  | _ => cases same

theorem content_of_mapTextsArguments {arguments : ModifierArguments View} {content : Content View}
    (same : mapTextsArguments f arguments = .content content) :
    ∃ original, arguments = .content original ∧ content.view = original.view.mapTexts f := by
  cases arguments with
  | content original =>
    refine ⟨original, rfl, ?_⟩
    rw [← ModifierArguments.content.inj same, mapTextsContent.eq_def]
  | _ => cases same

end Parts

namespace View.TokensAreNames

variable {view inner : View}

/-! ## Views inside a view -/

theorem child (named : view.TokensAreNames) (member : inner ∈ view.children) :
    inner.TokensAreNames := by
  cases named with
  | intro own children properties contents => exact children inner member

theorem property {key : String} (named : view.TokensAreNames)
    (found : view.property? key = some (.view inner)) : inner.TokensAreNames := by
  obtain ⟨before, after, same, -⟩ := List.lookup_eq_some_iff.mp found
  cases named with
  | intro own children properties contents =>
    apply properties key inner
    rw [same]
    exact List.mem_append_right before List.mem_cons_self

theorem content {name : String} {carried : Content View} (named : view.TokensAreNames)
    (member : ⟨name, .content carried⟩ ∈ view.modifiers) : carried.view.TokensAreNames := by
  cases named with
  | intro own children properties contents => exact contents _ member carried rfl

/-- The token of a modifier is an identifier. -/
theorem isIdentifier_of_modifierToken? {name token : String} (named : view.TokensAreNames)
    (found : view.modifierToken? name = some token) : isIdentifier token.toList = true := by
  unfold View.modifierToken? at found
  split at found
  · next carried value last =>
    cases found
    have member := List.mem_reverse.mp (List.mem_of_find?_eq_some last)
    cases named with
    | intro own children properties contents => exact own _ member token rfl
  · cases found

/-! ## Substitution -/

/-- Substitution in texts changes no token. -/
theorem mapTexts (named : view.TokensAreNames) (f : String → String) :
    (view.mapTexts f).TokensAreNames := by
  induction named with
  | intro own children properties contents mapChildren mapProperties mapContents =>
    rw [View.mapTexts_eq]
    apply View.TokensAreNames.intro
    · intro modifier member token carries
      obtain ⟨original, originalMember, rfl⟩ := List.mem_map.mp member
      rw [mapTextsModifier.eq_def] at carries
      exact own original originalMember token (token_of_mapTextsArguments f carries)
    · intro mapped member
      obtain ⟨original, originalMember, rfl⟩ := List.mem_map.mp member
      exact mapChildren original originalMember
    · intro key mapped member
      obtain ⟨⟨originalKey, value⟩, originalMember, same⟩ := List.mem_map.mp member
      rw [mapTextsProperty.eq_def] at same
      obtain ⟨rfl, mappedValue⟩ := Prod.mk.inj same
      obtain ⟨original, rfl, rfl⟩ := view_of_mapTextsValue f mappedValue
      exact mapProperties originalKey original originalMember
    · intro modifier member mapped carries
      obtain ⟨original, originalMember, rfl⟩ := List.mem_map.mp member
      rw [mapTextsModifier.eq_def] at carries
      obtain ⟨carried, originalCarries, same⟩ := content_of_mapTextsArguments f carries
      rw [same]
      exact mapContents original originalMember carried originalCarries

/-! ## Rows -/

theorem fillRow (named : view.TokensAreNames) (rowName : Option String) (value : String) :
    (view.fillRow rowName value).TokensAreNames := by
  cases rowName with
  | none => exact named
  | some rowName => exact named.mapTexts _

theorem expandedRow {maxRepeat : Nat} {row : View} (named : view.TokensAreNames)
    (member : row ∈ view.expandRows maxRepeat) : row.TokensAreNames := by
  unfold View.expandRows View.view? at member
  split at member
  · next template found =>
    obtain ⟨value, -, rfl⟩ := List.mem_map.mp member
    apply fillRow
    split at found
    · next inner property =>
      cases found
      exact named.property property
    · cases found
  · cases member

/-- The rows that the children of a view stand for. -/
theorem inlinedRow {maxRepeat : Nat} {row : View} (named : view.TokensAreNames)
    (member : row ∈ inlineRows maxRepeat view.children) : row.TokensAreNames := by
  obtain ⟨child, childMember, rowMember⟩ := List.mem_flatMap.mp member
  have childNamed := named.child childMember
  unfold View.asRows at rowMember
  split at rowMember
  · exact childNamed.expandedRow rowMember
  · rw [List.mem_singleton.mp rowMember]
    exact childNamed

end View.TokensAreNames

end ViewPreview
