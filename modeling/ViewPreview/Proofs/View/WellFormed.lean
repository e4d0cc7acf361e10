import ViewPreview.Proofs.Text.Identifier
import ViewPreview.Proofs.View.Entry

/-!
# Well-Formed Views

What rendering relies on without checking it.  A node says which of its properties go with its kind,
its tokens are identifiers, and every modifier has the arguments that its category asks for.  A view
is well-formed when this holds of its node and of every node inside it, also of those in properties
and in modifiers.
-/

namespace ViewPreview

open ViewPreview.Text (isIdentifier)

/-- Whether a modifier has what its arguments are for. -/
def Modifier.IsComplete (modifier : Modifier View) : Prop :=
  match modifier.arguments with
  | .token token => isIdentifier token.toList = true
  | .padding padding => padding.edges ≠ []
  | .font font =>
    font.style.isSome ∨ font.size.isSome ∨ font.weight.isSome ∨ font.design.isSome ∨
      font.family.isSome
  | .frame frame =>
    frame.width.isSome ∨ frame.height.isSome ∨ frame.minWidth.isSome ∨ frame.maxWidth.isSome ∨
      frame.minHeight.isSome ∨ frame.maxHeight.isSome ∨ frame.alignment.isSome
  | .point point =>
    modifier.name = "offset" ∨ modifier.name = "position" → point.x.isSome ∨ point.y.isSome
  | .aspectRatio aspect => aspect.ratio.isSome ∨ aspect.mode.isSome
  | .shadow shadow => shadow.radius.isSome
  | _ => True

namespace View

/-- The properties that only repetitions have. -/
def repetitionKeys : List String :=
  ["forEachRange", "forEachItems", "rowTemplate"]

/-- Whether the node of a view is well-formed, whatever the views inside it are. -/
structure IsSound (view : View) : Prop where
  isShown : view.kind ≠ .custom
  repeats : ∀ entry ∈ view.properties, entry.1 ∈ repetitionKeys → view.kind = .forEach
  oneSource : ∀ first ∈ view.properties, ∀ second ∈ view.properties,
    ¬(first.1 = "forEachRange" ∧ second.1 = "forEachItems")
  standsIn : ∀ value, ("placeholder", value) ∈ view.properties →
    ∃ name, value = .text name ∧ view.kind = .group ∧
      view.children = [View.ofText ("<" ++ name ++ ">")]
  namesTokens : ∀ key token, (key, .token token) ∈ view.properties →
    isIdentifier token.toList = true
  isModified : ∀ modifier ∈ view.modifiers, modifier.IsComplete

/-- Whether the nodes of a view are well-formed: its own, those of its children, and those of the
views in its properties and modifiers. -/
inductive WellFormed : View → Prop
  | intro {view : View} (isSound : view.IsSound)
      (children : ∀ child ∈ view.children, child.WellFormed)
      (properties : ∀ key inner, (key, .view inner) ∈ view.properties → inner.WellFormed)
      (contents : ∀ modifier ∈ view.modifiers, ∀ content, modifier.arguments = .content content →
        content.view.WellFormed) :
      view.WellFormed

/-! ## Views without modifiers -/

/-- A view whose properties are texts, none of which is for repetitions, is well-formed when its
children are and it is a group around the text of its name if it is a placeholder. -/
theorem wellFormed_of_texts {view : View} (isShown : view.kind ≠ .custom)
    (texts : ∀ entry ∈ view.properties,
      entry.1 ∉ repetitionKeys ∧ ∃ content, entry.2 = .text content)
    (standsIn : ∀ value, ("placeholder", value) ∈ view.properties →
      ∃ name, value = .text name ∧ view.kind = .group ∧
        view.children = [View.ofText ("<" ++ name ++ ">")])
    (noModifiers : view.modifiers = []) (children : ∀ child ∈ view.children, child.WellFormed) :
    view.WellFormed := by
  have unmodified {modifier : Modifier View} : modifier ∉ view.modifiers := by
    rw [noModifiers]
    exact List.not_mem_nil
  apply WellFormed.intro
  · constructor
    · exact isShown
    · exact fun entry member reserved ↦ absurd reserved (texts entry member).1
    · rintro first member - - ⟨isRange, -⟩
      apply (texts first member).1
      rw [isRange]
      decide
    · exact standsIn
    · intro key token member
      obtain ⟨-, content, same⟩ := texts _ member
      cases same
    · exact fun _ member ↦ absurd member unmodified
  · exact children
  · intro key inner member
    obtain ⟨-, content, same⟩ := texts _ member
    cases same
  · exact fun _ member ↦ absurd member unmodified

theorem wellFormed_around {kind : Kind} {children : List View} (isShown : kind ≠ .custom)
    (wellFormed : ∀ child ∈ children, child.WellFormed) : (around kind children).WellFormed := by
  apply wellFormed_of_texts isShown
  · exact fun _ member ↦ absurd member List.not_mem_nil
  · exact fun _ member ↦ absurd member List.not_mem_nil
  · rfl
  · exact wellFormed

theorem wellFormed_ofKind {kind : Kind} (isShown : kind ≠ .custom) : (ofKind kind).WellFormed :=
  wellFormed_around isShown fun _ member ↦ absurd member List.not_mem_nil

/-- One view in place of several well-formed ones is well-formed. -/
theorem wellFormed_of_single? {container : Kind} {views : List View} {view : View}
    (isShown : container ≠ .custom) (wellFormed : ∀ view ∈ views, view.WellFormed)
    (found : single? container views = some view) : view.WellFormed := by
  unfold single? at found
  split at found
  · cases found
  · cases found
    exact wellFormed view List.mem_cons_self
  · cases found
    exact wellFormed_around isShown wellFormed

theorem wellFormed_ofText (content : String) : (ofText content).WellFormed := by
  have isShown : Kind.text ≠ .custom := by decide
  have unreserved : "text" ∉ repetitionKeys := by decide
  apply wellFormed_of_texts isShown
  · intro entry member
    rw [List.mem_singleton.mp member]
    exact ⟨unreserved, content, rfl⟩
  · intro value member
    have sameKey : "placeholder" = "text" := (Prod.mk.inj (List.mem_singleton.mp member)).1
    exact absurd sameKey (by decide)
  · rfl
  · exact fun _ member ↦ absurd member List.not_mem_nil

theorem wellFormed_placeholder (name : String) : (placeholder name).WellFormed := by
  have isShown : Kind.group ≠ .custom := by decide
  have unreserved : "placeholder" ∉ repetitionKeys := by decide
  apply wellFormed_of_texts isShown
  · intro entry member
    rw [List.mem_singleton.mp member]
    exact ⟨unreserved, name, rfl⟩
  · intro value member
    exact ⟨name, (Prod.mk.inj (List.mem_singleton.mp member)).2, rfl, rfl⟩
  · rfl
  · intro child member
    rw [List.mem_singleton.mp member]
    exact wellFormed_ofText _

/-! ## Modifiers -/

theorem WellFormed.addModifier {view : View} {modifier : Modifier View}
    (wellFormed : view.WellFormed) (isComplete : modifier.IsComplete)
    (content : ∀ content, modifier.arguments = .content content → content.view.WellFormed) :
    (view.addModifier modifier).WellFormed := by
  cases wellFormed with
  | intro isSound children properties contents =>
    apply WellFormed.intro
    · exact
        { isShown := isSound.isShown
          repeats := isSound.repeats
          oneSource := isSound.oneSource
          standsIn := isSound.standsIn
          namesTokens := isSound.namesTokens
          isModified := fun other member ↦ by
            rcases List.mem_append.mp member with before | last
            · exact isSound.isModified other before
            · rw [List.mem_singleton.mp last]
              exact isComplete }
    · exact children
    · exact properties
    · intro other member
      rcases List.mem_append.mp member with before | last
      · exact contents other before
      · rw [List.mem_singleton.mp last]
        exact content

end View

end ViewPreview
