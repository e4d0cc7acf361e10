import ViewPreview.Preview
import ViewPreview.Proofs.Call.WellFormed

/-!
# Well-Formed Previews

Every view that is read from an outline is well-formed, whatever the outline is: the parts of an
expression are read to well-formed views, from which constructors and modifiers make well-formed
ones again.  So is the root of every preview, by whichever way the source is read.
-/

namespace ViewPreview

open ViewPreview.Outline

namespace Outline

/-! ## Names -/

theorem ne_custom_of_ofName? {name : String} {kind : Kind} (found : Kind.ofName? name = some kind) :
    kind ≠ .custom := by
  have matched := List.find?_some found
  rintro rfl
  cases matched

/-- A name that stands for a view by itself is that of a kind. -/
theorem exists_kind_of_namesView {name : String} (isView : namesView name false = true) :
    ∃ kind, Kind.ofName? name = some kind := by
  unfold namesView at isView
  split at isView
  · next kind found => exact ⟨kind, found⟩
  · cases isView

/-! ## Outlines -/

theorem wellFormed_addLink {line : Option Nat} {name : String}
    {arguments : ViewPreview.Call.Arguments} {base : Reading View}
    (given : arguments.AreWellFormed) (wellFormed : base.value.WellFormed) :
    (addLink line name arguments base).value.WellFormed := by
  obtain ⟨isComplete, content⟩ := ViewPreview.Call.isComplete_modifierOf given name
  exact wellFormed.addModifier isComplete content

theorem areWellFormed_plain (arguments : List (Argument Expression)) :
    ∀ argument ∈ arguments.map Argument.plain, ∀ view, argument.view = some view →
      view.WellFormed := by
  intro argument member view carries
  obtain ⟨original, -, rfl⟩ := List.mem_map.mp member
  cases carries

mutual

theorem wellFormed_view? : ∀ (expression : Expression) (reading : Reading View),
    expression.view? = some reading → reading.value.WellFormed
  | ⟨name, call, links⟩ => by
    intro reading read
    rw [Expression.view?] at read
    split at read
    · next isView =>
      cases read
      exact wellFormed_followLinks links _ (wellFormed_headView name call isView)
    · cases read

theorem wellFormed_headView (name : String) : ∀ call : Option (Call Expression),
    namesView name call.isSome = true → (headView name call).value.WellFormed
  | none => by
    intro isView
    obtain ⟨kind, found⟩ := exists_kind_of_namesView isView
    rw [headView, found]
    exact View.wellFormed_ofKind (ne_custom_of_ofName? found)
  | some call => by
    intro _
    rw [headView]
    split
    · next kind found => exact wellFormed_constructedView (ne_custom_of_ofName? found) call
    · exact View.wellFormed_placeholder name

theorem wellFormed_constructedView {kind : Kind} (isShown : kind ≠ .custom) :
    ∀ call : Call Expression, (constructedView kind call).value.WellFormed
  | ⟨arguments, closures⟩ => by
    rw [constructedView]
    refine ViewPreview.Call.wellFormed_build isShown ⟨?_, ?_⟩ (attachable_closureViews _ _ _ closures)
    · split
      · exact wellFormed_argumentViews arguments
      · exact areWellFormed_plain arguments
    · exact fun _ member ↦ absurd member List.not_mem_nil

theorem wellFormed_argumentViews : ∀ arguments : List (Argument Expression),
    ∀ argument ∈ (argumentViews arguments).value, ∀ view, argument.view = some view →
      view.WellFormed
  | [] => by
    intro argument member
    rw [argumentViews] at member
    cases member
  | first :: others => by
    rw [argumentViews, List.forall_mem_cons]
    exact ⟨wellFormed_argumentView first, wellFormed_argumentViews others⟩

theorem wellFormed_argumentView : ∀ (argument : Argument Expression) (view : View),
    (argumentView argument).value.view = some view → view.WellFormed
  | ⟨label, text, expression⟩ => by
    intro view carries
    rw [argumentView] at carries
    split at carries
    · next reading read =>
      cases carries
      exact wellFormed_optionalView? expression reading read
    · cases carries

theorem wellFormed_optionalView? : ∀ (expression : Option Expression) (reading : Reading View),
    optionalView? expression = some reading → reading.value.WellFormed
  | none => by
    intro reading read
    rw [optionalView?] at read
    cases read
  | some expression => by
    intro reading read
    rw [optionalView?] at read
    exact wellFormed_view? expression reading read

theorem attachable_closureViews (kind : Kind) (arguments : ViewPreview.Call.Arguments)
    (hasLabelClosure : Bool) : ∀ closures : List (Closure Expression),
    ViewPreview.Call.AreAttachable kind
      (closureViews kind arguments hasLabelClosure closures).value
  | [] => by
    rw [closureViews]
    exact ⟨fun _ member ↦ absurd member List.not_mem_nil,
      fun _ member ↦ absurd member List.not_mem_nil⟩
  | first :: others => by
    obtain ⟨views, repeats⟩ := attachable_closureViews kind arguments hasLabelClosure others
    obtain ⟨firstViews, firstRepeats⟩ :=
      attachable_closureView kind arguments hasLabelClosure first
    rw [closureViews]
    exact ⟨List.forall_mem_cons.mpr ⟨firstViews, views⟩,
      List.forall_mem_cons.mpr ⟨firstRepeats, repeats⟩⟩

theorem attachable_closureView (kind : Kind) (arguments : ViewPreview.Call.Arguments)
    (hasLabelClosure : Bool) : ∀ closure : Closure Expression,
    (∀ view ∈ (closureView kind arguments hasLabelClosure closure).value.views, view.WellFormed) ∧
      ((closureView kind arguments hasLabelClosure closure).value.role = .rowTemplate →
        kind = .forEach)
  | ⟨label, parameter, statements⟩ => by
    rw [closureView]
    split
    · refine ⟨fun _ member ↦ absurd member List.not_mem_nil, ?_⟩
      rintro ⟨⟩
    · exact ⟨wellFormed_statementViews statements, ViewPreview.Call.repeats_of_closureRole⟩

theorem wellFormed_statementViews : ∀ statements : List (Statement Expression),
    ∀ view ∈ (statementViews statements).value, view.WellFormed
  | [] => by
    rw [statementViews]
    exact fun _ member ↦ absurd member List.not_mem_nil
  | first :: others => by
    intro view member
    rw [statementViews] at member
    rcases List.mem_append.mp member with inFirst | inOthers
    · exact wellFormed_statementView first view inFirst
    · exact wellFormed_statementViews others view inOthers

theorem wellFormed_statementView : ∀ statement : Statement Expression,
    ∀ view ∈ (statementView statement).value, view.WellFormed
  | ⟨line, text, expression⟩ => by
    intro view member
    rw [statementView] at member
    split at member
    · next reading read =>
      rw [List.mem_singleton.mp member]
      exact wellFormed_optionalView? expression reading read
    · cases member

theorem wellFormed_followLinks : ∀ (links : List (Link Expression)) (base : Reading View),
    base.value.WellFormed → (followLinks base links).value.WellFormed
  | [] => by
    intro base wellFormed
    rw [followLinks]
    exact wellFormed
  | link :: links => by
    intro base wellFormed
    rw [followLinks]
    exact wellFormed_followLinks links _ (wellFormed_followLink link base wellFormed)

theorem wellFormed_followLink : ∀ (link : Link Expression) (base : Reading View),
    base.value.WellFormed → (followLink base link).value.WellFormed
  | .unread line name => by
    intro base wellFormed
    rw [followLink]
    exact wellFormed
  | .call line name ⟨arguments, closures⟩ => by
    intro base wellFormed
    rw [followLink]
    refine wellFormed_addLink ⟨?_, ?_⟩ wellFormed
    · split
      · exact wellFormed_argumentViews arguments
      · exact areWellFormed_plain arguments
    · dsimp only
      split
      · exact wellFormed_trailingViews closures
      · exact fun _ member ↦ absurd member List.not_mem_nil

theorem wellFormed_trailingViews : ∀ closures : List (Closure Expression),
    ∀ view ∈ (trailingViews closures).value, view.WellFormed
  | [] => by
    rw [trailingViews]
    exact fun _ member ↦ absurd member List.not_mem_nil
  | ⟨_, _, statements⟩ :: others => by
    intro view member
    rw [trailingViews, trailingView] at member
    rcases List.mem_append.mp member with inFirst | inOthers
    · exact wellFormed_statementViews statements view inFirst
    · exact wellFormed_trailingViews others view inOthers

end

/-- The view of a body is well-formed. -/
theorem wellFormed_of_body {body : Body Caveat} {reading : Reading View}
    (read : body.view = .ok reading) : reading.value.WellFormed := by
  unfold Body.view at read
  split at read
  · next own ofExpression =>
    cases read
    exact wellFormed_optionalView? body.expression own ofExpression
  · cases read

end Outline

namespace Preview

/-- A source with a view in an argument and one in a modifier, both of which hold a placeholder. -/
def nestedPlaceholders : String :=
  "struct A: View \x7b var body: some View \x7b " ++
    "NavigationLink(destination: DetailView().padding(.top)) \x7b Text(\"a\") \x7d" ++
    ".overlay(alignment: .top) \x7b ForEach(0..<3) \x7b n in RowView(n) \x7d \x7d \x7d \x7d"

theorem nestedPlaceholders_shown :
    (ofSource .fallback nestedPlaceholders).root.isSome = true := by
  decide +kernel

end Preview

end ViewPreview
