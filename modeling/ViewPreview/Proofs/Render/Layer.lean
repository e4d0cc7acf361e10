import Mathlib
import ViewPreview.Proofs.Html.Sound
import ViewPreview.Proofs.Style.Plain
import ViewPreview.Proofs.View.Names
import ViewPreview.Render.Layer

/-!
# Sound Layers

The wrappings that modifiers put around a view are sound when the view and the views they carry are.
-/

namespace ViewPreview.Render

open ViewPreview.Html
open ViewPreview.Style (inert_cellPlace inert_paint)

variable {view : View} {render : Within view} {base layer : Node}

/-- Whether a way to render views makes sound markup of every view whose tokens are names. -/
def SoundWithin (render : Within view) : Prop :=
  ∀ inner lighter, inner.TokensAreNames → (render inner lighter).Sound

theorem sound_grid {layers : List Node} (sound : ∀ layer ∈ layers, layer.Sound) :
    (grid layers).Sound :=
  Node.Sound.element div_mem
    (sound_two (sound_constant class_mem rfl) (sound_constant style_mem rfl)) sound

theorem sound_baseLayer (sound : base.Sound) : (baseLayer base).Sound :=
  Node.Sound.element div_mem
    (sound_two (sound_constant class_mem rfl) (sound_constant style_mem rfl))
    (sound_singleton sound)

/-- A layer placed in the cell of the grid; `after` are the declarations behind the place. -/
theorem sound_placedLayer {className after : String} (inertClass : Inert className)
    (inertAfter : Inert after) (sound : layer.Sound) (alignment : Option String) :
    (Node.element "div"
      [.verbatim "class" className,
        .verbatim "style"
          ("grid-area: 1 / 1; place-self: " ++ Style.cellPlace alignment ++ after)]
      [layer]).Sound := by
  have style : Inert ("grid-area: 1 / 1; place-self: " ++ Style.cellPlace alignment ++ after) := by
    rw [inert_append, inert_append]
    exact ⟨⟨inert_of_all rfl, inert_cellPlace alignment⟩, inertAfter⟩
  exact Node.Sound.element div_mem
    (sound_two (sound_verbatim class_mem inertClass) (sound_verbatim style_mem style))
    (sound_singleton sound)

theorem sound_above (baseSound : base.Sound) (layerSound : layer.Sound)
    (alignment : Option String) : (above base layer alignment).Sound :=
  sound_grid (sound_pair (sound_baseLayer baseSound)
    (sound_placedLayer (inert_of_all rfl) (inert_of_all rfl) layerSound alignment))

theorem sound_below (baseSound : base.Sound) (layerSound : layer.Sound)
    (alignment : Option String) : (below base layer alignment).Sound :=
  sound_grid (sound_pair
    (sound_placedLayer (inert_of_all rfl) (inert_of_all rfl) layerSound alignment)
    (sound_baseLayer baseSound))

/-- A layer of paint is sound whatever the names of its colors are. -/
theorem sound_fill (value : Paint) : (fill value).Sound := by
  have style : Inert ("width: 100%; height: 100%; background: " ++ Style.paint value) := by
    rw [inert_append]
    exact ⟨inert_of_all rfl, inert_paint value⟩
  exact Node.Sound.element div_mem
    (sound_two (sound_constant class_mem rfl) (sound_verbatim style_mem style))
    (List.forall_mem_nil _)

theorem sound_badge (text : String) : (badge text).Sound :=
  sound_classed span_mem rfl (sound_textNodes text)

/-- Wrapping as one modifier asks. -/
theorem sound_wrapOne (named : view.TokensAreNames) (soundWithin : SoundWithin render)
    (sound : base.Sound) (modifier : Modifier View) (member : modifier ∈ view.modifiers) :
    (wrapOne view render base modifier member).Sound := by
  unfold wrapOne
  split
  · next content member =>
    exact sound_above sound (soundWithin _ _ (named.content member)) content.alignment
  · exact sound_above sound (sound_fill _) none
  · next content member =>
    exact sound_below sound (soundWithin _ _ (named.content member)) content.alignment
  · split
    · next text _ =>
      exact sound_classed div_mem rfl (sound_pair sound (sound_badge text))
    · exact sound
  · have field : (Node.void "input" [.verbatim "type" "search", .verbatim "class" "sv-search",
        .verbatim "placeholder" "Search"]).Sound := by
      refine Node.Sound.void input_mem ?_
      rw [List.forall_mem_cons]
      exact ⟨sound_constant type_mem rfl, sound_two (sound_constant class_mem rfl)
        (sound_constant (by simp [attributeNames]) rfl)⟩
    exact sound_classed div_mem rfl (sound_pair field sound)
  · exact sound

/-- Wrapping as all modifiers ask: every wrapping keeps the markup sound. -/
theorem sound_wrap (named : view.TokensAreNames) (soundWithin : SoundWithin render)
    (sound : base.Sound) : (wrap view render base).Sound := by
  unfold wrap
  apply List.foldlRecOn (motive := Node.Sound) _ _ sound
  intro wrapped wrappedSound modifier _
  exact sound_wrapOne named soundWithin wrappedSound modifier.1 modifier.2

end ViewPreview.Render
