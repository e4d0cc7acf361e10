import ViewPreview.Call.Modifier
import ViewPreview.Proofs.Call.Token
import ViewPreview.Proofs.Html.Sound
import ViewPreview.Proofs.Render.Markup

/-!
# Safety of Rendering

Reading the markup of a view gives back the tags that the view was rendered with, and they are
nested.  No text of the view opens, closes or changes a tag: a text is read as the characters it is
escaped to, and a value ends where it was meant to end.  The tokens in the view have to be names for
this, and those that are read from a source are.
-/

namespace ViewPreview.Render

open ViewPreview.Html (Inert)
open ViewPreview.Text (isIdentifier)

/-- The markup of a view is sound.  Every view inside it is lighter, also after the values of a
repetition have been filled in, so the induction is on the weight. -/
theorem sound_viewNode (options : RenderOptions) (view : View) (named : view.TokensAreNames) :
    (viewNode options view).Sound := by
  induction weight : view.weight using Nat.strongRecOn generalizing view with
  | ind total ih =>
    have inside : @SoundWithin view fun inner _ ↦ viewNode options inner := by
      intro inner lighter innerNamed
      exact ih inner.weight (weight ▸ lighter) inner innerNamed rfl
    rw [viewNode]
    exact sound_wrap named inside (sound_markup named inside)

/-- Rendering is safe: the markup of every view whose tokens are names is read as the tags and
characters it was rendered with, which are nested and clean, under any options and with any texts.
The tokens that modifiers are read with are names, whatever their arguments are. -/
theorem read_render :
    (∀ (options : RenderOptions) (view : View), view.TokensAreNames →
      Html.read (render options view) = some (viewNode options view).tokens ∧
        Html.isNested [] (viewNode options view).tokens = true ∧
        ∀ token ∈ (viewNode options view).tokens, token.Clean) ∧
    ∀ (name : String) (arguments : Call.Arguments) (token : String),
      Call.interpret name arguments = .ok (.token token) → isIdentifier token.toList = true := by
  constructor
  · intro options view named
    have sound := sound_viewNode options view named
    have reads : Html.read (render options view) = some (viewNode options view).tokens :=
      Html.read_write sound
    exact ⟨reads, Html.isNested_tokens sound, Html.clean_of_read reads⟩
  · intro name arguments token found
    exact Call.isIdentifier_of_interpret found

/-- A list of one text, the strings of which are written like markup. -/
def quotedMarkup : View :=
  ⟨.list, [("title", .text "\"><script>")],
    [⟨"listStyle", .token "insetGrouped"⟩, ⟨"accessibilityLabel", .text "\" onclick=\"x"⟩,
      ⟨"badge", .text "</div>"⟩],
    [⟨.text, [("text", .text "<b>&</b>")], [], []⟩]⟩

theorem tokensAreNames_quotedMarkup : quotedMarkup.TokensAreNames := by
  have text : (⟨.text, [("text", .text "<b>&</b>")], [], []⟩ : View).TokensAreNames :=
    .intro (by simp) (by simp) (by simp) (by simp)
  apply View.TokensAreNames.intro
  · intro modifier member token carries
    simp only [quotedMarkup, List.mem_cons, List.not_mem_nil, or_false] at member
    rcases member with rfl | rfl | rfl
    · cases carries
      decide
    · cases carries
    · cases carries
  · intro child member
    rw [List.mem_singleton.mp member]
    exact text
  · simp [quotedMarkup]
  · simp [quotedMarkup]

theorem read_render_quotedMarkup :
    quotedMarkup.TokensAreNames ∧
      Html.read (render {} quotedMarkup) = some (viewNode {} quotedMarkup).tokens ∧
      Html.isNested [] (viewNode {} quotedMarkup).tokens = true ∧
      Call.interpret "listStyle" ⟨[⟨none, ".insetGrouped".toList, none⟩], []⟩ =
        .ok (.token "insetGrouped") ∧
      isIdentifier "insetGrouped".toList = true := by
  have safe := read_render.1 {} quotedMarkup tokensAreNames_quotedMarkup
  have found : Call.interpret "listStyle" ⟨[⟨none, ".insetGrouped".toList, none⟩], []⟩ =
      .ok (.token "insetGrouped") := by
    rfl
  exact ⟨tokensAreNames_quotedMarkup, safe.1, safe.2.1, found, read_render.2 _ _ _ found⟩

end ViewPreview.Render
