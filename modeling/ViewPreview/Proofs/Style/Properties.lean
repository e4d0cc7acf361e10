import ViewPreview.Style.ModifierStyle

/-!
# Which Properties Are Declared

Kinds and modifiers declare properties of a fixed vocabulary.  Visibility is declared by nothing but
the modifier that hides a view, and filters are not declared at all: they are collected beside the
declarations.
-/

namespace ViewPreview.Style

/-- The properties that kinds and modifiers declare, visibility apart. -/
def ordinaryProperties : List String :=
  ["accent-color", "align-items", "align-self", "aspect-ratio", "backdrop-filter", "background",
    "background-clip", "border", "border-radius", "box-shadow", "color", "cursor", "display",
    "flex", "flex-direction", "flex-shrink", "font-family", "font-size", "font-style",
    "font-weight", "gap", "height", "justify-content", "left", "letter-spacing", "line-height",
    "max-height", "max-width", "min-height", "min-width", "object-fit", "opacity", "overflow",
    "overflow-x", "overflow-y", "padding", "padding-bottom", "padding-left", "padding-right",
    "padding-top", "place-items", "pointer-events", "position", "rotate", "scale", "text-align",
    "text-decoration", "text-shadow", "text-transform", "top", "translate", "white-space", "width",
    "z-index", "--tint", "-webkit-backdrop-filter", "-webkit-background-clip",
    "-webkit-box-orient", "-webkit-line-clamp"]

/-- Whether declarations are all of ordinary properties. -/
def IsOrdinary (declarations : List (String × String)) : Prop :=
  ∀ entry ∈ declarations, entry.1 ∈ ordinaryProperties

section Ordinary

variable {first second declarations : List (String × String)}

/-- The properties of declarations that are written out are at hand, whatever their values are. -/
theorem isOrdinary_of_all
    (all : (declarations.map Prod.fst).all ordinaryProperties.contains = true) :
    IsOrdinary declarations := fun _ member ↦
  List.contains_iff_mem.mp (List.all_eq_true.mp all _ (List.mem_map_of_mem member))

theorem isOrdinary_nil : IsOrdinary [] :=
  List.forall_mem_nil _

theorem isOrdinary_append (ordinaryFirst : IsOrdinary first) (ordinarySecond : IsOrdinary second) :
    IsOrdinary (first ++ second) :=
  List.forall_mem_append.mpr ⟨ordinaryFirst, ordinarySecond⟩

theorem isOrdinary_ite {condition : Prop} [Decidable condition] (ordinaryFirst : IsOrdinary first)
    (ordinarySecond : IsOrdinary second) :
    IsOrdinary (if condition then first else second) := by
  split
  · exact ordinaryFirst
  · exact ordinarySecond

theorem isOrdinary_whenOn {arguments : ModifierArguments View}
    (ordinary : IsOrdinary declarations) : IsOrdinary (whenOn arguments declarations) :=
  isOrdinary_ite ordinary isOrdinary_nil

/-- What an optional value declares. -/
theorem isOrdinary_option {α : Type} {property : String} {text : α → String}
    (known : property ∈ ordinaryProperties) (value : Option α) :
    IsOrdinary ((value.map fun value ↦ (property, text value)).toList) := by
  cases value with
  | none => exact isOrdinary_nil
  | some value => exact List.forall_mem_singleton.mpr known

end Ordinary

/-! ## Modifiers -/

theorem isOrdinary_paddingDeclarations (padding : Padding) (options : RenderOptions) :
    IsOrdinary (paddingDeclarations padding options) := by
  intro entry member
  obtain ⟨property, inProperties, rfl⟩ := List.mem_map.mp member
  obtain ⟨edge, -, ofEdge⟩ := List.mem_flatMap.mp inProperties
  have known : ∀ property ∈ paddingProperties edge, property ∈ ordinaryProperties := by
    cases edge with
    | _ => decide
  exact known property ofEdge

theorem isOrdinary_foreground (kind : Kind) (value : Paint) :
    IsOrdinary (foreground kind value) := by
  refine isOrdinary_ite (isOrdinary_of_all rfl) ?_
  cases value with
  | _ => exact isOrdinary_of_all rfl

theorem isOrdinary_background (value : Paint) : IsOrdinary (background value) := by
  cases value with
  | _ => exact isOrdinary_of_all rfl

theorem isOrdinary_fontDeclarations (font : Font) : IsOrdinary (fontDeclarations font) := by
  unfold fontDeclarations
  refine isOrdinary_append (isOrdinary_append (isOrdinary_append (isOrdinary_append ?style
    ?size) ?weight) ?design) ?family
  case style =>
    cases font.style with
    | none => exact isOrdinary_nil
    | some style => exact isOrdinary_of_all rfl
  case size => exact isOrdinary_option (by decide) font.size
  case weight => exact isOrdinary_option (by decide) font.weight
  case design => exact isOrdinary_option (by decide) font.design
  case family => exact isOrdinary_option (by decide) font.family

theorem isOrdinary_dimensionDeclarations {property fill : String}
    (known : property ∈ ordinaryProperties) (knownFill : fill ∈ ordinaryProperties)
    (dimension : Option Dimension) :
    IsOrdinary (dimensionDeclarations property fill dimension) := by
  unfold dimensionDeclarations
  split
  · exact List.forall_mem_singleton.mpr known
  · refine List.forall_mem_cons.mpr ⟨knownFill, ?_⟩
    exact isOrdinary_ite (List.forall_mem_singleton.mpr known) isOrdinary_nil
  · exact isOrdinary_nil

theorem isOrdinary_frameDeclarations (frame : Frame) : IsOrdinary (frameDeclarations frame) := by
  unfold frameDeclarations
  refine isOrdinary_append (isOrdinary_append ?dimensions ?shrinking) ?alignment
  case dimensions =>
    repeat' apply isOrdinary_append
    all_goals exact isOrdinary_dimensionDeclarations (by decide) (by decide) _
  case shrinking => exact isOrdinary_ite (isOrdinary_of_all rfl) isOrdinary_nil
  case alignment => exact isOrdinary_ite (isOrdinary_of_all rfl) isOrdinary_nil

theorem isOrdinary_aspectRatioDeclarations (value : AspectRatio) :
    IsOrdinary (aspectRatioDeclarations value) := by
  refine isOrdinary_append (isOrdinary_option (by decide) value.ratio) ?_
  split
  · exact isOrdinary_of_all rfl
  · exact isOrdinary_of_all rfl
  · exact isOrdinary_nil

theorem isOrdinary_shadowDeclaration (kind : Kind) (shadow : Shadow) :
    IsOrdinary [shadowDeclaration kind shadow] := by
  unfold shadowDeclaration
  split
  · exact isOrdinary_of_all rfl
  · exact isOrdinary_of_all rfl

/-- Every modifier but the one that hides a view declares ordinary properties. -/
theorem isOrdinary_modifierDeclarations (kind : Kind) (options : RenderOptions)
    {modifier : Modifier View} (other : modifier.name ≠ "hidden") :
    IsOrdinary (modifierDeclarations kind options modifier) := by
  unfold modifierDeclarations
  dsimp only
  split
  case h_1 => exact isOrdinary_paddingDeclarations _ options
  case h_2 | h_3 => exact isOrdinary_foreground kind _
  case h_7 => exact isOrdinary_background _
  case h_11 => exact isOrdinary_fontDeclarations _
  case h_26 => exact isOrdinary_frameDeclarations _
  case h_29 => exact isOrdinary_aspectRatioDeclarations _
  case h_35 => exact isOrdinary_shadowDeclaration kind _
  case h_39 => exact isOrdinary_ite (isOrdinary_of_all rfl) isOrdinary_nil
  case h_15 | h_16 | h_17 | h_37 | h_40 | h_42 => exact isOrdinary_whenOn (isOrdinary_of_all rfl)
  case h_41 named => exact absurd named other
  all_goals exact isOrdinary_of_all rfl

/-- Whatever a modifier declares is the visibility of a view or an ordinary property. -/
theorem property_mem_of_mem_modifierDeclarations {kind : Kind} {options : RenderOptions}
    {modifier : Modifier View} {entry : String × String}
    (member : entry ∈ modifierDeclarations kind options modifier) :
    entry.1 ∈ "visibility" :: ordinaryProperties := by
  by_cases hides : modifier.name = "hidden"
  · obtain ⟨_, arguments⟩ := modifier
    obtain rfl := hides
    have visibility : entry ∈ whenOn arguments [("visibility", "hidden")] := member
    unfold whenOn at visibility
    split at visibility
    · rw [List.mem_singleton.mp visibility]
      exact List.mem_cons_self
    · cases visibility
  · exact List.mem_cons_of_mem _ (isOrdinary_modifierDeclarations kind options hides entry member)

/-! ## Kinds -/

/-- Every kind declares ordinary properties. -/
theorem isOrdinary_kindDeclarations (view : View) (options : RenderOptions) :
    IsOrdinary (kindDeclarations view options) := by
  unfold kindDeclarations
  dsimp only
  split
  case h_8 =>
    unfold scrolling
    split
    · exact isOrdinary_of_all rfl
    · exact isOrdinary_of_all rfl
  case h_9 =>
    unfold spacer
    split
    · exact isOrdinary_of_all rfl
    · exact isOrdinary_of_all rfl
  case h_10 | h_11 => exact isOrdinary_ite (isOrdinary_of_all rfl) (isOrdinary_of_all rfl)
  case h_13 | h_14 | h_15 | h_16 | h_17 =>
    refine isOrdinary_append (isOrdinary_of_all rfl) ?_
    unfold outline
    split
    all_goals exact isOrdinary_of_all rfl
  all_goals exact isOrdinary_of_all rfl

end ViewPreview.Style
