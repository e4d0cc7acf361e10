import ViewPreview.Call.Modifier

/-!
# Forms of Arguments

The forms that the arguments of a modifier can be read as.  They depend on the name of the modifier
alone, and a name that is not known has none.
-/

namespace ViewPreview

/-- The forms of the arguments of a modifier. -/
inductive Form where
  | none | flag | number | text | token | padding | paint | stroke | border | font | frame | point
  | aspectRatio | angle | shadow | clipShape | content
deriving Repr, DecidableEq

/-- The form of the arguments of a modifier. -/
def ModifierArguments.form {V : Type} : ModifierArguments V → Form
  | .none => .none
  | .flag _ => .flag
  | .number _ => .number
  | .text _ => .text
  | .token _ => .token
  | .padding _ => .padding
  | .paint _ => .paint
  | .stroke _ => .stroke
  | .border _ => .border
  | .font _ => .font
  | .frame _ => .frame
  | .point _ => .point
  | .aspectRatio _ => .aspectRatio
  | .angle _ => .angle
  | .shadow _ => .shadow
  | .clipShape _ => .clipShape
  | .content _ => .content

namespace Call

/-- The names of the modifiers whose arguments are read. -/
def knownNames : List String :=
  ["foregroundColor", "foregroundStyle", "tint", "accentColor", "fill", "fontWeight",
    "multilineTextAlignment", "textCase", "textFieldStyle", "buttonStyle", "listStyle",
    "pickerStyle", "toggleStyle", "navigationBarTitleDisplayMode", "animation", "transition",
    "cornerRadius", "opacity", "lineLimit", "kerning", "tracking", "lineSpacing", "brightness",
    "contrast", "saturation", "grayscale", "scaleEffect", "zIndex", "layoutPriority", "blur",
    "navigationTitle", "accessibilityLabel", "accessibilityHint", "accessibilityValue", "help",
    "bold", "italic", "underline", "strikethrough", "clipped", "onTapGesture",
    "onLongPressGesture", "disabled", "onAppear", "onDisappear", "hidden", "scaledToFit",
    "scaledToFill", "fixedSize", "ignoresSafeArea", "edgesIgnoringSafeArea", "toolbar",
    "searchable", "monospaced", "padding", "background", "overlay", "mask", "tabItem", "stroke",
    "strokeBorder", "border", "font", "frame", "offset", "position", "aspectRatio",
    "rotationEffect", "hueRotation", "shadow", "clipShape", "badge"]

variable {name : String} {arguments : Arguments} {value : ModifierArguments View}

theorem category_eq_unknown_iff : category name = .unknown ↔ name ∉ knownNames := by
  constructor
  · intro unknown known
    have named : ∀ name ∈ knownNames, category name ≠ .unknown := by decide +kernel
    exact named name known unknown
  · intro unlisted
    unfold category
    split
    all_goals first | rfl | exact absurd (by decide) unlisted

/-- The forms that the arguments of a modifier can be read as.  A scale may be a pair of factors. -/
def readForms (name : String) : List Form :=
  match category name with
  | .paint => [.paint]
  | .token => [.token]
  | .number => if name = "scaleEffect" then [.number, .point] else [.number]
  | .text => [.text]
  | .flag => [.flag]
  | .padding => [.padding]
  | .background => [.content, .paint]
  | .overlay => [.content, .paint]
  | .content => [.content]
  | .stroke => [.stroke]
  | .border => [.border]
  | .font => [.font]
  | .frame => [.frame]
  | .point => [.point]
  | .aspectRatio => [.aspectRatio]
  | .angle => [.angle]
  | .shadow => [.shadow]
  | .clipShape => [.clipShape]
  | .badge => [.text, .number]
  | .unknown => []

theorem form_background? (read : background? arguments = some value) :
    value.form = .content ∨ value.form = .paint := by
  unfold background? at read
  split at read
  · cases read
    exact .inl rfl
  · obtain ⟨argument, -, read⟩ := Option.bind_eq_some_iff.mp read
    split at read
    · obtain ⟨paint, -, rfl⟩ := Option.map_eq_some_iff.mp read
      exact .inr rfl
    · split at read
      · cases read
        exact .inl rfl
      · obtain ⟨paint, -, rfl⟩ := Option.map_eq_some_iff.mp read
        exact .inr rfl

theorem form_overlay? (read : overlay? arguments = some value) :
    value.form = .content ∨ value.form = .paint := by
  unfold overlay? at read
  split at read
  · cases read
    exact .inl rfl
  · obtain ⟨paint, -, rfl⟩ := Option.map_eq_some_iff.mp read
    exact .inr rfl

theorem form_badge? (read : badge? arguments = some value) :
    value.form = .text ∨ value.form = .number := by
  obtain ⟨argument, -, read⟩ := Option.bind_eq_some_iff.mp read
  split at read
  · cases read
    exact .inl rfl
  · obtain ⟨number, -, rfl⟩ := Option.map_eq_some_iff.mp read
    exact .inr rfl

theorem form_number? (read : number? name arguments = some value) :
    value = .none ∨ value.form = .number ∨ value.form = .point ∧ name = "scaleEffect" := by
  unfold number? at read
  split at read
  · cases read
    exact .inl rfl
  · split at read
    · rename_i isScale
      cases read
      exact .inr (.inr ⟨rfl, beq_iff_eq.mp (Bool.and_eq_true_iff.mp isScale).1⟩)
    · obtain ⟨number, -, rfl⟩ := Option.map_eq_some_iff.mp read
      exact .inr (.inl rfl)

/-- Required arguments that are read have the form of what is read. -/
theorem mem_of_required {reading : Option (ModifierArguments View)} {error : ArgumentError}
    {forms : List Form}
    (found : (match reading with
      | some value => Except.ok value
      | none => Except.error error) = .ok value)
    (formed : ∀ value, reading = some value → value = .none ∨ value.form ∈ forms) :
    value = .none ∨ value.form ∈ forms := by
  cases read : reading with
  | none => rw [read] at found; cases found
  | some other =>
    rw [read] at found
    cases found
    exact formed value read

theorem mem_of_map {α : Type} {reading : Option α} {make : α → ModifierArguments View}
    {form : Form} (formed : ∀ x, (make x).form = form) (value : ModifierArguments View)
    (read : reading.map make = some value) : value = .none ∨ value.form ∈ [form] := by
  obtain ⟨x, -, rfl⟩ := Option.map_eq_some_iff.mp read
  exact .inr (List.mem_singleton.mpr (formed x))

/-- What the arguments of a modifier mean is of a form that belongs to the name of the modifier,
unless they mean nothing. -/
theorem form_mem_readForms (found : interpret name arguments = .ok value) :
    value = .none ∨ value.form ∈ readForms name := by
  unfold interpret at found
  unfold readForms
  cases isOf : category name <;> simp only [isOf] at found ⊢
  case number =>
    refine mem_of_required found fun value read ↦ ?_
    rcases form_number? read with nothing | number | ⟨point, isScale⟩
    · exact .inl nothing
    · right
      split <;> rw [number] <;> exact List.mem_cons_self
    · right
      rw [if_pos isScale, point]
      exact List.mem_cons_of_mem _ List.mem_cons_self
  case flag | stroke =>
    cases found
    exact .inr (List.mem_singleton.mpr rfl)
  case background =>
    exact mem_of_required found fun value read ↦ .inr (by simpa using form_background? read)
  case overlay =>
    exact mem_of_required found fun value read ↦ .inr (by simpa using form_overlay? read)
  case badge =>
    exact mem_of_required found fun value read ↦ .inr (by simpa using form_badge? read)
  case unknown =>
    cases found
    exact .inl rfl
  all_goals exact mem_of_required found (mem_of_map fun _ ↦ rfl)

theorem interpret_of_unlisted (unlisted : name ∉ knownNames) (arguments : Arguments) :
    interpret name arguments = .ok .none := by
  unfold interpret
  simp only [category_eq_unknown_iff.mpr unlisted]

theorem modifier_of_required {reading : Option (ModifierArguments View)} {expected : Expectation}
    {error : ArgumentError}
    (failed : (match reading with
      | some value => Except.ok value
      | none => Except.error (ArgumentError.mk name expected)) = .error error) :
    error.modifier = name := by
  cases reading with
  | none => cases failed; rfl
  | some value => cases failed

/-- An error names the modifier whose arguments could not be read. -/
theorem modifier_of_interpret {error : ArgumentError}
    (failed : interpret name arguments = .error error) : error.modifier = name := by
  unfold interpret at failed
  cases isOf : category name <;> simp only [isOf] at failed
  case flag | stroke | unknown => cases failed
  all_goals exact modifier_of_required failed

end Call

end ViewPreview
