import ViewPreview.Proofs.Render.Disregarded

/-!
# Arguments That Are Shown

Reading and rendering agree about the arguments of modifiers.  A form of arguments is shown for a
name if some arguments of that form change the page of some view.  Every name that has such a form
is read with one of them, or without arguments, and the names that have none are those whose
arguments are not read or are disregarded.
-/

namespace ViewPreview

open ViewPreview.Render (render viewNode)

/-- A view inside of containers, each the only child of the one before it. -/
def View.enclose (containers : List Kind) (view : View) : View :=
  containers.foldr (fun container inner ↦ .around container [inner]) view

/-- Whether a form of arguments is shown for the modifiers with a name: some arguments of that form
change the page of some view, possibly through the containers around it. -/
def IsShown (name : String) (form : Form) : Prop :=
  ∃ arguments : ModifierArguments View, arguments.form = form ∧
    ∃ (options : RenderOptions) (containers : List Kind) (view : View),
      render options ((view.addModifier ⟨name, arguments⟩).enclose containers) ≠
        render options ((view.addModifier (.bare name)).enclose containers)

/-! ## Arguments that are not shown -/

theorem View.disregard_enclose (containers : List Kind) (view : View) :
    (view.enclose containers).disregard = view.disregard.enclose containers := by
  induction containers with
  | nil => rfl
  | cons container containers ih =>
    rw [enclose, enclose, List.foldr_cons, List.foldr_cons, ← enclose, ← enclose, ← ih]
    rfl

theorem View.disregard_addModifier {name : String} (disregarded : IsDisregarded name)
    (arguments : ModifierArguments View) (view : View) :
    (view.addModifier ⟨name, arguments⟩).disregard = (view.addModifier (.bare name)).disregard := by
  have same : Modifier.disregard ⟨name, arguments⟩ = Modifier.disregard (.bare name) := by
    exact (if_pos disregarded).trans (if_pos disregarded).symm
  cases view
  simp only [addModifier, disregard, List.map_append, List.map_singleton, same]

theorem not_isShown_of_isDisregarded {name : String} (disregarded : IsDisregarded name)
    (form : Form) : ¬IsShown name form := by
  rintro ⟨arguments, -, options, containers, view, differs⟩
  apply differs
  calc
    _ = (viewNode options
        ((view.addModifier ⟨name, arguments⟩).enclose containers).disregard).write := by
      rw [Render.viewNode_disregard, render]
    _ = (viewNode options
        ((view.addModifier (.bare name)).enclose containers).disregard).write := by
      rw [View.disregard_enclose, View.disregard_addModifier disregarded, ← View.disregard_enclose]
    _ = _ := by rw [Render.viewNode_disregard, render]

/-! ## Arguments that are shown -/

/-- A modifier, and where its arguments can be seen. -/
structure Sample where
  modifier : Modifier View
  view : View := .ofKind .divider
  containers : List Kind := []

/-- The page of a sample with another modifier in the place of its own. -/
def Sample.page (sample : Sample) (modifier : Modifier View) : String :=
  render {} ((sample.view.addModifier modifier).enclose sample.containers)

/-- A sample for each form of arguments that is shown for a name. -/
def samples : List Sample :=
  let line : View := .ofKind .divider
  let red : Paint := .color "red" none
  let onLine (modifier : Modifier View) : Sample := ⟨modifier, line, []⟩
  let paints := ["foregroundColor", "foregroundStyle", "tint", "accentColor", "fill", "background",
    "overlay"]
  let numbers := ["cornerRadius", "opacity", "lineLimit", "kerning", "tracking", "lineSpacing",
    "brightness", "contrast", "saturation", "grayscale", "scaleEffect", "zIndex", "layoutPriority",
    "blur", "badge"]
  let texts := ["accessibilityLabel", "accessibilityHint", "accessibilityValue", "help", "badge"]
  let switches := ["bold", "italic", "underline", "strikethrough", "clipped", "disabled", "hidden",
    "fixedSize", "monospaced"]
  let titled := line.addModifier ⟨"navigationTitle", .text "Title"⟩
  paints.map (fun name ↦ onLine ⟨name, .paint red⟩) ++
  numbers.map (fun name ↦ onLine ⟨name, .number 2.0⟩) ++
  texts.map (fun name ↦ onLine ⟨name, .text "Text"⟩) ++
  switches.map (fun name ↦ onLine ⟨name, .flag false⟩) ++
  ["fontWeight", "multilineTextAlignment", "textCase"].map
    (fun name ↦ onLine ⟨name, .token "bold"⟩) ++
  ["background", "overlay"].map (fun name ↦ onLine ⟨name, .content ⟨line, none⟩⟩) ++
  ["stroke", "strokeBorder"].map (fun name ↦ onLine ⟨name, .stroke ⟨none, none⟩⟩) ++
  ["offset", "position", "scaleEffect"].map (fun name ↦ onLine ⟨name, .point ⟨none, none⟩⟩) ++
  ["rotationEffect", "hueRotation"].map (fun name ↦ onLine ⟨name, .angle (.degrees 2.0)⟩) ++
  [onLine ⟨"padding", .padding ⟨[.all], none⟩⟩,
    onLine ⟨"border", .border ⟨none, none⟩⟩,
    onLine ⟨"font", .font { weight := some "bold" }⟩,
    onLine ⟨"frame", .frame ⟨some .infinity, none, none, none, none, none, none⟩⟩,
    onLine ⟨"aspectRatio", .aspectRatio ⟨none, some "fit"⟩⟩,
    onLine ⟨"shadow", .shadow ⟨none, none, none, none⟩⟩,
    onLine ⟨"clipShape", .clipShape ⟨"Circle", none⟩⟩,
    onLine ⟨"searchable", .flag true⟩,
    ⟨⟨"textFieldStyle", .token "plain"⟩, .ofKind .textField, []⟩,
    ⟨⟨"buttonStyle", .token "plain"⟩, .ofKind .button, []⟩,
    ⟨⟨"listStyle", .token "plain"⟩, .ofKind .list, []⟩,
    ⟨⟨"pickerStyle", .token "segmented"⟩, .ofKind .picker, []⟩,
    ⟨⟨"navigationTitle", .text "Title"⟩, line, [.navigationStack]⟩,
    ⟨⟨"navigationBarTitleDisplayMode", .token "inline"⟩, titled, [.navigationStack]⟩,
    ⟨⟨"tabItem", .content ⟨line, none⟩⟩, line, [.tabView]⟩]

theorem samples_differ : ∀ sample ∈ samples,
    sample.page sample.modifier ≠ sample.page (.bare sample.modifier.name) := by
  decide +kernel

/-- The samples cover every form that the arguments of a regarded modifier can be read as. -/
theorem exists_sample : ∀ name ∈ Call.knownNames, name ∉ disregardedNames →
    ∀ form ∈ Call.readForms name, ∃ sample ∈ samples,
      sample.modifier.name = name ∧ sample.modifier.arguments.form = form := by
  decide +kernel

theorem isShown_of_mem_readForms {name : String} {form : Form} (regarded : ¬IsDisregarded name)
    (isRead : form ∈ Call.readForms name) : IsShown name form := by
  obtain ⟨known, unlisted⟩ := not_isDisregarded_iff.mp regarded
  obtain ⟨sample, isSample, rfl, formed⟩ := exists_sample name known unlisted form isRead
  exact ⟨sample.modifier.arguments, formed, {}, sample.containers, sample.view,
    samples_differ sample isSample⟩

/-! ## Agreement -/

/-- Rendering looks at the arguments of those modifiers whose arguments are read, but for some whose
arguments it disregards. -/
theorem exists_isShown_iff (name : String) :
    (∃ form, IsShown name form) ↔ name ∈ Call.knownNames ∧ name ∉ disregardedNames := by
  constructor
  · rintro ⟨form, shown⟩
    have regarded : ¬IsDisregarded name := fun disregarded ↦
      not_isShown_of_isDisregarded disregarded form shown
    exact not_isDisregarded_iff.mp regarded
  · intro shown
    have readable : ∀ name ∈ Call.knownNames, Call.readForms name ≠ [] := by decide +kernel
    obtain ⟨form, isRead⟩ := List.exists_mem_of_ne_nil _ (readable name shown.1)
    exact ⟨form, isShown_of_mem_readForms (not_isDisregarded_iff.mpr shown) isRead⟩

/-- The arguments of a modifier that rendering looks at are read as nothing or with a form that it
shows.  A name whose arguments are not read is no error, and every error names its modifier. -/
theorem Call.interpret_agrees (name : String) (arguments : Arguments) :
    ((∃ form, IsShown name form) → ∀ value, interpret name arguments = .ok value →
      value = .none ∨ IsShown name value.form) ∧
    (name ∉ knownNames → interpret name arguments = .ok .none) ∧
    ∀ error, interpret name arguments = .error error → error.modifier = name := by
  refine ⟨?_, fun unlisted ↦ interpret_of_unlisted unlisted arguments,
    fun _ ↦ modifier_of_interpret⟩
  rintro ⟨form, shown⟩ value found
  have regarded : ¬IsDisregarded name := fun disregarded ↦
    not_isShown_of_isDisregarded disregarded form shown
  rcases form_mem_readForms found with nothing | isRead
  · exact .inl nothing
  · exact .inr (isShown_of_mem_readForms regarded isRead)

/-- A badge with a text, which is read with one of the two forms that are shown for it. -/
theorem Call.interpret_agrees_badge :
    (∃ form, IsShown "badge" form) ∧
      interpret "badge" ⟨[⟨none, "\"New\"".toList, none⟩], []⟩ = .ok (.text "New") ∧
      IsShown "badge" .text := by
  have shown : ∃ form, IsShown "badge" form := (exists_isShown_iff "badge").mpr (by decide)
  have found : interpret "badge" ⟨[⟨none, "\"New\"".toList, none⟩], []⟩ = .ok (.text "New") := by
    rfl
  refine ⟨shown, found, ?_⟩
  rcases (interpret_agrees "badge" _).1 shown _ found with nothing | isShown
  · cases nothing
  · exact isShown

end ViewPreview
