import ViewPreview.Call.Constructor
import ViewPreview.Proofs.Call.Token
import ViewPreview.Proofs.View.WellFormed

/-!
# Well-Formed Calls

A modifier is complete whatever its arguments are: where they cannot be read, it has none.  The view
that the call of a constructor makes is well-formed when the views it is given are.
-/

namespace ViewPreview.Call

open ViewPreview.Text

/-- Whether the views that a call is given are well-formed. -/
structure Arguments.AreWellFormed (arguments : Arguments) : Prop where
  values : ∀ argument ∈ arguments.values, ∀ view, argument.view = some view → view.WellFormed
  trailing : ∀ view ∈ arguments.trailing, view.WellFormed

/-! ## Modifiers -/

/-- Whether arguments make a complete modifier and carry no view that is not well-formed. -/
def MakesComplete (name : String) (value : ModifierArguments View) : Prop :=
  (⟨name, value⟩ : Modifier View).IsComplete ∧
    ∀ content, value = .content content → content.view.WellFormed

/-- Whether arguments make any modifier complete and carry no view. -/
def isUnconstrained : ModifierArguments View → Bool
  | .none | .flag _ | .number _ | .text _ | .paint _ | .stroke _ | .border _ | .angle _
  | .clipShape _ => true
  | _ => false

theorem makesComplete_of_isUnconstrained {name : String} {value : ModifierArguments View}
    (unconstrained : isUnconstrained value = true) : MakesComplete name value := by
  cases value
  case token | padding | font | frame | point | aspectRatio | shadow | content =>
    cases unconstrained
  all_goals
    refine ⟨trivial, ?_⟩
    rintro content ⟨⟩

theorem makesComplete_content {name : String} {content : Content View}
    (wellFormed : content.view.WellFormed) : MakesComplete name (.content content) := by
  refine ⟨trivial, ?_⟩
  rintro _ ⟨⟩
  exact wellFormed

/-- Whether all that a reading of arguments may give makes a modifier complete. -/
def ReadsComplete (name : String) (reading : Option (ModifierArguments View)) : Prop :=
  ∀ value, reading = some value → MakesComplete name value

section Reading

variable {name : String} {arguments : Arguments}

theorem readsComplete_some {value : ModifierArguments View} (complete : MakesComplete name value) :
    ReadsComplete name (some value) := by
  rintro _ ⟨⟩
  exact complete

theorem readsComplete_map {α : Type} {make : α → ModifierArguments View} {reading : Option α}
    (complete : ∀ found, reading = some found → MakesComplete name (make found)) :
    ReadsComplete name (reading.map make) := by
  intro value read
  obtain ⟨found, reads, rfl⟩ := Option.map_eq_some_iff.mp read
  exact complete found reads

theorem readsComplete_map_of_isUnconstrained {α : Type} {make : α → ModifierArguments View}
    (unconstrained : ∀ found, isUnconstrained (make found) = true) (reading : Option α) :
    ReadsComplete name (reading.map make) :=
  readsComplete_map fun found _ ↦ makesComplete_of_isUnconstrained (unconstrained found)

theorem readsComplete_bind {α : Type} {read : α → Option (ModifierArguments View)}
    {source : Option α} (complete : ∀ found, source = some found → ReadsComplete name (read found)) :
    ReadsComplete name (source.bind read) := by
  intro value reads
  obtain ⟨found, given, reading⟩ := Option.bind_eq_some_iff.mp reads
  exact complete found given value reading

theorem edges_of_padding? {padding : Padding} (found : padding? arguments = some padding) :
    padding.edges ≠ [] := by
  obtain ⟨read, -, rfl⟩ := Option.map_eq_some_iff.mp found
  split
  · exact List.cons_ne_nil _ _
  · next nonempty => exact fun empty ↦ nonempty (List.isEmpty_iff.mpr empty)

theorem isSome_of_frame? {frame : Frame} (found : frame? arguments = some frame) :
    (⟨name, .frame frame⟩ : Modifier View).IsComplete := by
  unfold frame? at found
  dsimp only at found
  split at found
  · next asked =>
    cases found
    simpa [Frame.hasDimensions, Modifier.IsComplete, or_assoc] using asked
  · cases found

theorem isSome_of_somePoint? {x y : Option Float} {point : Point}
    (found : somePoint? x y = some point) : point.x.isSome ∨ point.y.isSome := by
  unfold somePoint? at found
  split at found
  · next asked =>
    cases found
    exact Bool.or_eq_true_iff.mp asked
  · cases found

theorem isSome_of_point? {point : Point} (found : point? arguments = some point) :
    point.x.isSome ∨ point.y.isSome := by
  rcases Option.or_eq_some_iff.mp found with labeled | ⟨-, constructed⟩
  · exact isSome_of_somePoint? labeled
  · obtain ⟨inner, -, sized⟩ := Option.bind_eq_some_iff.mp constructed
    exact isSome_of_somePoint? sized

theorem isSome_of_aspectRatio? {aspect : AspectRatio} (found : aspectRatio? arguments = some aspect) :
    aspect.ratio.isSome ∨ aspect.mode.isSome := by
  unfold aspectRatio? at found
  dsimp only at found
  split at found
  · cases found
  · next asked =>
    rw [← Option.some.inj found]
    rw [Bool.and_eq_true, Classical.not_and_iff_not_or_not] at asked
    simpa [Option.isSome_iff_ne_none] using asked

theorem isSome_of_shadow? {shadow : Shadow} (found : shadow? arguments = some shadow) :
    shadow.radius.isSome := by
  obtain ⟨radius, -, rfl⟩ := Option.map_eq_some_iff.mp found
  rfl

theorem isSome_of_not_isEmpty {font : Font} (nonempty : (!font.isEmpty) = true) :
    (⟨name, .font font⟩ : Modifier View).IsComplete := by
  simpa [Font.isEmpty, Modifier.IsComplete, Option.isSome_iff_ne_none, or_assoc] using nonempty

theorem wellFormed_of_content? {content : Content View} (wellFormed : arguments.AreWellFormed)
    (found : content? arguments = some content) : content.view.WellFormed := by
  obtain ⟨view, carried, rfl⟩ := Option.map_eq_some_iff.mp found
  rcases Option.or_eq_some_iff.mp carried with trailing | ⟨-, first⟩
  · exact View.wellFormed_of_single? (by decide) wellFormed.trailing trailing
  · obtain ⟨argument, member, holds⟩ := List.exists_of_findSome?_eq_some first
    exact wellFormed.values argument member view holds

theorem mem_of_first? {argument : Argument} (found : arguments.first? = some argument) :
    argument ∈ arguments.values := by
  rcases Option.or_eq_some_iff.mp found with unlabeled | ⟨-, first⟩
  · exact (List.mem_filter.mp (List.mem_of_mem_head? unlabeled)).1
  · exact List.mem_of_mem_head? first

theorem readsComplete_number? (name : String) (arguments : Arguments) :
    ReadsComplete name (number? name arguments) := by
  unfold number?
  split
  · exact readsComplete_some (makesComplete_of_isUnconstrained rfl)
  · split
    · next scales =>
      refine readsComplete_some ⟨fun moves ↦ ?_, by rintro _ ⟨⟩⟩
      rw [Bool.and_eq_true, beq_iff_eq] at scales
      change name = "offset" ∨ name = "position" at moves
      rw [scales.1] at moves
      exact absurd moves (by decide)
    · exact readsComplete_map_of_isUnconstrained (fun _ ↦ rfl) _

theorem readsComplete_background? (wellFormed : arguments.AreWellFormed) :
    ReadsComplete name (background? arguments) := by
  unfold background?
  dsimp only
  split
  · next view trailing =>
    apply readsComplete_some
    apply makesComplete_content
    exact View.wellFormed_of_single? (by decide) wellFormed.trailing trailing
  · refine readsComplete_bind fun argument first ↦ ?_
    split
    · exact readsComplete_map_of_isUnconstrained (fun _ ↦ rfl) _
    · split
      · next view holds =>
        apply readsComplete_some
        apply makesComplete_content
        exact wellFormed.values argument (mem_of_first? first) view holds
      · exact readsComplete_map_of_isUnconstrained (fun _ ↦ rfl) _

theorem readsComplete_overlay? (wellFormed : arguments.AreWellFormed) :
    ReadsComplete name (overlay? arguments) := by
  unfold overlay?
  split
  · next content found =>
    apply readsComplete_some
    apply makesComplete_content
    exact wellFormed_of_content? wellFormed found
  · exact readsComplete_map_of_isUnconstrained (fun _ ↦ rfl) _

theorem readsComplete_badge? (arguments : Arguments) :
    ReadsComplete name (badge? arguments) := by
  unfold badge?
  refine readsComplete_bind fun argument _ ↦ ?_
  split
  · exact readsComplete_some (makesComplete_of_isUnconstrained rfl)
  · exact readsComplete_map_of_isUnconstrained (fun _ ↦ rfl) _

theorem makesComplete_of_required {reading : Option (ModifierArguments View)}
    {error : ArgumentError} {value : ModifierArguments View} (complete : ReadsComplete name reading)
    (found : (match reading with
      | some value => Except.ok value
      | none => Except.error error) = .ok value) :
    MakesComplete name value := by
  split at found
  · cases found
    exact complete _ rfl
  · cases found

/-- What the arguments of a modifier mean makes it complete, in each category. -/
theorem makesComplete_of_interpret {value : ModifierArguments View}
    (wellFormed : arguments.AreWellFormed) (found : interpret name arguments = .ok value) :
    MakesComplete name value := by
  have named {token : String} (isToken : value = .token token) :
      isIdentifier token.toList = true := by
    rw [isToken] at found
    exact isIdentifier_of_interpret found
  unfold interpret at found
  dsimp only at found
  split at found
  case h_2 =>
    split at found
    · next value reading =>
      cases found
      obtain ⟨token, -, rfl⟩ := Option.map_eq_some_iff.mp reading
      refine ⟨named rfl, ?_⟩
      rintro _ ⟨⟩
    · cases found
  case h_3 => exact makesComplete_of_required (readsComplete_number? name arguments) found
  case h_5 | h_10 | h_20 =>
    cases found
    exact makesComplete_of_isUnconstrained rfl
  case h_6 =>
    refine makesComplete_of_required (readsComplete_map fun padding read ↦ ?_) found
    exact ⟨edges_of_padding? read, by rintro _ ⟨⟩⟩
  case h_7 => exact makesComplete_of_required (readsComplete_background? wellFormed) found
  case h_8 => exact makesComplete_of_required (readsComplete_overlay? wellFormed) found
  case h_9 =>
    refine makesComplete_of_required (readsComplete_map fun content read ↦ ?_) found
    exact makesComplete_content (wellFormed_of_content? wellFormed read)
  case h_12 =>
    refine makesComplete_of_required (readsComplete_map fun font read ↦ ?_) found
    exact ⟨isSome_of_not_isEmpty (Option.filter_eq_some_iff.mp read).2, by rintro _ ⟨⟩⟩
  case h_13 =>
    refine makesComplete_of_required (readsComplete_map fun frame read ↦ ?_) found
    exact ⟨isSome_of_frame? read, by rintro _ ⟨⟩⟩
  case h_14 =>
    refine makesComplete_of_required (readsComplete_map fun point read ↦ ?_) found
    exact ⟨fun _ ↦ isSome_of_point? read, by rintro _ ⟨⟩⟩
  case h_15 =>
    refine makesComplete_of_required (readsComplete_map fun aspect read ↦ ?_) found
    exact ⟨isSome_of_aspectRatio? read, by rintro _ ⟨⟩⟩
  case h_17 =>
    refine makesComplete_of_required (readsComplete_map fun shadow read ↦ ?_) found
    exact ⟨isSome_of_shadow? read, by rintro _ ⟨⟩⟩
  case h_19 => exact makesComplete_of_required (readsComplete_badge? arguments) found
  -- What is left is read with one constructor that asks for nothing.
  all_goals
    exact makesComplete_of_required (readsComplete_map_of_isUnconstrained (fun _ ↦ rfl) _) found

end Reading

/-- A modifier is complete whatever its arguments are. -/
theorem isComplete_modifierOf {arguments : Arguments} (wellFormed : arguments.AreWellFormed)
    (name : String) :
    (modifierOf name arguments).1.IsComplete ∧
      ∀ content, (modifierOf name arguments).1.arguments = .content content →
        content.view.WellFormed := by
  unfold modifierOf
  split
  · next value found => exact makesComplete_of_interpret wellFormed found
  · exact @makesComplete_of_isUnconstrained name .none rfl

/-! ## Properties -/

/-- Whether a property is one that any view may have: it is neither for repetitions nor for
placeholders, its tokens are identifiers, and its views come from arguments. -/
def IsPlain (arguments : Arguments) (property : OptionalProperty) : Prop :=
  property.1 ∉ "placeholder" :: View.repetitionKeys ∧
    (∀ token, property.2 = some (.token token) → isIdentifier token.toList = true) ∧
    ∀ view, property.2 = some (.view view) →
      ∃ argument ∈ arguments.values, argument.view = some view

section Properties

variable {arguments : Arguments} {key : String}

/-- A property that is neither a token nor a view is plain when its key is. -/
theorem isPlain_map {α : Type} {make : α → PropertyValue View} {value : Option α}
    (unreserved : key ∉ "placeholder" :: View.repetitionKeys)
    (noToken : ∀ found token, make found ≠ .token token)
    (noView : ∀ found view, make found ≠ .view view) :
    IsPlain arguments (key, value.map make) := by
  refine ⟨unreserved, fun token same ↦ ?_, fun view same ↦ ?_⟩
  · obtain ⟨found, -, made⟩ := Option.map_eq_some_iff.mp same
    exact absurd made (noToken found token)
  · obtain ⟨found, -, made⟩ := Option.map_eq_some_iff.mp same
    exact absurd made (noView found view)

theorem isPlain_numberEntry (unreserved : key ∉ "placeholder" :: View.repetitionKeys)
    (value : Option Float) : IsPlain arguments (numberEntry key value) :=
  isPlain_map unreserved (by rintro _ _ ⟨⟩) (by rintro _ _ ⟨⟩)

theorem isPlain_textEntry (unreserved : key ∉ "placeholder" :: View.repetitionKeys)
    (value : Option String) : IsPlain arguments (textEntry key value) :=
  isPlain_map unreserved (by rintro _ _ ⟨⟩) (by rintro _ _ ⟨⟩)

theorem isPlain_tokenEntry (unreserved : key ∉ "placeholder" :: View.repetitionKeys)
    {source : Option Argument} :
    IsPlain arguments (tokenEntry key (source.bind fun argument ↦ token? argument.text)) := by
  refine ⟨unreserved, fun token same ↦ ?_, fun view same ↦ ?_⟩
  · obtain ⟨found, named, made⟩ := Option.map_eq_some_iff.mp same
    obtain ⟨argument, -, reads⟩ := Option.bind_eq_some_iff.mp named
    rw [← PropertyValue.token.inj made]
    exact isIdentifier_of_token? reads
  · obtain ⟨found, -, made⟩ := Option.map_eq_some_iff.mp same
    cases made

theorem isPlain_imageSource (arguments : Arguments) : IsPlain arguments (imageSource arguments) := by
  unfold imageSource
  split
  · next symbol _ => exact isPlain_textEntry (by decide) (some symbol)
  · exact isPlain_textEntry (by decide) (some _)

theorem isPlain_destination (arguments : Arguments) :
    IsPlain arguments
      ("destination", ((arguments.labeled? "destination").bind Argument.view).map .view) := by
  have unreserved : "destination" ∉ "placeholder" :: View.repetitionKeys := by decide
  refine ⟨unreserved, fun token same ↦ ?_, fun view same ↦ ?_⟩
  · obtain ⟨found, -, made⟩ := Option.map_eq_some_iff.mp same
    cases made
  · obtain ⟨found, given, made⟩ := Option.map_eq_some_iff.mp same
    obtain ⟨argument, labeled, carries⟩ := Option.bind_eq_some_iff.mp given
    rw [← PropertyValue.view.inj made]
    exact ⟨argument, List.mem_of_find?_eq_some labeled, carries⟩

theorem isPlain_levelProperties (arguments : Arguments) :
    ∀ property ∈ levelProperties arguments, IsPlain arguments property := by
  unfold levelProperties
  rw [List.forall_mem_cons, List.forall_mem_cons, List.forall_mem_singleton]
  refine ⟨isPlain_numberEntry (by decide) _, isPlain_numberEntry (by decide) _, ?_⟩
  exact isPlain_map (by decide) (by rintro _ _ ⟨⟩) (by rintro _ _ ⟨⟩)

theorem isPlain_gradientColors (arguments : Arguments) :
    IsPlain arguments (gradientColors arguments) :=
  isPlain_map (by decide) (by rintro _ _ ⟨⟩) (by rintro _ _ ⟨⟩)

/-- The arguments of a constructor that repeats nothing set plain properties. -/
theorem isPlain_argumentProperties {kind : Kind} (once : kind ≠ .forEach) :
    ∀ property ∈ argumentProperties kind arguments, IsPlain arguments property := by
  have title : IsPlain arguments (textEntry "title" arguments.firstString?) :=
    isPlain_textEntry (by decide) _
  have nothing : ∀ property ∈ ([] : List OptionalProperty), IsPlain arguments property :=
    fun _ member ↦ absurd member List.not_mem_nil
  have with_ {first : OptionalProperty} {others : List OptionalProperty}
      (isPlain : IsPlain arguments first)
      (behind : ∀ property ∈ others, IsPlain arguments property) :
      ∀ property ∈ first :: others, IsPlain arguments property :=
    List.forall_mem_cons.mpr ⟨isPlain, behind⟩
  cases kind
  case text => exact with_ (isPlain_textEntry (by decide) _) nothing
  case image => exact with_ (isPlain_imageSource arguments) nothing
  case label => exact with_ title (with_ (isPlain_textEntry (by decide) _) nothing)
  case vStack | hStack | zStack | lazyVStack | lazyHStack | grid =>
    exact with_ (isPlain_numberEntry (by decide) _)
      (with_ (isPlain_tokenEntry (by decide)) nothing)
  case scrollView => exact with_ (isPlain_tokenEntry (by decide)) nothing
  case listSection =>
    exact with_ title
      (with_ (isPlain_textEntry (by decide) _) (with_ (isPlain_textEntry (by decide) _) nothing))
  case roundedRectangle | spacer => exact with_ (isPlain_numberEntry (by decide) _) nothing
  case linearGradient | radialGradient =>
    exact with_ (isPlain_gradientColors arguments)
      (with_ (isPlain_tokenEntry (by decide)) (with_ (isPlain_tokenEntry (by decide)) nothing))
  case asyncImage | textEditor => exact with_ (isPlain_textEntry (by decide) _) nothing
  case forEach => exact absurd rfl once
  case button | picker | menu | disclosureGroup | stepper | datePicker | colorPicker =>
    exact with_ title nothing
  case textField | secureField | link =>
    exact with_ title (with_ (isPlain_textEntry (by decide) _) nothing)
  case toggle =>
    exact with_ title
      (with_ (isPlain_map (by decide) (by rintro _ _ ⟨⟩) (by rintro _ _ ⟨⟩)) nothing)
  case slider => exact isPlain_levelProperties arguments
  case progressView => exact with_ title (isPlain_levelProperties arguments)
  case navigationLink => exact with_ title (with_ (isPlain_destination arguments) nothing)
  -- The other kinds read no arguments.
  all_goals exact nothing

/-- What a repetition runs over is a range or a list under a key of its own. -/
theorem shape_of_rowSource {value : PropertyValue View}
    (found : rowSource arguments = (key, some value)) :
    (key = "forEachRange" ∧ ∃ range, value = .range range) ∨
      (key = "forEachItems" ∧ ∃ items, value = .list items) := by
  unfold rowSource at found
  split at found
  · cases found
  · split at found
    · cases found
      exact .inl ⟨rfl, _, rfl⟩
    · split at found
      · cases found
        exact .inr ⟨rfl, _, rfl⟩
      · cases found
        exact .inr ⟨rfl, _, rfl⟩

end Properties

/-! ## Closures -/

/-- The property that the views of a closure are put under, if there is one. -/
def Closure.key? (kind : Kind) (closure : Closure) : Option String :=
  match closure.role with
  | .rowTemplate => some "rowTemplate"
  | .destination => some "destination"
  | .label => labelKey? kind closure.label
  | .content | .ignore => none

/-- Where a property of the view that a constructor makes comes from. -/
inductive SetBy (kind : Kind) (arguments : Arguments) (closures : List Closure) :
    String × PropertyValue View → Prop
  | argument {key : String} {value : PropertyValue View}
      (member : (key, some value) ∈ argumentProperties kind arguments) :
      SetBy kind arguments closures (key, value)
  | parameter (name : String) : SetBy kind arguments closures ("rowVariable", .text name)
  | closure {closure : Closure} {key : String} {view : View} (member : closure ∈ closures)
      (found : closure.key? kind = some key)
      (single : View.single? .group closure.views = some view) :
      SetBy kind arguments closures (key, .view view)

/-- Whether a view has been made by a constructor from nothing but its arguments and closures. -/
structure IsMadeOf (kind : Kind) (arguments : Arguments) (closures : List Closure) (view : View) :
    Prop where
  kind_eq : view.kind = kind
  modifiers_eq : view.modifiers = []
  setBy : ∀ entry ∈ view.properties, SetBy kind arguments closures entry
  ofClosures : ∀ child ∈ view.children, ∃ closure ∈ closures,
    child ∈ closure.views ∨ child = View.around .group closure.views

namespace IsMadeOf

variable {kind : Kind} {arguments : Arguments} {closures : List Closure} {view : View}

theorem ofKind : IsMadeOf kind arguments closures (View.ofKind kind) where
  kind_eq := rfl
  modifiers_eq := rfl
  setBy _ member := absurd member List.not_mem_nil
  ofClosures _ member := absurd member List.not_mem_nil

theorem set? {key : String} {value : Option (PropertyValue View)}
    (made : IsMadeOf kind arguments closures view)
    (setBy : ∀ given, value = some given → SetBy kind arguments closures (key, given)) :
    IsMadeOf kind arguments closures (view.set? key value) := by
  cases value with
  | none => exact made
  | some given =>
    exact
      { kind_eq := made.kind_eq
        modifiers_eq := made.modifiers_eq
        setBy := fun entry member ↦ by
          rcases of_mem_setEntry member with rfl | before
          · exact setBy given rfl
          · exact made.setBy entry before
        ofClosures := made.ofClosures }

theorem addChildren {children : List View} {closure : Closure}
    (made : IsMadeOf kind arguments closures view) (member : closure ∈ closures)
    (ofClosure : ∀ child ∈ children,
      child ∈ closure.views ∨ child = View.around .group closure.views) :
    IsMadeOf kind arguments closures (view.addChildren children) where
  kind_eq := made.kind_eq
  modifiers_eq := made.modifiers_eq
  setBy := made.setBy
  ofClosures child inside := by
    rcases List.mem_append.mp inside with before | added
    · exact made.ofClosures child before
    · exact ⟨closure, member, ofClosure child added⟩

theorem setProperties {properties : List OptionalProperty}
    (made : IsMadeOf kind arguments closures view)
    (setBy : ∀ property ∈ properties, ∀ value, property.2 = some value →
      SetBy kind arguments closures (property.1, value)) :
    IsMadeOf kind arguments closures (setProperties view properties) :=
  List.foldlRecOn properties _ made fun _ made property member ↦ made.set? (setBy property member)

theorem setViews {key : String} {closure : Closure}
    (made : IsMadeOf kind arguments closures view) (member : closure ∈ closures)
    (found : closure.key? kind = some key) :
    IsMadeOf kind arguments closures (setViews view key closure.views) := by
  refine made.set? fun value given ↦ ?_
  obtain ⟨inner, single, rfl⟩ := Option.map_eq_some_iff.mp given
  exact .closure member found single

/-- Attaching one of the closures adds nothing else. -/
theorem attach {closure : Closure} (made : IsMadeOf kind arguments closures view)
    (member : closure ∈ closures) :
    IsMadeOf kind arguments closures (attach view closure) := by
  have added : IsMadeOf kind arguments closures (view.addChildren closure.views) :=
    made.addChildren member fun _ inside ↦ .inl inside
  unfold Call.attach
  split
  · exact made
  · split
    · refine made.addChildren member fun child inside ↦ .inr ?_
      exact List.mem_singleton.mp inside
    · exact added
  · next role =>
    refine setViews ?_ member (by rw [Closure.key?, role])
    refine made.set? fun value given ↦ ?_
    obtain ⟨name, -, rfl⟩ := Option.map_eq_some_iff.mp given
    exact .parameter name
  · next role => exact made.setViews member (by rw [Closure.key?, role])
  · next role =>
    split
    · next key found =>
      refine made.setViews member ?_
      rw [Closure.key?, role]
      rw [made.kind_eq] at found
      exact found
    · exact added

theorem build (kind : Kind) (arguments : Arguments) (closures : List Closure) :
    IsMadeOf kind arguments closures (build kind arguments closures) := by
  have ofArguments : IsMadeOf kind arguments closures
      (Call.setProperties (View.ofKind kind) (argumentProperties kind arguments)) := by
    refine setProperties .ofKind fun property member value given ↦ .argument ?_
    rw [← given]
    exact member
  exact List.foldlRecOn closures _ ofArguments fun _ made closure member ↦ made.attach member

end IsMadeOf

/-! ## Views of constructors -/

/-- Whether closures have well-formed views, and only those of a repetition are templates of rows. -/
structure AreAttachable (kind : Kind) (closures : List Closure) : Prop where
  views : ∀ closure ∈ closures, ∀ view ∈ closure.views, view.WellFormed
  repeats : ∀ closure ∈ closures, closure.role = .rowTemplate → kind = .forEach

/-- What holds of the key and the value of a property of a well-formed view. -/
structure IsSoundEntry (kind : Kind) (arguments : Arguments) (key : String)
    (value : PropertyValue View) : Prop where
  noPlaceholder : key ≠ "placeholder"
  repeats : key ∈ View.repetitionKeys → kind = .forEach
  source : key = "forEachRange" ∨ key = "forEachItems" → rowSource arguments = (key, some value)
  token : ∀ token, value = .token token → isIdentifier token.toList = true
  view : ∀ view, value = .view view → view.WellFormed

section Build

variable {kind : Kind} {arguments : Arguments} {closures : List Closure} {key : String}
  {value : PropertyValue View}

theorem mem_of_labelKey? {label : Option String} (found : labelKey? kind label = some key) :
    key ∈ ["header", "footer", "icon", "label"] := by
  unfold labelKey? at found
  split at found
  · cases found
    decide
  · cases found
    decide
  · cases found
    decide
  · split at found
    case h_5 => cases found
    all_goals
      cases found
      decide

/-- Only row templates are put under a key for repetitions. -/
theorem key?_cases {closure : Closure} (found : closure.key? kind = some key) :
    (closure.role = .rowTemplate ∧ key = "rowTemplate") ∨
      key ∉ "placeholder" :: View.repetitionKeys := by
  have unreserved : ∀ key ∈ ["header", "footer", "icon", "label"],
      key ∉ "placeholder" :: View.repetitionKeys := by decide
  unfold Closure.key? at found
  split at found
  · next role =>
    cases found
    exact .inl ⟨role, rfl⟩
  · cases found
    exact .inr (by decide)
  · exact .inr (unreserved key (mem_of_labelKey? found))
  · cases found
  · cases found

theorem isSoundEntry_of_unreserved (unreserved : key ∉ "placeholder" :: View.repetitionKeys)
    (token : ∀ token, value = .token token → isIdentifier token.toList = true)
    (view : ∀ view, value = .view view → view.WellFormed) :
    IsSoundEntry kind arguments key value where
  noPlaceholder same := unreserved (by rw [same]; exact List.mem_cons_self)
  repeats reserved := absurd (List.mem_cons_of_mem _ reserved) unreserved
  source same := by
    rcases same with rfl | rfl
    · exact absurd (by decide) unreserved
    · exact absurd (by decide) unreserved
  token := token
  view := view

theorem isSoundEntry_of_setBy (given : arguments.AreWellFormed)
    (attachable : AreAttachable kind closures)
    (setBy : SetBy kind arguments closures (key, value)) : IsSoundEntry kind arguments key value := by
  cases setBy with
  | argument member =>
    by_cases repeats : kind = .forEach
    · rw [repeats] at member
      have source : rowSource arguments = (key, some value) := (List.mem_singleton.mp member).symm
      rcases shape_of_rowSource source with ⟨rfl, range, rfl⟩ | ⟨rfl, items, rfl⟩
      · exact ⟨by decide, fun _ ↦ repeats, fun _ ↦ source, by rintro _ ⟨⟩, by rintro _ ⟨⟩⟩
      · exact ⟨by decide, fun _ ↦ repeats, fun _ ↦ source, by rintro _ ⟨⟩, by rintro _ ⟨⟩⟩
    · obtain ⟨unreserved, token, view⟩ := isPlain_argumentProperties repeats _ member
      refine isSoundEntry_of_unreserved unreserved
        (fun name same ↦ token name (congrArg some same)) fun inner same ↦ ?_
      obtain ⟨argument, inside, carries⟩ := view inner (congrArg some same)
      exact given.values argument inside inner carries
  | parameter name =>
    exact isSoundEntry_of_unreserved (by decide) (by rintro _ ⟨⟩) (by rintro _ ⟨⟩)
  | @closure closure key view member found single =>
    have wellFormed : view.WellFormed :=
      View.wellFormed_of_single? (by decide) (attachable.views closure member) single
    have inside : ∀ inner, PropertyValue.view view = .view inner → inner.WellFormed := by
      rintro _ ⟨⟩
      exact wellFormed
    rcases key?_cases found with ⟨role, rfl⟩ | unreserved
    · exact
        { noPlaceholder := by decide
          repeats := fun _ ↦ attachable.repeats closure member role
          source := fun same ↦ absurd same (by decide)
          token := by rintro _ ⟨⟩
          view := inside }
    · exact isSoundEntry_of_unreserved unreserved (by rintro _ ⟨⟩) inside

/-- The view that a constructor makes of well-formed views is well-formed. -/
theorem wellFormed_build (isShown : kind ≠ .custom) (given : arguments.AreWellFormed)
    (attachable : AreAttachable kind closures) : (build kind arguments closures).WellFormed := by
  have made := IsMadeOf.build kind arguments closures
  have sound {key : String} {value : PropertyValue View}
      (member : (key, value) ∈ (build kind arguments closures).properties) :
      IsSoundEntry kind arguments key value :=
    isSoundEntry_of_setBy given attachable (made.setBy _ member)
  have unmodified {modifier : Modifier View} :
      modifier ∉ (build kind arguments closures).modifiers := by
    rw [made.modifiers_eq]
    exact List.not_mem_nil
  apply View.WellFormed.intro
  · constructor
    · rw [made.kind_eq]
      exact isShown
    · intro entry member reserved
      rw [made.kind_eq]
      exact (sound member).repeats reserved
    · rintro first firstMember second secondMember ⟨isRange, areItems⟩
      have range := (sound firstMember).source (.inl isRange)
      have items := (sound secondMember).source (.inr areItems)
      have sameKey := (Prod.mk.inj (range.symm.trans items)).1
      rw [isRange, areItems] at sameKey
      exact absurd sameKey (by decide)
    · exact fun value member ↦ absurd rfl (sound member).noPlaceholder
    · exact fun key token member ↦ (sound member).token token rfl
    · exact fun modifier member ↦ absurd member unmodified
  · intro child member
    obtain ⟨closure, inside, own | grouped⟩ := made.ofClosures child member
    · exact attachable.views closure inside child own
    · rw [grouped]
      exact View.wellFormed_around (by decide) (attachable.views closure inside)
  · exact fun key inner member ↦ (sound member).view inner rfl
  · exact fun modifier member ↦ absurd member unmodified

end Build

/-- A closure is a template of rows only where its view is repeated. -/
theorem repeats_of_closureRole {kind : Kind} {arguments : Arguments} {label : Option String}
    {hasLabelClosure : Bool}
    (template : closureRole kind arguments label hasLabelClosure = .rowTemplate) :
    kind = .forEach := by
  unfold closureRole at template
  split at template
  · unfold labeledRole at template
    split at template
    all_goals cases template
  · cases kind
    case forEach => rfl
    case button =>
      unfold unlabeledRole at template
      dsimp only at template
      split at template
      all_goals cases template
    case navigationLink =>
      unfold unlabeledRole at template
      dsimp only at template
      split at template
      all_goals cases template
    all_goals cases template

end ViewPreview.Call
