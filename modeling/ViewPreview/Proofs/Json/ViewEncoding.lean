import ViewPreview.Preview
import ViewPreview.Proofs.Call.Form
import ViewPreview.Proofs.Json.Text

/-!
# What Encoded Views Determine

An encoding that tells numbers apart tells views apart, with everything inside them.  Every form is
known by its tag, every member by its place, and what is absent by `null`, which nothing else is
encoded as.
-/

namespace ViewPreview

/-! ## Numbers in views -/

/-- The numbers in a paint. -/
def Paint.numbers : Paint → List Float
  | .color _ opacity => opacity.toList
  | _ => []

/-- The numbers in a paint, if there is one. -/
def paintNumbers (paint : Option Paint) : List Float :=
  paint.toList.flatMap Paint.numbers

/-- The numbers in a stroke. -/
def Stroke.numbers (stroke : Stroke) : List Float :=
  paintNumbers stroke.paint ++ stroke.width.toList

/-- The numbers in a dimension, if there is one. -/
def dimensionNumbers : Option Dimension → List Float
  | some (.fixed length) => [length]
  | _ => []

/-- The numbers in a frame. -/
def Frame.numbers (frame : Frame) : List Float :=
  dimensionNumbers frame.width ++ dimensionNumbers frame.height ++
    dimensionNumbers frame.minWidth ++ dimensionNumbers frame.maxWidth ++
    dimensionNumbers frame.minHeight ++ dimensionNumbers frame.maxHeight

/-- The number in an angle. -/
def Angle.number : Angle → Float
  | .degrees value => value
  | .radians value => value

/-- The numbers in a shadow. -/
def Shadow.numbers (shadow : Shadow) : List Float :=
  paintNumbers shadow.color ++ shadow.radius.toList ++ shadow.x.toList ++ shadow.y.toList

mutual

/-- The numbers in a view and in all views inside it. -/
def View.numbers : View → List Float
  | ⟨_, properties, modifiers, children⟩ =>
    propertiesNumbers properties ++ modifiersNumbers modifiers ++ viewsNumbers children

/-- The numbers in the views of a list. -/
def viewsNumbers : List View → List Float
  | [] => []
  | view :: views => view.numbers ++ viewsNumbers views

/-- The numbers in properties. -/
def propertiesNumbers : List (String × PropertyValue View) → List Float
  | [] => []
  | property :: properties => propertyNumbers property ++ propertiesNumbers properties

/-- The numbers in a property. -/
def propertyNumbers : String × PropertyValue View → List Float
  | (_, value) => valueNumbers value

/-- The numbers in the value of a property. -/
def valueNumbers : PropertyValue View → List Float
  | .number value => [value]
  | .view value => value.numbers
  | _ => []

/-- The numbers in the modifiers of a chain. -/
def modifiersNumbers : List (Modifier View) → List Float
  | [] => []
  | modifier :: modifiers => modifierNumbers modifier ++ modifiersNumbers modifiers

/-- The numbers in a modifier. -/
def modifierNumbers : Modifier View → List Float
  | ⟨_, arguments⟩ => argumentsNumbers arguments

/-- The numbers in the arguments of a modifier. -/
def argumentsNumbers : ModifierArguments View → List Float
  | .number value => [value]
  | .padding value => value.amount.toList
  | .paint value => value.numbers
  | .stroke value => value.numbers
  | .border value => value.numbers
  | .font value => value.size.toList
  | .frame value => value.numbers
  | .point value => value.x.toList ++ value.y.toList
  | .aspectRatio value => value.ratio.toList
  | .angle value => [value.number]
  | .shadow value => value.numbers
  | .clipShape value => value.cornerRadius.toList
  | .content value => contentNumbers value
  | _ => []

/-- The numbers in the view that a modifier carries. -/
def contentNumbers : Content View → List Float
  | ⟨view, _⟩ => view.numbers

end

namespace NumberEncoding

/-- Whether an encoding tells the numbers of a class and all integers apart, writes them like
numbers, and takes none of them for absent. -/
structure IsFaithful (encoding : NumberEncoding) (holds : Float → Prop) : Prop where
  number : ∀ {x y : Float}, holds x → holds y → encoding.number x = encoding.number y → x = y
  present : ∀ {x : Float}, holds x → encoding.number x ≠ .null
  written : ∀ {x : Float}, holds x → (encoding.number x).HasNumerals
  integer : ∀ {m n : Int}, encoding.integer m = encoding.integer n → m = n
  writtenInteger : ∀ n : Int, (encoding.integer n).HasNumerals

/-! ## Parts without views -/

theorem optionalString_inj {first second : Option String}
    (same : Json.optionalString first = Json.optionalString second) : first = second := by
  cases first <;> cases second <;> simp_all [Json.optionalString]

theorem strings_inj {first second : List String} (same : Json.strings first = Json.strings second) :
    first = second := by
  rw [Json.strings, Json.strings, Json.array.injEq] at same
  exact (List.map_inj_right fun _ _ ↦ Json.string.inj).mp same

theorem edgeNames_inj {first second : List Edge}
    (same : Json.strings (first.map Edge.name) = Json.strings (second.map Edge.name)) :
    first = second := by
  refine (List.map_inj_right fun x y ↦ ?_).mp (strings_inj same)
  have named : ∀ x ∈ Edge.every, ∀ y ∈ Edge.every, x.name = y.name → x = y := by decide
  exact named x (by cases x <;> decide) y (by cases y <;> decide)

theorem kindName_inj {first second : Kind} (same : first.name = second.name) : first = second := by
  have named : ∀ x ∈ Kind.all, ∀ y ∈ Kind.all, x.name = y.name → x = y := by decide +kernel
  exact named first (by cases first <;> decide) second (by cases second <;> decide) same

theorem tagged_inj {tag other : String} {first second : Json}
    (same : tagged tag first = tagged other second) : tag = other ∧ first = second := by
  simpa [tagged] using same

/-- The tag of a form of arguments. -/
def formTag : Form → String
  | .none => "none"
  | .flag => "flag"
  | .number => "number"
  | .text => "text"
  | .token => "token"
  | .padding => "padding"
  | .paint => "paint"
  | .stroke => "stroke"
  | .border => "border"
  | .font => "font"
  | .frame => "frame"
  | .point => "point"
  | .aspectRatio => "aspectRatio"
  | .angle => "angle"
  | .shadow => "shadow"
  | .clipShape => "clipShape"
  | .content => "content"

theorem formTag_inj {first second : Form} (same : formTag first = formTag second) :
    first = second := by
  revert same
  cases first <;> cases second <;> decide

/-- Encoded arguments begin with the tag of their form. -/
theorem exists_modifierArguments_eq (encoding : NumberEncoding)
    (arguments : ModifierArguments View) : ∃ members, encoding.modifierArguments arguments =
      .object (("type", .string (formTag arguments.form)) :: members) := by
  cases arguments <;> exact ⟨_, rfl⟩

theorem form_eq_of_modifierArguments {encoding : NumberEncoding}
    {first second : ModifierArguments View}
    (same : encoding.modifierArguments first = encoding.modifierArguments second) :
    first.form = second.form := by
  obtain ⟨members, firstTag⟩ := exists_modifierArguments_eq encoding first
  obtain ⟨others, secondTag⟩ := exists_modifierArguments_eq encoding second
  rw [firstTag, secondTag, Json.object.injEq, List.cons.injEq, Prod.mk.injEq, Json.string.injEq]
    at same
  exact formTag_inj same.1.2

section Faithful

variable {encoding : NumberEncoding} {holds : Float → Prop} (faithful : encoding.IsFaithful holds)

include faithful

theorem optional_inj {first second : Option Float} (firstHolds : ∀ x ∈ first.toList, holds x)
    (secondHolds : ∀ x ∈ second.toList, holds x)
    (same : encoding.optional first = encoding.optional second) : first = second := by
  cases first with
  | none =>
    cases second with
    | none => rfl
    | some y => exact absurd same.symm (faithful.present (secondHolds y (by simp)))
  | some x =>
    cases second with
    | none => exact absurd same (faithful.present (firstHolds x (by simp)))
    | some y =>
      exact congrArg some (faithful.number (firstHolds x (by simp)) (secondHolds y (by simp)) same)

theorem range_inj {first second : IntegerRange}
    (same : encoding.range first = encoding.range second) : first = second := by
  obtain ⟨start, stop, inclusive⟩ := first
  obtain ⟨otherStart, otherStop, otherInclusive⟩ := second
  simp only [range, Json.object.injEq, List.cons.injEq, Prod.mk.injEq, true_and, and_true,
    Json.bool.injEq] at same
  obtain ⟨sameStart, sameStop, sameInclusive⟩ := same
  rw [Int64.toInt_inj.mp (faithful.integer sameStart),
    Int64.toInt_inj.mp (faithful.integer sameStop), sameInclusive]

theorem padding_inj {first second : Padding} (firstHolds : ∀ x ∈ first.amount.toList, holds x)
    (secondHolds : ∀ x ∈ second.amount.toList, holds x)
    (same : encoding.padding first = encoding.padding second) : first = second := by
  obtain ⟨edges, amount⟩ := first
  obtain ⟨otherEdges, otherAmount⟩ := second
  dsimp only at firstHolds secondHolds
  simp only [padding, Json.object.injEq, List.cons.injEq, Prod.mk.injEq, true_and, and_true] at same
  rw [edgeNames_inj same.1, optional_inj faithful firstHolds secondHolds same.2]

theorem paint_inj {first second : Paint} (firstHolds : ∀ x ∈ first.numbers, holds x)
    (secondHolds : ∀ x ∈ second.numbers, holds x)
    (same : encoding.paint first = encoding.paint second) : first = second := by
  cases first with
  | color name opacity =>
    cases second <;> simp [paint] at same
    next otherName otherOpacity =>
    rw [same.1, optional_inj faithful firstHolds secondHolds same.2]
  | material name =>
    cases second <;> simp [paint] at same
    rw [same]
  | linearGradient colors start finish =>
    cases second <;> simp [paint] at same
    rw [strings_inj same.1, optionalString_inj same.2.1, optionalString_inj same.2.2]
  | radialGradient colors =>
    cases second <;> simp [paint] at same
    rw [strings_inj same]

theorem optionalPaint_inj {first second : Option Paint}
    (firstHolds : ∀ x ∈ paintNumbers first, holds x)
    (secondHolds : ∀ x ∈ paintNumbers second, holds x)
    (same : encoding.optionalPaint first = encoding.optionalPaint second) : first = second := by
  have present (value : Paint) : encoding.paint value ≠ .null := by
    cases value <;> simp [paint]
  cases first with
  | none =>
    cases second with
    | none => rfl
    | some value => exact absurd same.symm (present value)
  | some value =>
    cases second with
    | none => exact absurd same (present value)
    | some other =>
      rw [paintNumbers, Option.toList_some, List.flatMap_singleton] at firstHolds secondHolds
      exact congrArg some (paint_inj faithful firstHolds secondHolds same)

theorem stroke_inj {first second : Stroke} (firstHolds : ∀ x ∈ first.numbers, holds x)
    (secondHolds : ∀ x ∈ second.numbers, holds x)
    (same : encoding.stroke first = encoding.stroke second) : first = second := by
  obtain ⟨paint, width⟩ := first
  obtain ⟨otherPaint, otherWidth⟩ := second
  simp only [Stroke.numbers, List.forall_mem_append] at firstHolds secondHolds
  simp only [stroke, Json.object.injEq, List.cons.injEq, Prod.mk.injEq, true_and, and_true] at same
  rw [optionalPaint_inj faithful firstHolds.1 secondHolds.1 same.1,
    optional_inj faithful firstHolds.2 secondHolds.2 same.2]

theorem font_inj {first second : Font} (firstHolds : ∀ x ∈ first.size.toList, holds x)
    (secondHolds : ∀ x ∈ second.size.toList, holds x)
    (same : encoding.font first = encoding.font second) : first = second := by
  obtain ⟨style, size, weight, design, family⟩ := first
  obtain ⟨otherStyle, otherSize, otherWeight, otherDesign, otherFamily⟩ := second
  dsimp only at firstHolds secondHolds
  simp only [font, Json.object.injEq, List.cons.injEq, Prod.mk.injEq, true_and, and_true] at same
  obtain ⟨sameStyle, sameSize, sameWeight, sameDesign, sameFamily⟩ := same
  rw [optionalString_inj sameStyle, optional_inj faithful firstHolds secondHolds sameSize,
    optionalString_inj sameWeight, optionalString_inj sameDesign, optionalString_inj sameFamily]

theorem dimension_inj {first second : Option Dimension}
    (firstHolds : ∀ x ∈ dimensionNumbers first, holds x)
    (secondHolds : ∀ x ∈ dimensionNumbers second, holds x)
    (same : encoding.dimension first = encoding.dimension second) : first = second := by
  rcases first with _ | _ | _ <;> rcases second with _ | _ | _ <;> simp [dimension] at same ⊢
  next length other =>
  exact faithful.number (firstHolds length (by simp [dimensionNumbers]))
    (secondHolds other (by simp [dimensionNumbers])) same

theorem frame_inj {first second : Frame} (firstHolds : ∀ x ∈ first.numbers, holds x)
    (secondHolds : ∀ x ∈ second.numbers, holds x)
    (same : encoding.frame first = encoding.frame second) : first = second := by
  cases first
  cases second
  simp only [Frame.numbers, List.forall_mem_append] at firstHolds secondHolds
  obtain ⟨⟨⟨⟨⟨width, height⟩, minWidth⟩, maxWidth⟩, minHeight⟩, maxHeight⟩ := firstHolds
  obtain ⟨⟨⟨⟨⟨width', height'⟩, minWidth'⟩, maxWidth'⟩, minHeight'⟩, maxHeight'⟩ := secondHolds
  simp only [frame, Json.object.injEq, List.cons.injEq, Prod.mk.injEq, true_and, and_true] at same
  obtain ⟨sameWidth, sameHeight, sameMinWidth, sameMaxWidth, sameMinHeight, sameMaxHeight,
    sameAlignment⟩ := same
  rw [dimension_inj faithful width width' sameWidth,
    dimension_inj faithful height height' sameHeight,
    dimension_inj faithful minWidth minWidth' sameMinWidth,
    dimension_inj faithful maxWidth maxWidth' sameMaxWidth,
    dimension_inj faithful minHeight minHeight' sameMinHeight,
    dimension_inj faithful maxHeight maxHeight' sameMaxHeight, optionalString_inj sameAlignment]

theorem point_inj {first second : Point}
    (firstHolds : ∀ x ∈ first.x.toList ++ first.y.toList, holds x)
    (secondHolds : ∀ x ∈ second.x.toList ++ second.y.toList, holds x)
    (same : encoding.point first = encoding.point second) : first = second := by
  cases first
  cases second
  simp only [List.forall_mem_append] at firstHolds secondHolds
  simp only [point, Json.object.injEq, List.cons.injEq, Prod.mk.injEq, true_and, and_true] at same
  rw [optional_inj faithful firstHolds.1 secondHolds.1 same.1,
    optional_inj faithful firstHolds.2 secondHolds.2 same.2]

theorem aspectRatio_inj {first second : AspectRatio}
    (firstHolds : ∀ x ∈ first.ratio.toList, holds x)
    (secondHolds : ∀ x ∈ second.ratio.toList, holds x)
    (same : encoding.aspectRatio first = encoding.aspectRatio second) : first = second := by
  cases first
  cases second
  dsimp only at firstHolds secondHolds
  simp only [aspectRatio, Json.object.injEq, List.cons.injEq, Prod.mk.injEq, true_and,
    and_true] at same
  rw [optional_inj faithful firstHolds secondHolds same.1, optionalString_inj same.2]

theorem angle_inj {first second : Angle} (firstHolds : holds first.number)
    (secondHolds : holds second.number) (same : encoding.angle first = encoding.angle second) :
    first = second := by
  cases first <;> cases second <;> simp [angle] at same ⊢
  all_goals exact faithful.number firstHolds secondHolds same

theorem shadow_inj {first second : Shadow} (firstHolds : ∀ x ∈ first.numbers, holds x)
    (secondHolds : ∀ x ∈ second.numbers, holds x)
    (same : encoding.shadow first = encoding.shadow second) : first = second := by
  cases first
  cases second
  simp only [Shadow.numbers, List.forall_mem_append] at firstHolds secondHolds
  obtain ⟨⟨⟨color, radius⟩, x⟩, y⟩ := firstHolds
  obtain ⟨⟨⟨color', radius'⟩, x'⟩, y'⟩ := secondHolds
  simp only [shadow, Json.object.injEq, List.cons.injEq, Prod.mk.injEq, true_and, and_true] at same
  obtain ⟨sameColor, sameRadius, sameX, sameY⟩ := same
  rw [optionalPaint_inj faithful color color' sameColor,
    optional_inj faithful radius radius' sameRadius,
    optional_inj faithful x x' sameX, optional_inj faithful y y' sameY]

theorem clipShape_inj {first second : ClipShape}
    (firstHolds : ∀ x ∈ first.cornerRadius.toList, holds x)
    (secondHolds : ∀ x ∈ second.cornerRadius.toList, holds x)
    (same : encoding.clipShape first = encoding.clipShape second) : first = second := by
  cases first
  cases second
  dsimp only at firstHolds secondHolds
  simp only [clipShape, Json.object.injEq, List.cons.injEq, Prod.mk.injEq, true_and, and_true,
    Json.string.injEq] at same
  rw [same.1, optional_inj faithful firstHolds secondHolds same.2]

/-! ## Views -/

theorem modifierArguments_inj_of_flat {first second : ModifierArguments View}
    (flat : first.form ≠ .content) (firstHolds : ∀ x ∈ argumentsNumbers first, holds x)
    (secondHolds : ∀ x ∈ argumentsNumbers second, holds x)
    (same : encoding.modifierArguments first = encoding.modifierArguments second) :
    first = second := by
  have sameForm := form_eq_of_modifierArguments same
  cases first <;> cases second <;> cases sameForm
  case none.none => rfl
  case content.content => exact absurd rfl flat
  all_goals have sameValue := (tagged_inj same).2
  case flag.flag => rw [Json.bool.inj sameValue]
  case number.number x y =>
    rw [faithful.number (firstHolds x List.mem_cons_self) (secondHolds y List.mem_cons_self)
      sameValue]
  case text.text => rw [Json.string.inj sameValue]
  case token.token => rw [Json.string.inj sameValue]
  case padding.padding => rw [padding_inj faithful firstHolds secondHolds sameValue]
  case paint.paint => rw [paint_inj faithful firstHolds secondHolds sameValue]
  case stroke.stroke => rw [stroke_inj faithful firstHolds secondHolds sameValue]
  case border.border => rw [stroke_inj faithful firstHolds secondHolds sameValue]
  case font.font => rw [font_inj faithful firstHolds secondHolds sameValue]
  case frame.frame => rw [frame_inj faithful firstHolds secondHolds sameValue]
  case point.point => rw [point_inj faithful firstHolds secondHolds sameValue]
  case aspectRatio.aspectRatio => rw [aspectRatio_inj faithful firstHolds secondHolds sameValue]
  case angle.angle x y =>
    rw [angle_inj faithful (firstHolds x.number List.mem_cons_self)
      (secondHolds y.number List.mem_cons_self) sameValue]
  case shadow.shadow => rw [shadow_inj faithful firstHolds secondHolds sameValue]
  case clipShape.clipShape => rw [clipShape_inj faithful firstHolds secondHolds sameValue]

theorem propertyValue_inj_of_flat {first second : PropertyValue View}
    (flat : ∀ view, first ≠ .view view) (firstHolds : ∀ x ∈ valueNumbers first, holds x)
    (secondHolds : ∀ x ∈ valueNumbers second, holds x)
    (same : encoding.propertyValue first = encoding.propertyValue second) : first = second := by
  cases first <;> cases second <;> obtain ⟨sameTag, sameValue⟩ := tagged_inj same <;>
    first | exact absurd sameTag (by decide) | skip
  case number.number x y =>
    rw [faithful.number (firstHolds x List.mem_cons_self) (secondHolds y List.mem_cons_self)
      sameValue]
  case bool.bool => rw [Json.bool.inj sameValue]
  case text.text => rw [Json.string.inj sameValue]
  case token.token => rw [Json.string.inj sameValue]
  case list.list => rw [strings_inj sameValue]
  case range.range => rw [range_inj faithful sameValue]
  case view.view view _ => exact absurd rfl (flat view)

end Faithful

variable {encoding : NumberEncoding} {holds : Float → Prop}

mutual

/-- An encoded view tells the view. -/
theorem view_inj (faithful : encoding.IsFaithful holds) :
    ∀ first second : View, (∀ x ∈ first.numbers, holds x) → (∀ x ∈ second.numbers, holds x) →
    encoding.view first = encoding.view second → first = second
  | ⟨kind, properties, modifiers, children⟩ => by
    intro second firstHolds secondHolds same
    obtain ⟨otherKind, otherProperties, otherModifiers, otherChildren⟩ := second
    simp only [View.numbers, List.forall_mem_append] at firstHolds secondHolds
    simp only [view, Json.object.injEq, List.cons.injEq, Prod.mk.injEq, true_and, and_true,
      Json.string.injEq, Json.array.injEq] at same
    obtain ⟨sameKind, sameProperties, sameModifiers, sameChildren⟩ := same
    rw [kindName_inj sameKind,
      propertyMembers_inj faithful properties _ firstHolds.1.1 secondHolds.1.1 sameProperties,
      modifierItems_inj faithful modifiers _ firstHolds.1.2 secondHolds.1.2 sameModifiers,
      viewItems_inj faithful children _ firstHolds.2 secondHolds.2 sameChildren]

theorem viewItems_inj (faithful : encoding.IsFaithful holds) :
    ∀ first second : List View, (∀ x ∈ viewsNumbers first, holds x) →
    (∀ x ∈ viewsNumbers second, holds x) →
    encoding.viewItems first = encoding.viewItems second → first = second
  | [] => by
    intro second _ _ same
    cases second with
    | nil => rfl
    | cons other others => cases same
  | view :: views => by
    intro second firstHolds secondHolds same
    cases second with
    | nil => cases same
    | cons other others =>
      simp only [viewsNumbers, List.forall_mem_append] at firstHolds secondHolds
      rw [viewItems, viewItems, List.cons.injEq] at same
      rw [view_inj faithful view other firstHolds.1 secondHolds.1 same.1,
        viewItems_inj faithful views others firstHolds.2 secondHolds.2 same.2]

theorem propertyMembers_inj (faithful : encoding.IsFaithful holds) :
    ∀ first second : List (String × PropertyValue View),
    (∀ x ∈ propertiesNumbers first, holds x) → (∀ x ∈ propertiesNumbers second, holds x) →
    encoding.propertyMembers first = encoding.propertyMembers second → first = second
  | [] => by
    intro second _ _ same
    cases second with
    | nil => rfl
    | cons other others => cases same
  | property :: properties => by
    intro second firstHolds secondHolds same
    cases second with
    | nil => cases same
    | cons other others =>
      simp only [propertiesNumbers, List.forall_mem_append] at firstHolds secondHolds
      rw [propertyMembers, propertyMembers, List.cons.injEq] at same
      rw [propertyMember_inj faithful property other firstHolds.1 secondHolds.1 same.1,
        propertyMembers_inj faithful properties others firstHolds.2 secondHolds.2 same.2]

theorem propertyMember_inj (faithful : encoding.IsFaithful holds) :
    ∀ first second : String × PropertyValue View,
    (∀ x ∈ propertyNumbers first, holds x) → (∀ x ∈ propertyNumbers second, holds x) →
    encoding.propertyMember first = encoding.propertyMember second → first = second
  | (key, value) => by
    intro second firstHolds secondHolds same
    obtain ⟨otherKey, otherValue⟩ := second
    rw [propertyMember, propertyMember, Prod.mk.injEq] at same
    rw [same.1, propertyValue_inj faithful value otherValue firstHolds secondHolds same.2]

theorem propertyValue_inj (faithful : encoding.IsFaithful holds) :
    ∀ first second : PropertyValue View,
    (∀ x ∈ valueNumbers first, holds x) → (∀ x ∈ valueNumbers second, holds x) →
    encoding.propertyValue first = encoding.propertyValue second → first = second
  | .view value => by
    intro second firstHolds secondHolds same
    cases second <;> obtain ⟨sameTag, sameValue⟩ := tagged_inj same <;>
      first | exact absurd sameTag (by decide) | skip
    next other => rw [view_inj faithful value other firstHolds secondHolds sameValue]
  | .number _ | .bool _ | .text _ | .token _ | .list _ | .range _ => by
    intro second firstHolds secondHolds same
    exact propertyValue_inj_of_flat faithful (fun _ ↦ nofun) firstHolds secondHolds same

theorem modifierItems_inj (faithful : encoding.IsFaithful holds) :
    ∀ first second : List (Modifier View),
    (∀ x ∈ modifiersNumbers first, holds x) → (∀ x ∈ modifiersNumbers second, holds x) →
    encoding.modifierItems first = encoding.modifierItems second → first = second
  | [] => by
    intro second _ _ same
    cases second with
    | nil => rfl
    | cons other others => cases same
  | modifier :: modifiers => by
    intro second firstHolds secondHolds same
    cases second with
    | nil => cases same
    | cons other others =>
      simp only [modifiersNumbers, List.forall_mem_append] at firstHolds secondHolds
      rw [modifierItems, modifierItems, List.cons.injEq] at same
      rw [modifier_inj faithful modifier other firstHolds.1 secondHolds.1 same.1,
        modifierItems_inj faithful modifiers others firstHolds.2 secondHolds.2 same.2]

theorem modifier_inj (faithful : encoding.IsFaithful holds) :
    ∀ first second : Modifier View,
    (∀ x ∈ modifierNumbers first, holds x) → (∀ x ∈ modifierNumbers second, holds x) →
    encoding.modifier first = encoding.modifier second → first = second
  | ⟨name, arguments⟩ => by
    intro second firstHolds secondHolds same
    obtain ⟨otherName, otherArguments⟩ := second
    simp only [modifier, Json.object.injEq, List.cons.injEq, Prod.mk.injEq, true_and, and_true,
      Json.string.injEq] at same
    rw [same.1,
      modifierArguments_inj faithful arguments otherArguments firstHolds secondHolds same.2]

theorem modifierArguments_inj (faithful : encoding.IsFaithful holds) :
    ∀ first second : ModifierArguments View,
    (∀ x ∈ argumentsNumbers first, holds x) → (∀ x ∈ argumentsNumbers second, holds x) →
    encoding.modifierArguments first = encoding.modifierArguments second → first = second
  | .content value => by
    intro second firstHolds secondHolds same
    have sameForm := form_eq_of_modifierArguments same
    cases second <;> cases sameForm
    next other =>
    rw [content_inj faithful value other firstHolds secondHolds (tagged_inj same).2]
  | .none | .flag _ | .number _ | .text _ | .token _ | .padding _ | .paint _ | .stroke _
  | .border _ | .font _ | .frame _ | .point _ | .aspectRatio _ | .angle _ | .shadow _
  | .clipShape _ => by
    intro second firstHolds secondHolds same
    exact modifierArguments_inj_of_flat faithful nofun firstHolds secondHolds same

theorem content_inj (faithful : encoding.IsFaithful holds) :
    ∀ first second : Content View, (∀ x ∈ contentNumbers first, holds x) →
    (∀ x ∈ contentNumbers second, holds x) →
    encoding.content first = encoding.content second → first = second
  | ⟨view, alignment⟩ => by
    intro second firstHolds secondHolds same
    obtain ⟨otherView, otherAlignment⟩ := second
    simp only [content, Json.object.injEq, List.cons.injEq, Prod.mk.injEq, true_and,
      and_true] at same
    rw [view_inj faithful view otherView firstHolds secondHolds same.1, optionalString_inj same.2]

end

/-! ## Numerals in encoded views -/

open ViewPreview.Json (HasNumerals ItemsHaveNumerals MembersHaveNumerals)

theorem hasNumerals_optionalString (text : Option String) :
    (Json.optionalString text).HasNumerals := by
  cases text <;> simp [Json.optionalString, HasNumerals]

theorem hasNumerals_strings (texts : List String) : (Json.strings texts).HasNumerals := by
  rw [Json.strings, HasNumerals]
  induction texts with
  | nil => trivial
  | cons text texts ih => exact ⟨trivial, ih⟩

theorem hasNumerals_tagged {tag : String} {value : Json} :
    (tagged tag value).HasNumerals ↔ value.HasNumerals := by
  simp [tagged, HasNumerals, MembersHaveNumerals]

section Faithful

variable (faithful : encoding.IsFaithful holds)

include faithful

theorem hasNumerals_optional {value : Option Float} (all : ∀ x ∈ value.toList, holds x) :
    (encoding.optional value).HasNumerals := by
  cases value with
  | none => trivial
  | some x => exact faithful.written (all x (by simp))

theorem hasNumerals_range (value : IntegerRange) : (encoding.range value).HasNumerals :=
  ⟨faithful.writtenInteger _, faithful.writtenInteger _, trivial, trivial⟩

theorem hasNumerals_padding {value : Padding} (all : ∀ x ∈ value.amount.toList, holds x) :
    (encoding.padding value).HasNumerals :=
  ⟨hasNumerals_strings _, hasNumerals_optional faithful all, trivial⟩

theorem hasNumerals_paint {value : Paint} (all : ∀ x ∈ value.numbers, holds x) :
    (encoding.paint value).HasNumerals := by
  cases value with
  | color name opacity => exact ⟨trivial, trivial, hasNumerals_optional faithful all, trivial⟩
  | material name => exact ⟨trivial, trivial, trivial⟩
  | linearGradient colors start finish =>
    exact ⟨trivial, hasNumerals_strings _, hasNumerals_optionalString _,
      hasNumerals_optionalString _, trivial⟩
  | radialGradient colors => exact ⟨trivial, hasNumerals_strings _, trivial⟩

theorem hasNumerals_optionalPaint {value : Option Paint} (all : ∀ x ∈ paintNumbers value, holds x) :
    (encoding.optionalPaint value).HasNumerals := by
  cases value with
  | none => trivial
  | some paint =>
    rw [paintNumbers, Option.toList_some, List.flatMap_singleton] at all
    exact hasNumerals_paint faithful all

theorem hasNumerals_stroke {value : Stroke} (all : ∀ x ∈ value.numbers, holds x) :
    (encoding.stroke value).HasNumerals := by
  obtain ⟨paint, width⟩ := List.forall_mem_append.mp all
  exact ⟨hasNumerals_optionalPaint faithful paint, hasNumerals_optional faithful width, trivial⟩

theorem hasNumerals_font {value : Font} (all : ∀ x ∈ value.size.toList, holds x) :
    (encoding.font value).HasNumerals :=
  ⟨hasNumerals_optionalString _, hasNumerals_optional faithful all, hasNumerals_optionalString _,
    hasNumerals_optionalString _, hasNumerals_optionalString _, trivial⟩

theorem hasNumerals_dimension {value : Option Dimension}
    (all : ∀ x ∈ dimensionNumbers value, holds x) : (encoding.dimension value).HasNumerals := by
  rcases value with _ | length | _
  · trivial
  · exact ⟨faithful.written (all length (by simp [dimensionNumbers])), trivial⟩
  · trivial

theorem hasNumerals_frame {value : Frame} (all : ∀ x ∈ value.numbers, holds x) :
    (encoding.frame value).HasNumerals := by
  simp only [Frame.numbers, List.forall_mem_append] at all
  obtain ⟨⟨⟨⟨⟨width, height⟩, minWidth⟩, maxWidth⟩, minHeight⟩, maxHeight⟩ := all
  exact ⟨hasNumerals_dimension faithful width, hasNumerals_dimension faithful height,
    hasNumerals_dimension faithful minWidth, hasNumerals_dimension faithful maxWidth,
    hasNumerals_dimension faithful minHeight, hasNumerals_dimension faithful maxHeight,
    hasNumerals_optionalString _, trivial⟩

theorem hasNumerals_point {value : Point}
    (all : ∀ x ∈ value.x.toList ++ value.y.toList, holds x) :
    (encoding.point value).HasNumerals := by
  obtain ⟨x, y⟩ := List.forall_mem_append.mp all
  exact ⟨hasNumerals_optional faithful x, hasNumerals_optional faithful y, trivial⟩

theorem hasNumerals_aspectRatio {value : AspectRatio} (all : ∀ x ∈ value.ratio.toList, holds x) :
    (encoding.aspectRatio value).HasNumerals :=
  ⟨hasNumerals_optional faithful all, hasNumerals_optionalString _, trivial⟩

theorem hasNumerals_angle {value : Angle} (isOf : holds value.number) :
    (encoding.angle value).HasNumerals := by
  cases value <;> exact ⟨faithful.written isOf, trivial⟩

theorem hasNumerals_shadow {value : Shadow} (all : ∀ x ∈ value.numbers, holds x) :
    (encoding.shadow value).HasNumerals := by
  simp only [Shadow.numbers, List.forall_mem_append] at all
  obtain ⟨⟨⟨color, radius⟩, x⟩, y⟩ := all
  exact ⟨hasNumerals_optionalPaint faithful color, hasNumerals_optional faithful radius,
    hasNumerals_optional faithful x, hasNumerals_optional faithful y, trivial⟩

theorem hasNumerals_clipShape {value : ClipShape} (all : ∀ x ∈ value.cornerRadius.toList, holds x) :
    (encoding.clipShape value).HasNumerals :=
  ⟨trivial, hasNumerals_optional faithful all, trivial⟩

end Faithful

mutual

theorem hasNumerals_view (faithful : encoding.IsFaithful holds) :
    ∀ value : View, (∀ x ∈ value.numbers, holds x) → (encoding.view value).HasNumerals
  | ⟨kind, properties, modifiers, children⟩ => by
    intro all
    simp only [View.numbers, List.forall_mem_append] at all
    rw [view]
    exact ⟨trivial, membersHaveNumerals_properties faithful properties all.1.1,
      itemsHaveNumerals_modifiers faithful modifiers all.1.2,
      itemsHaveNumerals_views faithful children all.2, trivial⟩

theorem itemsHaveNumerals_views (faithful : encoding.IsFaithful holds) :
    ∀ values : List View, (∀ x ∈ viewsNumbers values, holds x) →
    ItemsHaveNumerals (encoding.viewItems values)
  | [] => fun _ ↦ trivial
  | value :: values => by
    intro all
    obtain ⟨first, others⟩ := List.forall_mem_append.mp all
    exact ⟨hasNumerals_view faithful value first, itemsHaveNumerals_views faithful values others⟩

theorem membersHaveNumerals_properties (faithful : encoding.IsFaithful holds) :
    ∀ values : List (String × PropertyValue View), (∀ x ∈ propertiesNumbers values, holds x) →
    MembersHaveNumerals (encoding.propertyMembers values)
  | [] => fun _ ↦ trivial
  | (_, value) :: values => by
    intro all
    obtain ⟨first, others⟩ := List.forall_mem_append.mp all
    exact ⟨hasNumerals_propertyValue faithful value first,
      membersHaveNumerals_properties faithful values others⟩

theorem hasNumerals_propertyValue (faithful : encoding.IsFaithful holds) :
    ∀ value : PropertyValue View, (∀ x ∈ valueNumbers value, holds x) →
    (encoding.propertyValue value).HasNumerals
  | .number value => fun all ↦
    hasNumerals_tagged.mpr (faithful.written (all value List.mem_cons_self))
  | .bool _ | .text _ | .token _ => fun _ ↦ hasNumerals_tagged.mpr trivial
  | .list items => fun _ ↦ hasNumerals_tagged.mpr (hasNumerals_strings items)
  | .range value => fun _ ↦ hasNumerals_tagged.mpr (hasNumerals_range faithful value)
  | .view value => fun all ↦ hasNumerals_tagged.mpr (hasNumerals_view faithful value all)

theorem itemsHaveNumerals_modifiers (faithful : encoding.IsFaithful holds) :
    ∀ values : List (Modifier View), (∀ x ∈ modifiersNumbers values, holds x) →
    ItemsHaveNumerals (encoding.modifierItems values)
  | [] => fun _ ↦ trivial
  | ⟨_, arguments⟩ :: values => by
    intro all
    obtain ⟨first, others⟩ := List.forall_mem_append.mp all
    exact ⟨⟨trivial, hasNumerals_modifierArguments faithful arguments first, trivial⟩,
      itemsHaveNumerals_modifiers faithful values others⟩

theorem hasNumerals_modifierArguments (faithful : encoding.IsFaithful holds) :
    ∀ value : ModifierArguments View, (∀ x ∈ argumentsNumbers value, holds x) →
    (encoding.modifierArguments value).HasNumerals
  | .none => fun _ ↦ ⟨trivial, trivial⟩
  | .flag _ | .text _ | .token _ => fun _ ↦ hasNumerals_tagged.mpr trivial
  | .number value => fun all ↦
    hasNumerals_tagged.mpr (faithful.written (all value List.mem_cons_self))
  | .padding _ => fun all ↦ hasNumerals_tagged.mpr (hasNumerals_padding faithful all)
  | .paint _ => fun all ↦ hasNumerals_tagged.mpr (hasNumerals_paint faithful all)
  | .stroke _ | .border _ => fun all ↦ hasNumerals_tagged.mpr (hasNumerals_stroke faithful all)
  | .font _ => fun all ↦ hasNumerals_tagged.mpr (hasNumerals_font faithful all)
  | .frame _ => fun all ↦ hasNumerals_tagged.mpr (hasNumerals_frame faithful all)
  | .point _ => fun all ↦ hasNumerals_tagged.mpr (hasNumerals_point faithful all)
  | .aspectRatio _ => fun all ↦ hasNumerals_tagged.mpr (hasNumerals_aspectRatio faithful all)
  | .angle value => fun all ↦
    hasNumerals_tagged.mpr (hasNumerals_angle faithful (all value.number List.mem_cons_self))
  | .shadow _ => fun all ↦ hasNumerals_tagged.mpr (hasNumerals_shadow faithful all)
  | .clipShape _ => fun all ↦ hasNumerals_tagged.mpr (hasNumerals_clipShape faithful all)
  | .content ⟨view, alignment⟩ => fun all ↦
    hasNumerals_tagged.mpr
      ⟨hasNumerals_view faithful view all, hasNumerals_optionalString alignment, trivial⟩

end

end NumberEncoding

/-! ## Previews -/

namespace Preview

/-- The numbers in a preview. -/
def numbers (preview : Preview) : List Float :=
  viewsNumbers preview.root.toList

variable {encoding : NumberEncoding} {holds : Float → Prop}

theorem forall_mem_numbers_some {view : View} {messages : List String} :
    (∀ x ∈ (Preview.mk (some view) messages).numbers, holds x) ↔ ∀ x ∈ view.numbers, holds x := by
  rw [numbers, Option.toList_some, viewsNumbers, viewsNumbers, List.append_nil]

theorem hasNumerals_encode (faithful : encoding.IsFaithful holds) {preview : Preview}
    (all : ∀ x ∈ preview.numbers, holds x) : (preview.encode encoding).HasNumerals := by
  obtain ⟨root, messages⟩ := preview
  cases root with
  | none => exact ⟨trivial, NumberEncoding.hasNumerals_strings messages, trivial⟩
  | some view =>
    exact ⟨NumberEncoding.hasNumerals_view faithful view (forall_mem_numbers_some.mp all),
      NumberEncoding.hasNumerals_strings messages, trivial⟩

/-- Previews whose numbers an encoding tells apart are told apart by it. -/
theorem encode_inj (faithful : encoding.IsFaithful holds) {first second : Preview}
    (firstHolds : ∀ x ∈ first.numbers, holds x) (secondHolds : ∀ x ∈ second.numbers, holds x)
    (same : first.encode encoding = second.encode encoding) : first = second := by
  have present (view : View) : encoding.view view ≠ .null := by
    cases view
    simp [NumberEncoding.view]
  obtain ⟨root, messages⟩ := first
  obtain ⟨otherRoot, otherMessages⟩ := second
  simp only [encode, Json.object.injEq, List.cons.injEq, Prod.mk.injEq, true_and, and_true] at same
  obtain ⟨sameRoot, sameMessages⟩ := same
  rw [NumberEncoding.strings_inj sameMessages]
  cases root with
  | none =>
    cases otherRoot with
    | none => rfl
    | some view => exact absurd sameRoot.symm (present view)
  | some view =>
    cases otherRoot with
    | none => exact absurd sameRoot (present view)
    | some other =>
      rw [NumberEncoding.view_inj faithful view other (forall_mem_numbers_some.mp firstHolds)
        (forall_mem_numbers_some.mp secondHolds) sameRoot]

end Preview

end ViewPreview
