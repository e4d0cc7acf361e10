import ViewPreview.Proofs.Spelling.Font
import ViewPreview.Proofs.Spelling.Geometry
import ViewPreview.Proofs.Spelling.Paint

/-!
# Spelled Modifiers

Every form that the arguments of a modifier take has a spelling: an argument list, or the view of a
trailing closure.  A modifier of any name whose arguments are of that form is read back from its
spelling exactly, although its arguments are read by searching them for what they may be.
-/

namespace ViewPreview.Spelling

open ViewPreview.Text ViewPreview.Call ViewPreview.Number ViewPreview.Canonical

/-! ## Forms of arguments -/

/-- The ends of a token that are left out because they name the family of a style. -/
def styleFamilies : List String :=
  ["TextFieldStyle", "ButtonStyle", "ListStyle", "PickerStyle", "ToggleStyle"]

/-- Whether a token has no style family at its end. -/
def Familyless (token : Identifier) : Prop :=
  ∀ family ∈ styleFamilies, endsWith family token.chars = false

/-- The arguments of a modifier, of any form that has a spelling. -/
inductive SpelledArguments where
  | nothing
  | flag (value : Bool)
  | number (value : Numeral)
  | text (value : String)
  | token (name : Identifier) (familyless : Familyless name)
  | padding (edges : List Edge) (nonempty : edges ≠ []) (amount : Option Numeral)
  | paint (value : SpelledPaint)
  | stroke (paint : Option SpelledPaint) (width : Option Numeral)
  | border (paint : SpelledPaint) (width : Option Numeral)
  | font (value : SpelledFont)
  | frame (value : SpelledFrame)
  | point (x y : Option Numeral) (present : (x.isSome || y.isSome) = true)
  | aspectRatio (ratio : Option Numeral) (mode : Option Identifier)
      (present : (ratio.isSome || mode.isSome) = true)
  | angle (inRadians : Bool) (value : Numeral)
  | shadow (color : Option SpelledPaint) (radius : Numeral) (x y : Option Numeral)
  | clipShape (shape : Identifier) (cornerRadius : Option Numeral)
  | content (view : View) (alignment : Option Identifier)

/-- The arguments of a padding. -/
def paddingSlots (edges : List Edge) (amount : Option Numeral) : List Slot :=
  .plain (.dots (edges.map edgeName)) :: positional (amount.map .number)

/-- The arguments of a line, whose width has a label of its own. -/
def lineSlots (label : Identifier) (line : Option SpelledPaint) (width : Option Numeral) :
    List Slot :=
  positional (line.map SpelledPaint.operand) ++ labeled label (width.map .number)

/-- The arguments of a shadow. -/
def shadowSlots (color : Option SpelledPaint) (radius : Numeral) (x y : Option Numeral) :
    List Slot :=
  labeled (label "color" (by decide)) (color.map SpelledPaint.operand) ++
    (labeled (label "radius" (by decide)) (some (.number radius)) ++ coordinateSlots x y)

/-- The arguments beside the view that a modifier carries. -/
def alignmentSlots (alignment : Option Identifier) : List Slot :=
  labeled (label "alignment" isIdentifier_alignment) (alignment.map .dot)

namespace SpelledArguments

/-- The names of the modifiers that take arguments of a form. -/
def Suits (name : String) : SpelledArguments → Prop
  | .nothing => category name = .unknown
  | .flag _ => category name = .flag
  | .number _ => category name = .number ∨ category name = .badge
  | .text _ => category name = .text ∨ category name = .badge
  | .token _ _ => category name = .token
  | .padding _ _ _ => category name = .padding
  | .paint _ =>
    category name = .paint ∨ category name = .background ∨ category name = .overlay
  | .stroke _ _ => category name = .stroke
  | .border _ _ => category name = .border
  | .font _ => category name = .font
  | .frame _ => category name = .frame
  | .point _ _ _ => category name = .point ∨ name = "scaleEffect"
  | .aspectRatio _ _ _ => category name = .aspectRatio
  | .angle _ _ => category name = .angle
  | .shadow _ _ _ _ => category name = .shadow
  | .clipShape _ _ => category name = .clipShape
  | .content _ _ =>
    category name = .content ∨ category name = .background ∨ category name = .overlay

/-- What the arguments mean. -/
def value : SpelledArguments → ModifierArguments View
  | .nothing => .none
  | .flag value => .flag value
  | .number value => .number value.value
  | .text value => .text value
  | .token name _ => .token name.string
  | .padding edges _ amount => .padding ⟨edges, amount.map Numeral.value⟩
  | .paint value => .paint value.paint
  | .stroke line width => .stroke ⟨line.map SpelledPaint.paint, width.map Numeral.value⟩
  | .border line width => .border ⟨some line.paint, width.map Numeral.value⟩
  | .font value => .font value.font
  | .frame value => .frame value.frame
  | .point x y _ => .point ⟨x.map Numeral.value, y.map Numeral.value⟩
  | .aspectRatio ratio mode _ =>
    .aspectRatio ⟨ratio.map Numeral.value, mode.map Identifier.string⟩
  | .angle inRadians value => .angle (spelledAngle inRadians value)
  | .shadow color radius x y =>
    .shadow ⟨color.map SpelledPaint.paint, some radius.value, x.map Numeral.value,
      y.map Numeral.value⟩
  | .clipShape shape cornerRadius =>
    .clipShape ⟨shape.string, cornerRadius.map Numeral.value⟩
  | .content view alignment => .content ⟨view, alignment.map Identifier.string⟩

/-- The arguments between the parentheses. -/
def slots : SpelledArguments → List Slot
  | .nothing => []
  | .flag value => [.plain (.name (boolName value))]
  | .number value => [.plain (.number value)]
  | .text value => [.plain (.string value)]
  | .token name _ => [.plain (.dot name)]
  | .padding edges _ amount => paddingSlots edges amount
  | .paint value => [.plain value.operand]
  | .stroke line width => lineSlots (label "lineWidth" (by decide)) line width
  | .border line width => lineSlots (label "width" isIdentifier_width) (some line) width
  | .font value => [.plain value.operand]
  | .frame value => value.slots
  | .point x y _ => coordinateSlots x y
  | .aspectRatio ratio mode _ => aspectSlots ratio mode
  | .angle inRadians value => [.plain (angleOperand inRadians value)]
  | .shadow color radius x y => shadowSlots color radius x y
  | .clipShape shape cornerRadius => [.plain (shapeOperand shape cornerRadius)]
  | .content _ alignment => alignmentSlots alignment

/-- The views of the trailing closure. -/
def trailing : SpelledArguments → List View
  | .content view _ => [view]
  | _ => []

/-- The text between the parentheses. -/
def spelling (spelled : SpelledArguments) : List Char :=
  slotsText spelled.slots

/-- The arguments that are read from the spelling. -/
theorem arguments_spelling (spelled : SpelledArguments) :
    Arguments.mk (argumentsOf spelled.spelling) spelled.trailing =
      argumentsOfSlots spelled.slots spelled.trailing := by
  rw [spelling, argumentsOf_slotsText]
  rfl

end SpelledArguments

/-! ## Reading the arguments of a modifier -/

theorem flag_boolName (value : Bool) (trailing : List View) :
    flag (argumentsOfSlots [.plain (.name (boolName value))] trailing) = value := by
  show (boolLiteral? (boolName value).chars).getD true = value
  rw [boolLiteral?_boolName, Option.getD_some]

theorem normalizeStyle_familyless {token : Identifier} (familyless : Familyless token) :
    normalizeStyle token.string = token.string := by
  have kept : styleFamilies.findSome? (fun family ↦
      dropFinish? family.toList token.string.toList) = none := by
    rw [List.findSome?_eq_none_iff]
    intro family member
    have absent := familyless family member
    rw [endsWith, List.isSuffixOf, isPrefixOf_eq_isSome, Option.isSome_eq_false_iff,
      Option.isNone_iff_eq_none] at absent
    rw [Identifier.string, String.toList_ofList, dropFinish?, absent, Option.map_none]
  unfold normalizeStyle
  dsimp only
  split
  · next found => exact absurd (found.symm.trans kept) (Option.some_ne_none _)
  · rfl

section Read

variable (trailing : List View)

theorem padding?_paddingSlots {edges : List Edge} (nonempty : edges ≠ [])
    (amount : Option Numeral) :
    padding? (argumentsOfSlots (paddingSlots edges amount) trailing) =
      some ⟨edges, amount.map Numeral.value⟩ := by
  have read := padding?_written edges nonempty amount
  cases amount with
  | none => exact read
  | some amount => exact read

theorem unlabeledPaint?_lineSlots (label : Identifier) (line : Option SpelledPaint)
    (width : Option Numeral) :
    unlabeledPaint? (argumentsOfSlots (lineSlots label line width) trailing) =
      line.map SpelledPaint.paint := by
  simp [unlabeledPaint?, firstUnlabeled?_argumentsOfSlots, lineSlots, bind_read paint?_operand]

theorem labeledNumber?_lineSlots (title : String) (isName : isIdentifier title.toList = true)
    (line : Option SpelledPaint) (width : Option Numeral) :
    (argumentsOfSlots (lineSlots (label title isName) line width) trailing).labeledNumber? title =
      width.map Numeral.value := by
  simp [lineSlots, bind_read first?_number]

theorem shadow?_shadowSlots (color : Option SpelledPaint) (radius : Numeral)
    (x y : Option Numeral) :
    shadow? (argumentsOfSlots (shadowSlots color radius x y) trailing) =
      some ⟨color.map SpelledPaint.paint, some radius.value, x.map Numeral.value,
        y.map Numeral.value⟩ := by
  simp [shadow?, shadowSlots, coordinateSlots, labeled?_argumentsOfSlots,
    bind_read paint?_operand, bind_read first?_number, first?_number]

/-- A scale by factors for each direction is a point. -/
theorem number?_coordinateSlots (x y : Option Numeral) (present : (x.isSome || y.isSome) = true) :
    number? "scaleEffect" (argumentsOfSlots (coordinateSlots x y) trailing) =
      some (.point ⟨x.map Numeral.value, y.map Numeral.value⟩) := by
  have given : (((argumentsOfSlots (coordinateSlots x y) trailing).labeled? "x").isSome ||
      ((argumentsOfSlots (coordinateSlots x y) trailing).labeled? "y").isSome) = true := by
    simpa [isSome_labeled?_argumentsOfSlots, coordinateSlots] using present
  rw [number?, given, labeledNumber?_x, labeledNumber?_y]
  rfl

theorem labeledToken?_alignmentSlots (alignment : Option Identifier) :
    (argumentsOfSlots (alignmentSlots alignment) trailing).labeledToken? "alignment" =
      alignment.map Identifier.string := by
  simp [alignmentSlots, bind_read token?_dot]

end Read

theorem background?_paint (spelled : SpelledPaint) :
    background? (argumentsOfSlots [.plain spelled.operand] []) = some (.paint spelled.paint) := by
  have noClosure : View.single? .zStack (argumentsOfSlots [.plain spelled.operand] []).trailing =
      none := rfl
  simp only [background?, noClosure, first?_argumentsOfSlots, Option.bind_some, paint?_operand,
    Option.map_some, ite_self]

theorem overlay?_paint (spelled : SpelledPaint) :
    overlay? (argumentsOfSlots [.plain spelled.operand] []) = some (.paint spelled.paint) := by
  have noView : content? (argumentsOfSlots [.plain spelled.operand] []) = none := rfl
  simp only [overlay?, noView, first?_argumentsOfSlots, Option.bind_some, paint?_operand,
    Option.map_some]

section Carried

variable (view : View) (alignment : Option Identifier)

theorem single?_trailing :
    View.single? .zStack (argumentsOfSlots (alignmentSlots alignment) [view]).trailing =
      some view :=
  rfl

theorem content?_alignmentSlots :
    content? (argumentsOfSlots (alignmentSlots alignment) [view]) =
      some ⟨view, alignment.map Identifier.string⟩ := by
  rw [content?, single?_trailing, Option.some_or, Option.map_some, labeledToken?_alignmentSlots]

theorem background?_alignmentSlots :
    background? (argumentsOfSlots (alignmentSlots alignment) [view]) =
      some (.content ⟨view, alignment.map Identifier.string⟩) := by
  simp only [background?, single?_trailing, labeledToken?_alignmentSlots]

end Carried

/-! ## Interpretation -/

section Interpret

variable {name : String}

theorem interpret_number (value : Numeral)
    (suits : category name = .number ∨ category name = .badge) :
    interpret name (argumentsOfSlots [.plain (.number value)] []) = .ok (.number value.value) := by
  show interpret name (single value.text) = _
  rcases suits with isNumber | isBadge
  · simp only [interpret, isNumber, number?_numeral]
  · simp only [interpret, isBadge, badge?_numeral]

theorem interpret_string (value : String)
    (suits : category name = .text ∨ category name = .badge) :
    interpret name (argumentsOfSlots [.plain (.string value)] []) = .ok (.text value) := by
  rcases suits with isText | isBadge
  · simp only [interpret, isText, first?_argumentsOfSlots, Option.bind_some, Argument.content?,
      Argument.isQuoted, isQuoted_string, if_true, stringLiteral?_string, Option.map_some]
  · simp only [interpret, isBadge, badge?, first?_argumentsOfSlots, Option.bind_some,
      Argument.isQuoted, isQuoted_string, if_true, stringLiteral?_string, Option.getD_some]

theorem interpret_paint (value : SpelledPaint)
    (suits : category name = .paint ∨ category name = .background ∨ category name = .overlay) :
    interpret name (argumentsOfSlots [.plain value.operand] []) = .ok (.paint value.paint) := by
  rcases suits with isPaint | isBackground | isOverlay
  · simp only [interpret, isPaint, first?_argumentsOfSlots, Option.bind_some, paint?_operand,
      Option.map_some]
  · simp only [interpret, isBackground, background?_paint]
  · simp only [interpret, isOverlay, overlay?_paint]

theorem interpret_coordinates (x y : Option Numeral) (present : (x.isSome || y.isSome) = true)
    (suits : category name = .point ∨ name = "scaleEffect") :
    interpret name (argumentsOfSlots (coordinateSlots x y) []) =
      .ok (.point ⟨x.map Numeral.value, y.map Numeral.value⟩) := by
  rcases suits with isPoint | rfl
  · simp only [interpret, isPoint, point?_coordinateSlots x y present, Option.map_some]
  · have isNumber : category "scaleEffect" = .number := rfl
    simp only [interpret, isNumber, number?_coordinateSlots _ x y present]

theorem interpret_content (view : View) (alignment : Option Identifier)
    (suits : category name = .content ∨ category name = .background ∨ category name = .overlay) :
    interpret name (argumentsOfSlots (alignmentSlots alignment) [view]) =
      .ok (.content ⟨view, alignment.map Identifier.string⟩) := by
  rcases suits with isContent | isBackground | isOverlay
  · simp only [interpret, isContent, content?_alignmentSlots, Option.map_some]
  · simp only [interpret, isBackground, background?_alignmentSlots]
  · simp only [interpret, isOverlay, overlay?, content?_alignmentSlots]

end Interpret

/-- A modifier that is spelled with arguments of a form that its name takes. -/
structure SpelledModifier where
  name : String
  spelled : SpelledArguments
  suits : spelled.Suits name

/-- The name of an asset may look like more arguments. -/
example :
    (SpelledArguments.shadow (some (.asset "a\", x: 1"))
      ⟨false, ['4'], [], by simp, by simp [isAsciiDigit], by simp⟩ none none).spelling =
      "color: Color(\"a\\\", x: 1\"), radius: 4".toList := by
  decide

end ViewPreview.Spelling
