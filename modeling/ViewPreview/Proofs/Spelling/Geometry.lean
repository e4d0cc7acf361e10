import ViewPreview.Proofs.Spelling.Argument

/-!
# Spelled Frames, Points, Ratios, Angles and Shapes

The arguments that measure and place a view.  Each is given by operands under labels of its own, any
of which may be left out as long as one is there, and reading takes every number from under its own
label.
-/

namespace ViewPreview.Spelling

open ViewPreview.Text ViewPreview.Call ViewPreview.Number ViewPreview.Canonical

/-! ## Frames -/

theorem isIdentifier_width : isIdentifier "width".toList = true := by
  decide

theorem isIdentifier_alignment : isIdentifier "alignment".toList = true := by
  decide

/-- A dimension that has a spelling. -/
inductive SpelledDimension where
  | fixed (length : Numeral)
  | infinity

namespace SpelledDimension

/-- The dimension that is spelled. -/
def dimension : SpelledDimension → Dimension
  | .fixed length => .fixed length.value
  | .infinity => .infinity

/-- The spelling of a dimension. -/
def operand : SpelledDimension → Operand
  | .fixed length => .number length
  | .infinity => .dot ⟨"infinity".toList, by decide⟩

end SpelledDimension

theorem dimension?_operand (spelled : SpelledDimension) :
    dimension? spelled.operand.text = some spelled.dimension := by
  cases spelled with
  | fixed length =>
    have noLetter : 'y' ∉ length.text := by
      intro member
      rcases length.mem_text member with minus | point | digit
      · exact absurd minus (by decide)
      · exact absurd point (by decide)
      · exact absurd digit (by decide)
    show dimension? length.text = _
    rw [dimension?, occursIn_eq_false (by decide) noLetter, if_neg Bool.false_ne_true,
      length.first?_text]
    rfl
  | infinity => rfl

/-- A frame that has a spelling: at least one of its parts is given. -/
structure SpelledFrame where
  width : Option SpelledDimension
  height : Option SpelledDimension
  minWidth : Option SpelledDimension
  maxWidth : Option SpelledDimension
  minHeight : Option SpelledDimension
  maxHeight : Option SpelledDimension
  alignment : Option Identifier
  present : (width.isSome || height.isSome || minWidth.isSome || maxWidth.isSome ||
    minHeight.isSome || maxHeight.isSome || alignment.isSome) = true

namespace SpelledFrame

/-- The frame that is spelled. -/
def frame (spelled : SpelledFrame) : Frame where
  width := spelled.width.map SpelledDimension.dimension
  height := spelled.height.map SpelledDimension.dimension
  minWidth := spelled.minWidth.map SpelledDimension.dimension
  maxWidth := spelled.maxWidth.map SpelledDimension.dimension
  minHeight := spelled.minHeight.map SpelledDimension.dimension
  maxHeight := spelled.maxHeight.map SpelledDimension.dimension
  alignment := spelled.alignment.map Identifier.string

/-- The arguments of a frame. -/
def slots (spelled : SpelledFrame) : List Slot :=
  labeled (label "width" isIdentifier_width) (spelled.width.map SpelledDimension.operand) ++
    (labeled (label "height" (by decide)) (spelled.height.map SpelledDimension.operand) ++
      (labeled (label "minWidth" (by decide)) (spelled.minWidth.map SpelledDimension.operand) ++
        (labeled (label "maxWidth" (by decide)) (spelled.maxWidth.map SpelledDimension.operand) ++
          (labeled (label "minHeight" (by decide))
              (spelled.minHeight.map SpelledDimension.operand) ++
            (labeled (label "maxHeight" (by decide))
                (spelled.maxHeight.map SpelledDimension.operand) ++
              labeled (label "alignment" isIdentifier_alignment) (spelled.alignment.map .dot))))))

end SpelledFrame

/-- A frame is read back from its spelling. -/
theorem frame?_slots (spelled : SpelledFrame) (trailing : List View) :
    frame? (argumentsOfSlots spelled.slots trailing) = some spelled.frame := by
  have asked : (spelled.frame.hasDimensions || spelled.frame.alignment.isSome) = true := by
    have present := spelled.present
    simpa only [Frame.hasDimensions, SpelledFrame.frame, Option.isSome_map] using present
  have parts : frame? (argumentsOfSlots spelled.slots trailing) =
      if spelled.frame.hasDimensions || spelled.frame.alignment.isSome then some spelled.frame
      else none := by
    simp [frame?, labeled?_argumentsOfSlots, SpelledFrame.slots, SpelledFrame.frame,
      bind_read dimension?_operand, bind_read token?_dot]
  rw [parts, if_pos asked]

/-! ## Points -/

/-- The coordinates of a point. -/
def coordinateSlots (x y : Option Numeral) : List Slot :=
  labeled (label "x" (by decide)) (x.map .number) ++
    labeled (label "y" (by decide)) (y.map .number)

section Points

variable (x y : Option Numeral)

theorem labeledNumber?_x (trailing : List View) :
    (argumentsOfSlots (coordinateSlots x y) trailing).labeledNumber? "x" =
      x.map Numeral.value := by
  simp [coordinateSlots, bind_read first?_number]

theorem labeledNumber?_y (trailing : List View) :
    (argumentsOfSlots (coordinateSlots x y) trailing).labeledNumber? "y" =
      y.map Numeral.value := by
  simp [coordinateSlots, bind_read first?_number]

/-- A point with at least one coordinate is read back from its spelling. -/
theorem point?_coordinateSlots (present : (x.isSome || y.isSome) = true) (trailing : List View) :
    point? (argumentsOfSlots (coordinateSlots x y) trailing) =
      some ⟨x.map Numeral.value, y.map Numeral.value⟩ := by
  have found : somePoint? (x.map Numeral.value) (y.map Numeral.value) =
      some ⟨x.map Numeral.value, y.map Numeral.value⟩ := by
    rw [somePoint?, Option.isSome_map, Option.isSome_map, if_pos present]
  rw [point?, labeledNumber?_x, labeledNumber?_y, found, Option.some_or]

end Points

/-! ## Aspect ratios -/

/-- The arguments of an aspect ratio. -/
def aspectSlots (ratio : Option Numeral) (mode : Option Identifier) : List Slot :=
  positional (ratio.map .number) ++
    labeled (label "contentMode" (by decide)) (mode.map .dot)

theorem ratio?_numeral (numeral : Numeral) : ratio? numeral.text = some numeral.value := by
  have whole : '/' ∉ numeral.text := fun member ↦
    ne_of_isTokenPart (isTokenPart_numeral numeral _ member) (by decide) rfl
  rw [ratio?, splitFirst?_eq_none whole]
  exact numeral.first?_text

/-- A ratio leaves the content mode as it is. -/
theorem addAspect_numeral (aspect : AspectRatio) (numeral : Numeral) :
    addAspect aspect ⟨none, numeral.text, none⟩ = { aspect with ratio := some numeral.value } := by
  have noDot : startsWith "." numeral.text = false := startsWith_numeral rfl (by decide) numeral
  rw [addAspect, trim_numeral, noDot, if_neg Bool.false_ne_true,
    ratio?_numeral]

theorem unlabeled_labeled (label : Identifier) (optional : Option Operand)
    (trailing : List View) :
    (argumentsOfSlots (labeled label optional) trailing).unlabeled = [] := by
  cases optional with
  | none => rfl
  | some operand => rfl

/-- An aspect ratio is read back from its spelling. -/
theorem aspectRatio?_aspectSlots (ratio : Option Numeral) (mode : Option Identifier)
    (present : (ratio.isSome || mode.isSome) = true) (trailing : List View) :
    aspectRatio? (argumentsOfSlots (aspectSlots ratio mode) trailing) =
      some ⟨ratio.map Numeral.value, mode.map Identifier.string⟩ := by
  have modeNamed :
      (argumentsOfSlots (aspectSlots ratio mode) trailing).labeledToken? "contentMode" =
        mode.map Identifier.string := by
    simp [aspectSlots, bind_read token?_dot]
  have aspect : (argumentsOfSlots (aspectSlots ratio mode) trailing).unlabeled.foldl addAspect
      ⟨none, mode.map Identifier.string⟩ =
        ⟨ratio.map Numeral.value, mode.map Identifier.string⟩ := by
    have others := unlabeled_labeled (label "contentMode" (by decide)) (mode.map .dot) trailing
    cases ratio with
    | none =>
      show (argumentsOfSlots (labeled _ (mode.map .dot)) trailing).unlabeled.foldl addAspect _ = _
      rw [others]
      rfl
    | some ratio =>
      show (_ :: (argumentsOfSlots (labeled _ (mode.map .dot)) trailing).unlabeled).foldl
        addAspect _ = _
      rw [others]
      exact addAspect_numeral _ ratio
  have given : ((ratio.map Numeral.value).isNone && (mode.map Identifier.string).isNone) =
      false := by
    rw [Option.isNone_map, Option.isNone_map]
    cases ratio with
    | some ratio => rfl
    | none =>
      cases mode with
      | some mode => rfl
      | none => exact Bool.noConfusion present
  rw [aspectRatio?, modeNamed, aspect]
  dsimp only
  rw [given, if_neg Bool.false_ne_true]

/-! ## Angles -/

/-- The unit of an angle. -/
def angleUnit (inRadians : Bool) : Identifier :=
  if inRadians then ⟨"radians".toList, by decide⟩ else ⟨"degrees".toList, by decide⟩

/-- An angle, as an operand. -/
def angleOperand (inRadians : Bool) (value : Numeral) : Operand :=
  .call (.dot (angleUnit inRadians)) [.plain (.number value)]

/-- The angle that is spelled. -/
def spelledAngle (inRadians : Bool) (value : Numeral) : Angle :=
  if inRadians then .radians value.value else .degrees value.value

theorem angleNumeral?_numeral (numeral : Numeral) :
    angleNumeral? ('(' :: (numeral.text ++ [')'])) = some numeral.text := by
  have ends : Numeral.EndsNumeral [')'] := stops_cons.mpr (by decide)
  show (splitNumeral? (trimStart (numeral.text ++ [')']))).map Prod.fst = _
  rw [trimStart_numeral, numeral.splitNumeral?_append ends, Option.map_some]

/-- An angle is found where its unit stands. -/
theorem findAngle?_unit (inRadians : Bool) {rest numeral : List Char}
    (found : angleNumeral? rest = some numeral) :
    findAngle? ((angleUnit inRadians).chars ++ rest) = some (inRadians, numeral) := by
  cases inRadians with
  | false =>
    have degrees : dropStart? "degrees".toList ('d' :: ("egrees".toList ++ rest)) = some rest :=
      dropStart?_append "degrees".toList rest
    show findAngle? ('d' :: ("egrees".toList ++ rest)) = _
    rw [findAngle?, degrees]
    simp only [Option.bind_some, found, Option.map_some, Option.some_or]
  | true =>
    have degrees : dropStart? "degrees".toList ('r' :: ("adians".toList ++ rest)) = none :=
      dropStart?_cons_eq_none (by decide)
    have radians : dropStart? "radians".toList ('r' :: ("adians".toList ++ rest)) = some rest :=
      dropStart?_append "radians".toList rest
    show findAngle? ('r' :: ("adians".toList ++ rest)) = _
    rw [findAngle?, degrees, radians]
    simp only [Option.bind_some, Option.bind_none, found, Option.map_some, Option.map_none,
      Option.none_or, Option.some_or]

/-- An angle is read back from its spelling. -/
theorem angle?_angleOperand (inRadians : Bool) (value : Numeral) :
    angle? (angleOperand inRadians value).text = some (spelledAngle inRadians value) := by
  have found : findAngle? (angleOperand inRadians value).text = some (inRadians, value.text) :=
    findAngle?_unit inRadians (angleNumeral?_numeral value)
  simp only [angle?, found, Option.bind_eq_bind, Option.bind_some, value.readNumeral?_text,
    spelledAngle]

/-! ## Shapes -/

/-- A shape, as an operand. -/
def shapeOperand (shape : Identifier) (cornerRadius : Option Numeral) : Operand :=
  .call (.type shape) (labeled (label "cornerRadius" (by decide)) (cornerRadius.map .number))

/-- A shape is read back from its spelling. -/
theorem clipShape?_shapeOperand (shape : Identifier) (cornerRadius : Option Numeral) :
    clipShape? (shapeOperand shape cornerRadius).text =
      some ⟨shape.string, cornerRadius.map Numeral.value⟩ := by
  have trimmed := (shapeOperand shape cornerRadius).trimmed
  have inner : callInner? (shapeOperand shape cornerRadius).text =
      some (slotsText (labeled (label "cornerRadius" (by decide)) (cornerRadius.map .number))) :=
    callInner?_call _ (flat_labeled_map Operand.flat_number _ cornerRadius)
  have radius : (argumentsOfSlots (labeled (label "cornerRadius" (by decide))
      (cornerRadius.map .number)) []).labeledNumber? "cornerRadius" =
      cornerRadius.map Numeral.value := by
    simp [bind_read first?_number]
  have leading : leadingIdentifier? (shapeOperand shape cornerRadius).text = some shape.string := by
    rw [leadingIdentifier?, trimStart_eq_self trimmed.first]
    show (splitIdentifier? (shape.chars ++ '(' :: _)).map _ = _
    rw [shape.splitIdentifier?_append (stops_cons.mpr (by decide))]
    rfl
  obtain ⟨c, others, same, start, -⟩ := shape.exists_chars
  have noDot : c ≠ '.' :=
    ne_of_isIdentifierPart (isIdentifierPart_of_isIdentifierStart start) (by decide)
  rw [clipShape?, trimmed.trim_eq, inner, Option.bind_some, ofText_slotsText, radius]
  split
  · next token dotted =>
    have first : shape.chars ++ '(' :: _ = '.' :: token := dotted
    rw [same] at first
    exact absurd (List.cons.inj first).1 noDot
  · rw [leading, Option.map_some]

end ViewPreview.Spelling
