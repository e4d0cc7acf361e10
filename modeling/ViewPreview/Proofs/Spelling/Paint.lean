import ViewPreview.Proofs.Spelling.Argument

/-!
# Spelled Paints

A color is an enumeration case, possibly with an opacity, or names an asset by any string; a
material is an enumeration case; and a gradient is a call that lists its colors.  Every paint is
read back from its spelling, whatever list of names its colors are and whatever string its asset is.
-/

namespace ViewPreview.Spelling

open ViewPreview.Text ViewPreview.Call ViewPreview.Number ViewPreview.Canonical

/-- A paint that has a spelling. -/
inductive SpelledPaint where
  | color (name : ColorName) (opacity : Option Numeral)
  | asset (name : String)
  | material (name : Identifier) (isMaterial : materials.contains name.string = true)
  | linearGradient (colors : List Identifier) (start finish : Option Identifier)
  | radialGradient (colors : List Identifier)

namespace SpelledPaint

/-- The paint that is spelled. -/
def paint : SpelledPaint → Paint
  | .color name opacity => .color name.name.string (opacity.map Numeral.value)
  | .asset name => .color name none
  | .material name _ => .material name.string
  | .linearGradient colors start finish =>
    .linearGradient (colors.map Identifier.string) (start.map Identifier.string)
      (finish.map Identifier.string)
  | .radialGradient colors => .radialGradient (colors.map Identifier.string)

/-- The arguments of a gradient that has a direction. -/
def linearSlots (colors : List Identifier) (start finish : Option Identifier) : List Slot :=
  labeled (label "colors" (by decide)) (some (.dots colors)) ++
    (labeled (label "startPoint" (by decide)) (start.map .dot) ++
      labeled (label "endPoint" (by decide)) (finish.map .dot))

/-- The arguments of a gradient that has no direction. -/
def radialSlots (colors : List Identifier) : List Slot :=
  labeled (label "colors" (by decide)) (some (.dots colors))

/-- The spelling of a paint. -/
def operand : SpelledPaint → Operand
  | .color name none => .dot name.name
  | .color name (some opacity) =>
    .call (.method name.name ⟨"opacity".toList, by decide⟩) [.plain (.number opacity)]
  | .asset name => .call (.type ⟨"Color".toList, by decide⟩) [.plain (.string name)]
  | .material name _ => .dot name
  | .linearGradient colors start finish =>
    .call (.type ⟨"LinearGradient".toList, by decide⟩) (linearSlots colors start finish)
  | .radialGradient colors =>
    .call (.type ⟨"RadialGradient".toList, by decide⟩) (radialSlots colors)

end SpelledPaint

/-! ## Texts that are no gradients -/

theorem paint?_of_solid {text : List Char} (trimmed : Trimmed text)
    (solid : isGradient text = false) :
    paint? text =
      ((dropStart? "Color(".toList text).bind constructedColor?).or (namedPaint? text) := by
  rw [paint?, trimmed.trim_eq, solid, if_neg Bool.false_ne_true]

/-- Whether a text is a gradient is settled before a dot that stands behind something else. -/
theorem isGradient_append_dot {text rest : List Char} (trimmed : Trimmed text)
    (trimmedAll : Trimmed (text ++ '.' :: rest)) (visible : withoutDots text ≠ []) :
    isGradient (text ++ '.' :: rest) = isGradient text := by
  have bare : withoutDots (text ++ '.' :: rest) = withoutDots text ++ '.' :: rest := by
    rw [withoutDots, List.dropWhile_append, if_neg]
    · rfl
    · rwa [List.isEmpty_iff]
  have settled (word : String) (absent : '.' ∉ word.toList) :
      startsWith word (withoutDots text ++ '.' :: rest) = startsWith word (withoutDots text) :=
    startsWith_append_cons absent (withoutDots text) rest
  unfold isGradient isLinearGradient isRadialGradient
  dsimp only
  rw [trimmedAll.trim_eq, trimmed.trim_eq, bare, settled "LinearGradient" (by decide),
    settled "linearGradient" (by decide), settled "RadialGradient" (by decide),
    settled "radialGradient" (by decide), settled "AngularGradient" (by decide)]

/-! ## Colors -/

theorem withoutDots_identifier (name : Identifier) (rest : List Char) :
    withoutDots (name.chars ++ rest) = name.chars ++ rest := by
  have noDot (c : Char) (part : isIdentifierPart c = true) : (c == '.') = false :=
    beq_eq_false_iff_ne.mpr (ne_of_isIdentifierPart part (by decide))
  exact dropWhile_identifier noDot name rest

theorem withoutDots_caseText (name : Identifier) : withoutDots (caseText name) ≠ [] := by
  have bare := withoutDots_identifier name []
  rw [List.append_nil] at bare
  show withoutDots name.chars ≠ []
  rw [bare]
  exact name.chars_ne_nil

/-- Whether a text is a gradient is settled before the first method that is called on it. -/
theorem isGradient_caseText_append (name : Identifier) {rest : List Char}
    (trimmed : Trimmed (caseText name ++ '.' :: rest)) :
    isGradient (caseText name ++ '.' :: rest) = isGradient (caseText name) :=
  isGradient_append_dot (trimmed_caseText name) trimmed (withoutDots_caseText name)

/-- No opacity begins in a text without dots. -/
theorem findOpacityNumeral?_append {front : List Char} (noDot : '.' ∉ front) (rest : List Char) :
    findOpacityNumeral? (front ++ rest) = findOpacityNumeral? rest := by
  induction front with
  | nil => rfl
  | cons c front ih =>
    rw [List.mem_cons, not_or] at noDot
    have here : dropStart? ".opacity(".toList (c :: (front ++ rest)) = none :=
      dropStart?_cons_eq_none noDot.1
    rw [List.cons_append, findOpacityNumeral?, here, Option.bind_none, Option.none_or,
      ih noDot.2]

theorem opacityNumeral?_numeral (numeral : Numeral) :
    opacityNumeral? (numeral.text ++ [')']) = some numeral.text := by
  have ends : Numeral.EndsNumeral [')'] := stops_cons.mpr (by decide)
  rw [opacityNumeral?, trimStart_numeral, numeral.splitNumeral?_append ends]
  rfl

/-- The opacity of a color is read from the method that is called on it. -/
theorem opacity?_method (name : Identifier) (opacity : Numeral) :
    opacity? (caseText name ++ '.' :: ("opacity".toList ++ '(' :: (opacity.text ++ [')']))) =
      some opacity.value := by
  have inName : dropStart? ".opacity(".toList
      (caseText name ++ '.' :: ("opacity".toList ++ '(' :: (opacity.text ++ [')']))) = none :=
    dropStart?_method "opacity(".toList (by decide) (by decide) name _
  have found : findOpacityNumeral? ('.' :: ("opacity".toList ++ '(' :: (opacity.text ++ [')']))) =
      some opacity.text := by
    show ((some (opacity.text ++ [')'])).bind opacityNumeral?).or _ = _
    rw [Option.bind_some, opacityNumeral?_numeral, Option.some_or]
  rw [opacity?, caseText, List.cons_append, findOpacityNumeral?, ← List.cons_append, ← caseText,
    inName, Option.bind_none, Option.none_or,
    findOpacityNumeral?_append (name.not_mem_chars (by decide)), found, Option.bind_some,
    opacity.readNumeral?_text]

theorem paint?_color (name : ColorName) (opacity : Option Numeral) :
    paint? (SpelledPaint.color name opacity).operand.text =
      some (SpelledPaint.color name opacity).paint := by
  cases opacity with
  | none => exact paint?_caseText name
  | some opacity =>
    have trimmed := (SpelledPaint.color name (some opacity)).operand.trimmed
    have shape : (SpelledPaint.color name (some opacity)).operand.text =
        caseText name.name ++ '.' :: ("opacity".toList ++ '(' :: (opacity.text ++ [')'])) :=
      text_method name.name _ _
    rw [shape] at trimmed ⊢
    have unconstructed : dropStart? "Color(".toList (caseText name.name ++
        '.' :: ("opacity".toList ++ '(' :: (opacity.text ++ [')']))) = none :=
      dropStart?_cons_eq_none (by decide)
    have solid := (isGradient_caseText_append name.name trimmed).trans name.not_gradient
    rw [paint?_of_solid trimmed solid, unconstructed, Option.bind_none, Option.none_or, namedPaint?,
      token?_caseText_append name.name trimmed (stops_cons.mpr (by decide)), Option.map_some,
      name.not_material, if_neg Bool.false_ne_true, opacity?_method]
    rfl

/-- A text that constructs a color. -/
def constructedText (inner : List Char) : List Char :=
  "Color(".toList ++ (inner ++ [')'])

theorem trimmed_constructedText (inner : List Char) : Trimmed (constructedText inner) := by
  have enclosed : constructedText inner = 'C' :: (("olor(".toList ++ inner) ++ [')']) := by
    simp [constructedText]
  rw [enclosed]
  exact trimmed_enclosed _ (by decide) (by decide)

theorem paint?_constructedText {inner : List Char} {paint : Paint}
    (constructed : constructedColor? (inner ++ [')']) = some paint) :
    paint? (constructedText inner) = some paint := by
  have trimmed := trimmed_constructedText inner
  have solid : isGradient (constructedText inner) = false := by
    unfold isGradient isLinearGradient isRadialGradient
    rw [trimmed.trim_eq]
    rfl
  rw [paint?_of_solid trimmed solid, constructedText, dropStart?_append, Option.bind_some,
    constructed, Option.some_or]

/-- The asset that a constructed color names, whatever stands behind its name. -/
theorem constructedColor?_asset {name : String} {rest : List Char}
    (isArgument : IsArgument (literal name ++ rest)) :
    constructedColor? (literal name ++ rest ++ [')']) = some (.color name none) := by
  have single : argumentsOf (literal name ++ rest) = [⟨none, literal name ++ rest, none⟩] :=
    argumentsOf_last ⟨none, literal name ++ rest, isArgument⟩
  have unmixed : mixedColor? (literal name ++ rest ++ [')']) = none := by
    rw [mixedColor?, dropFinish?_append, Option.getD_some, Arguments.ofText, single]
    rfl
  rw [constructedColor?, unmixed, Option.none_or, List.append_assoc, stringLiteral?_append,
    Option.map_some]

/-- The name of an asset is any string. -/
theorem paint?_asset (name : String) :
    paint? (SpelledPaint.asset name).operand.text = some (SpelledPaint.asset name).paint := by
  have text : (SpelledPaint.asset name).operand.text = constructedText (literal name) := rfl
  have isArgument : IsArgument (literal name) := (Operand.string name).isArgument
  rw [← List.append_nil (literal name)] at isArgument
  have constructed := constructedColor?_asset isArgument
  rw [List.append_nil] at constructed
  rw [text, paint?_constructedText constructed]
  rfl

theorem paint?_material (name : Identifier) (isMaterial : materials.contains name.string = true) :
    paint? (caseText name) = some (.material name.string) := by
  have solid : isGradient (caseText name) = false := by
    have each : ∀ material ∈ materials, isGradient ('.' :: material.toList) = false := by decide
    have named := each name.string (List.contains_iff_mem.mp isMaterial)
    rwa [Identifier.string, String.toList_ofList] at named
  have unconstructed : dropStart? "Color(".toList (caseText name) = none :=
    dropStart?_cons_eq_none (by decide)
  rw [paint?_of_solid (trimmed_caseText name) solid, unconstructed, Option.bind_none,
    Option.none_or, namedPaint?, token?_caseText, Option.map_some, isMaterial, if_pos rfl]

/-! ## Gradients -/

/-- The colors of a gradient are the first list among its arguments. -/
theorem firstList?_colors (colors : List Identifier) (others : List Slot) :
    firstList? (slotsText (labeled (label "colors" (by decide)) (some (.dots colors)) ++ others)) =
      some (colors.map Identifier.string) := by
  obtain ⟨rest, same⟩ :=
    exists_slotsText_cons ⟨some (label "colors" (by decide)), .dots colors⟩ others
  have inside : Balanced '[' ']' (argumentsText (caseArguments colors)) := by
    apply balanced_of_forall
    apply forall_mem_caseArguments (fun c ↦ c ≠ '[' ∧ c ≠ ']') colors (by decide) (by decide)
    intro c part
    exact ⟨ne_of_isTokenPart part (by decide), ne_of_isTokenPart part (by decide)⟩
  have shape : slotsText (labeled (label "colors" (by decide)) (some (.dots colors)) ++ others) =
      "colors: ".toList ++ '[' :: (argumentsText (caseArguments colors) ++ ']' :: rest) := by
    refine same.trans ?_
    show "colors".toList ++ ':' :: ' ' :: '[' :: (_ ++ [']']) ++ rest = _
    simp only [List.append_assoc, List.cons_append, List.nil_append]
    rfl
  rw [shape, firstList?, between?, splitFirst?_append (by decide), Option.bind_some,
    inside.splitClosing?_eq (by decide), Option.map_some, Option.map_some,
    elementItems_caseArguments]

theorem flat_colors (colors : List Identifier) :
    ∀ slot ∈ labeled (label "colors" (by decide)) (some (.dots colors)), slot.operand.Flat :=
  flat_labeled fun _ member ↦ Option.some.inj member ▸ Operand.flat_dots colors

theorem paint?_linearGradient (colors : List Identifier) (start finish : Option Identifier) :
    paint? (SpelledPaint.linearGradient colors start finish).operand.text =
      some (SpelledPaint.linearGradient colors start finish).paint := by
  have trimmed := (SpelledPaint.linearGradient colors start finish).operand.trimmed
  have flat : ∀ slot ∈ SpelledPaint.linearSlots colors start finish, slot.operand.Flat :=
    List.forall_mem_append.mpr ⟨flat_colors colors, List.forall_mem_append.mpr
      ⟨flat_labeled_map Operand.flat_dot _ start, flat_labeled_map Operand.flat_dot _ finish⟩⟩
  have linear : isLinearGradient (SpelledPaint.linearGradient colors start finish).operand.text =
      true := by
    rw [isLinearGradient, trimmed.trim_eq]
    rfl
  have inner : callInner? (SpelledPaint.linearGradient colors start finish).operand.text =
      some (slotsText (SpelledPaint.linearSlots colors start finish)) :=
    callInner?_call _ flat
  have listed : firstList? (slotsText (SpelledPaint.linearSlots colors start finish)) =
      some (colors.map Identifier.string) :=
    firstList?_colors colors _
  rw [paint?, trimmed.trim_eq, isGradient, linear, Bool.true_or, if_pos rfl, Call.gradient, inner,
    Option.getD_some, listed, linear, if_pos rfl, ofText_slotsText]
  simp [SpelledPaint.linearSlots, SpelledPaint.paint, bind_read token?_dot]

theorem paint?_radialGradient (colors : List Identifier) :
    paint? (SpelledPaint.radialGradient colors).operand.text =
      some (SpelledPaint.radialGradient colors).paint := by
  have trimmed := (SpelledPaint.radialGradient colors).operand.trimmed
  have notLinear : isLinearGradient (SpelledPaint.radialGradient colors).operand.text = false := by
    rw [isLinearGradient, trimmed.trim_eq]
    rfl
  have radial : isRadialGradient (SpelledPaint.radialGradient colors).operand.text = true := by
    rw [isRadialGradient, trimmed.trim_eq]
    rfl
  have inner : callInner? (SpelledPaint.radialGradient colors).operand.text =
      some (slotsText (SpelledPaint.radialSlots colors)) :=
    callInner?_call _ (flat_colors colors)
  have listed : firstList? (slotsText (SpelledPaint.radialSlots colors)) =
      some (colors.map Identifier.string) := by
    have found := firstList?_colors colors []
    rwa [List.append_nil] at found
  rw [paint?, trimmed.trim_eq, isGradient, radial, Bool.or_true, if_pos rfl, Call.gradient, inner,
    Option.getD_some, listed, notLinear, if_neg Bool.false_ne_true]
  rfl

/-- A paint is read back from its spelling. -/
theorem paint?_operand (spelled : SpelledPaint) :
    paint? spelled.operand.text = some spelled.paint := by
  cases spelled with
  | color name opacity => exact paint?_color name opacity
  | asset name => exact paint?_asset name
  | material name isMaterial => exact paint?_material name isMaterial
  | linearGradient colors start finish => exact paint?_linearGradient colors start finish
  | radialGradient colors => exact paint?_radialGradient colors

end ViewPreview.Spelling
