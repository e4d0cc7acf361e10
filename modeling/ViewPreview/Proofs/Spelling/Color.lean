import ViewPreview.Proofs.Spelling.Paint

/-!
# Color Expressions and Their Opacity

A color is an enumeration case, with or without its type in front, or it is constructed from the
name of an asset or from three channels.  The method `opacity` may be called on any of them.  Its
argument is read where the color is an enumeration case.  A constructed color is read from its own
arguments, and the method behind them is passed over: the color comes out without an opacity.
-/

namespace ViewPreview.Spelling

open ViewPreview.Text ViewPreview.Call ViewPreview.Number ViewPreview.Canonical

/-! ## Color expressions -/

/-- The name of a type: an identifier that begins with a capital letter. -/
structure TypeName where
  name : Identifier
  capital : ∃ c ∈ name.chars.head?, ('A' ≤ c && c ≤ 'Z') = true

/-- A color as it is written: an enumeration case, perhaps of a named type, the name of an asset, or
the channels it is mixed from. -/
inductive ColorExpression where
  | named (type : Option TypeName) (name : Identifier)
  | asset (name : String)
  | mixed (red green blue : Numeral)

/-- What stands in front of the dot of an enumeration case. -/
def qualifier : Option TypeName → List Char
  | none => []
  | some type => type.name.chars

/-- An enumeration case with its type. -/
def namedText (type : Option TypeName) (name : Identifier) : List Char :=
  qualifier type ++ caseText name

/-- The arguments that a color is mixed from. -/
def channelSlots (red green blue : Numeral) : List Slot :=
  [⟨some (label "red" (by decide)), .number red⟩, ⟨some (label "green" (by decide)), .number green⟩,
    ⟨some (label "blue" (by decide)), .number blue⟩]

section Named

variable (type : Option TypeName) (name : Identifier)

theorem isIdentifierPart_qualifier : ∀ c ∈ qualifier type, isIdentifierPart c = true := by
  cases type with
  | none => exact fun c member ↦ nomatch member
  | some type => exact fun c member ↦ type.name.isIdentifierPart_of_mem member

theorem not_mem_qualifier {c : Char} (other : isIdentifierPart c = false) : c ∉ qualifier type :=
  fun member ↦ ne_of_isIdentifierPart (isIdentifierPart_qualifier type c member) other rfl

theorem isTokenPart_namedText : ∀ c ∈ namedText type name, isTokenPart c = true := by
  refine List.forall_mem_append.mpr ⟨?_, isTokenPart_caseText name⟩
  exact fun c member ↦ isTokenPart_of_isIdentifierPart (isIdentifierPart_qualifier type c member)

theorem splitLabel?_namedText : splitLabel? (namedText type name) = none := by
  cases type with
  | none => exact splitLabel?_eq_none (by decide) (by decide)
  | some type =>
    have stops : Stops isIdentifierPart (caseText name) := stops_cons.mpr (by decide)
    rw [namedText, qualifier, splitLabel?, trimStart_identifier,
      type.name.splitIdentifier?_append stops]
    rfl

end Named

namespace ColorExpression

/-- A color as an operand. -/
def operand : ColorExpression → Operand
  | named type name =>
    .ofParts (namedText type name) (isTokenPart_namedText type name)
      (List.append_ne_nil_of_right_ne_nil _ (List.cons_ne_nil _ _))
      (splitLabel?_namedText type name)
  | asset name => .call (.type ⟨"Color".toList, rfl⟩) [.plain (.string name)]
  | mixed red green blue =>
    .call (.type ⟨"Color".toList, rfl⟩) (channelSlots red green blue)

/-- The text of a color. -/
def text (expression : ColorExpression) : List Char :=
  expression.operand.text

/-- Whether a color is an enumeration case. -/
def isNamed : ColorExpression → Bool
  | named _ _ => true
  | asset _ => false
  | mixed _ _ _ => false

end ColorExpression

/-- An opacity asked for by a method, as it stands behind a color. -/
def opacityCall (opacity : Numeral) : List Char :=
  '.' :: ("opacity".toList ++ '(' :: (opacity.text ++ [')']))

theorem trimmed_opacityCall (opacity : Numeral) : Trimmed (opacityCall opacity) := by
  have enclosed : opacityCall opacity =
      '.' :: (("opacity".toList ++ '(' :: opacity.text) ++ [')']) := by
    simp [opacityCall]
  rw [enclosed]
  exact trimmed_enclosed _ (by decide) (by decide)

/-! ## Enumeration cases -/

/-- A gradient is not read as a color. -/
theorem not_isGradient_of_color {text : List Char} {name : String} {opacity : Option Float}
    (trimmed : Trimmed text) (read : paint? text = some (.color name opacity)) :
    isGradient text = false := by
  rw [Bool.eq_false_iff]
  intro isGradient
  rw [paint?, trimmed.trim_eq, if_pos isGradient, Call.gradient] at read
  split at read
  · cases read
  · cases read

section Named

variable (type : Option TypeName) (name : Identifier) (rest : List Char)

theorem trimmed_namedText : Trimmed (namedText type name) :=
  (ColorExpression.named type name).operand.trimmed

theorem withoutDots_namedText : withoutDots (namedText type name) ≠ [] := by
  cases type with
  | none => exact withoutDots_caseText name
  | some type =>
    show withoutDots (type.name.chars ++ caseText name) ≠ []
    rw [withoutDots_identifier]
    exact List.append_ne_nil_of_left_ne_nil type.name.chars_ne_nil _

/-- The enumeration case at the start of a text is what the text names. -/
theorem token?_namedText_append (trimmed : Trimmed (namedText type name ++ rest))
    (stops : Stops isIdentifierPart rest) :
    token? (namedText type name ++ rest) = some name.string := by
  cases type with
  | none => exact token?_caseText_append name trimmed stops
  | some type =>
    have text : namedText (some type) name ++ rest =
        type.name.chars ++ '.' :: (name.chars ++ rest) := List.append_assoc _ _ _
    obtain ⟨c, first, capital⟩ := type.capital
    obtain ⟨others, chars⟩ := List.head?_eq_some_iff.mp first
    -- The name of the type is passed over by the second reader; the first asks for a dot in front.
    have noDot : dotToken? (type.name.chars ++ '.' :: (name.chars ++ rest)) = none := by
      have other : c ≠ '.' := by
        rintro rfl
        exact absurd capital (by decide)
      rw [chars, List.cons_append, dotToken?]
      exact fun _ same ↦ other (List.cons.inj same).1
    have ends : (type.name.chars ++ '.' :: (name.chars ++ rest)).dropWhile isIdentifierPart =
        '.' :: (name.chars ++ rest) :=
      dropWhile_append_of_stops (fun _ ↦ type.name.isIdentifierPart_of_mem)
        (stops_cons.mpr (by decide))
    have typed : typeToken? (type.name.chars ++ '.' :: (name.chars ++ rest)) =
        some name.string := by
      rw [chars, List.cons_append] at ends ⊢
      rw [typeToken?, if_pos capital, ends, dotToken?, name.splitIdentifier?_append stops]
      rfl
    rw [text] at trimmed ⊢
    rw [token?, trimmed.trim_eq, noDot, typed]
    rfl

theorem token?_namedText : token? (namedText type name) = some name.string := by
  have read := token?_namedText_append type name []
  rw [List.append_nil] at read
  exact read (trimmed_namedText type name) (stops_nil _)

/-- An enumeration case constructs no color. -/
theorem dropStart?_color_namedText :
    dropStart? "Color(".toList (namedText type name ++ rest) = none := by
  have absent : '(' ∉ qualifier type := not_mem_qualifier type (by decide)
  rw [namedText, caseText, List.append_assoc, List.cons_append,
    dropStart?_append_cons (by decide), dropStart?_eq_none (by decide) absent, Option.map_none]

/-- The opacity of an enumeration case is read from the method that is called on it. -/
theorem opacity?_namedText (opacity : Numeral) :
    opacity? (namedText type name ++ opacityCall opacity) = some opacity.value := by
  have noDot : '.' ∉ qualifier type := not_mem_qualifier type (by decide)
  rw [opacity?, namedText, List.append_assoc, findOpacityNumeral?_append noDot]
  exact opacity?_method name opacity

/-- A text that begins with an enumeration case and is no gradient is read as what the case
names. -/
theorem paint?_namedText_append (trimmed : Trimmed (namedText type name ++ rest))
    (solid : isGradient (namedText type name ++ rest) = false)
    (stops : Stops isIdentifierPart rest) :
    paint? (namedText type name ++ rest) =
      some (if materials.contains name.string then .material name.string
        else .color name.string (opacity? (namedText type name ++ rest))) := by
  rw [paint?_of_solid trimmed solid, dropStart?_color_namedText, Option.bind_none, Option.none_or,
    namedPaint?, token?_namedText_append type name rest trimmed stops, Option.map_some]

/-- An enumeration case that is read as a color is named by the case, and is read with an opacity as
well. -/
theorem paint?_named {color : String}
    (read : paint? (namedText type name) = some (.color color none)) :
    color = name.string ∧ ∀ opacity : Numeral,
      paint? (namedText type name ++ opacityCall opacity) =
        some (.color color (some opacity.value)) := by
  have trimmed := trimmed_namedText type name
  have solid := not_isGradient_of_color trimmed read
  have alone := paint?_namedText_append type name []
  rw [List.append_nil] at alone
  rw [alone trimmed solid (stops_nil _), Option.some_inj] at read
  split at read
  · cases read
  · next noMaterial =>
    obtain ⟨rfl, -⟩ := Paint.color.inj read
    refine ⟨rfl, fun opacity ↦ ?_⟩
    have nonempty := (ColorExpression.named type name).operand.nonempty
    have trimmedAll : Trimmed (namedText type name ++ opacityCall opacity) :=
      trimmed.append nonempty (trimmed_opacityCall opacity).last
    have solidAll : isGradient (namedText type name ++ opacityCall opacity) = false := by
      rw [← solid]
      exact isGradient_append_dot trimmed trimmedAll (withoutDots_namedText type name)
    rw [paint?_namedText_append type name _ trimmedAll solidAll (stops_cons.mpr (by decide)),
      if_neg noMaterial, opacity?_namedText]

end Named

/-! ## Constructed colors -/

/-- What stands behind the arguments of a constructed color and before the last parenthesis when a
method asks for an opacity. -/
def passedOver (opacity : Numeral) : List Char :=
  ')' :: '.' :: ("opacity".toList ++ '(' :: opacity.text)

theorem constructedText_append (inner : List Char) (opacity : Numeral) :
    constructedText inner ++ opacityCall opacity =
      constructedText (inner ++ passedOver opacity) := by
  simp [constructedText, opacityCall, passedOver]

/-- The method behind the arguments separates no arguments. -/
theorem unsplit_passedOver (opacity : Numeral) : Unsplit ',' {} {} (passedOver opacity) := by
  have closing : Unsplit ',' ⟨.outside, 0⟩ ⟨.outside, -1⟩ [')'] := unsplit_singleton rfl
  have method : Unsplit ',' ⟨.outside, -1⟩ ⟨.outside, -1⟩ ('.' :: "opacity".toList) :=
    unsplit_of_isTokenPart (List.all_eq_true.mp (by decide)) (-1)
  have opening : Unsplit ',' ⟨.outside, -1⟩ ⟨.outside, 0⟩ ['('] := unsplit_singleton rfl
  have parts : passedOver opacity =
      [')'] ++ (('.' :: "opacity".toList) ++ (['('] ++ opacity.text)) := rfl
  rw [parts]
  exact closing.append (method.append (opening.append (isValue_numeral opacity).unsplit))

/-- An argument with the method behind it is still one argument. -/
theorem isArgument_passedOver {value : List Char} (isArgument : IsArgument value)
    (opacity : Numeral) (unlabeled : splitLabel? (value ++ passedOver opacity) = none) :
    IsArgument (value ++ passedOver opacity) where
  unsplit := isArgument.unsplit.append (unsplit_passedOver opacity)
  trimmed := by
    have number := isValue_numeral opacity
    have method : Trimmed (')' :: '.' :: ("opacity".toList ++ ['('])) :=
      trimmed_enclosed ('.' :: "opacity".toList) (by decide) (by decide)
    have parts : passedOver opacity =
        ')' :: '.' :: ("opacity".toList ++ ['(']) ++ opacity.text := rfl
    apply isArgument.trimmed.append isArgument.nonempty
    rw [parts]
    exact (method.append (List.cons_ne_nil _ _) number.trimmed.last).last
  nonempty := List.append_ne_nil_of_left_ne_nil isArgument.nonempty _
  unlabeled := unlabeled

/-- A channel from 0 to 255. -/
def channelByte (value : Float) : Nat :=
  (roundHalfAway (clamp value 0.0 1.0 * 255.0)).toUInt8.toNat

/-- The name of a mixed color: its channels in hexadecimal. -/
def mixedName (red green blue : Numeral) : String :=
  String.ofList ('#' :: (hexByte (channelByte red.value) ++ hexByte (channelByte green.value) ++
    hexByte (channelByte blue.value)))

/-- The arguments that a color is mixed from, the last of which may have more behind it. -/
def channelArguments (red green : Numeral) {blue : List Char} (isArgument : IsArgument blue) :
    List SpelledArgument :=
  [⟨some (label "red" (by decide)), red.text, (isValue_numeral red).isArgument⟩,
    ⟨some (label "green" (by decide)), green.text, (isValue_numeral green).isArgument⟩,
    ⟨some (label "blue" (by decide)), blue, isArgument⟩]

/-- The channels of a mixed color are read, the last of them from a text that has more behind the
numeral. -/
theorem constructedColor?_mixed {red green blue : Numeral} {last : List Char}
    (read : first? last = some blue.value) (isArgument : IsArgument last) :
    constructedColor? (spelledText (channelArguments red green isArgument) ++ [')']) =
      some (.color (mixedName red green blue) none) := by
  let arguments : Arguments :=
    { values := [⟨some "red", red.text, none⟩, ⟨some "green", green.text, none⟩,
        ⟨some "blue", last, none⟩] }
  have spelled : Arguments.ofText (spelledText (channelArguments red green isArgument)) =
      arguments := by
    rw [Arguments.ofText, argumentsOf_spelledText]
    simp [channelArguments, SpelledArgument.argument, arguments]
  have first : arguments.labeledNumber? "red" = first? red.text := rfl
  have second : arguments.labeledNumber? "green" = first? green.text := rfl
  have third : arguments.labeledNumber? "blue" = first? last := rfl
  have mixed : mixedColor? (spelledText (channelArguments red green isArgument) ++ [')']) =
      some (.color (mixedName red green blue) none) := by
    rw [mixedColor?, dropFinish?_append, Option.getD_some, spelled, channel?, channel?, channel?,
      first, second, third, red.first?_text, green.first?_text, read]
    rfl
  rw [constructedColor?, mixed, Option.some_or]

namespace ColorExpression

theorem text_mixed (red green blue : Numeral) :
    (mixed red green blue).text = constructedText
      (spelledText (channelArguments red green (isValue_numeral blue).isArgument)) :=
  rfl

theorem paint?_mixed (red green blue : Numeral) :
    paint? (mixed red green blue).text = some (.color (mixedName red green blue) none) := by
  rw [text_mixed, paint?_constructedText (constructedColor?_mixed blue.first?_text _)]

/-- The method behind the name of an asset is passed over. -/
theorem paint?_asset_opacityCall (name : String) (opacity : Numeral) :
    paint? ((asset name).text ++ opacityCall opacity) = some (.color name none) := by
  have isArgument : IsArgument (literal name ++ passedOver opacity) :=
    isArgument_passedOver (Operand.string name).isArgument opacity
      (splitLabel?_eq_none (by decide) (by decide))
  have text : (asset name).text = constructedText (literal name) := rfl
  rw [text, constructedText_append, paint?_constructedText (constructedColor?_asset isArgument)]

/-- The method behind the last of three channels is passed over. -/
theorem paint?_mixed_opacityCall (red green blue opacity : Numeral) :
    paint? ((mixed red green blue).text ++ opacityCall opacity) =
      some (.color (mixedName red green blue) none) := by
  have isArgument : IsArgument (blue.text ++ passedOver opacity) := by
    obtain ⟨c, others, same, numeric⟩ := blue.text_eq_cons
    apply isArgument_passedOver (isValue_numeral blue).isArgument
    rw [same]
    exact splitLabel?_numeric numeric
  have inner : spelledText (channelArguments red green (isValue_numeral blue).isArgument) ++
      passedOver opacity = spelledText (channelArguments red green isArgument) := by
    simp [channelArguments, spelledText, SpelledArgument.text]
  -- The last argument now has the method in it, but only the numeral it begins with is read.
  have ends : Numeral.EndsNumeral (passedOver opacity) := stops_cons.mpr (by decide)
  rw [text_mixed, constructedText_append, inner,
    paint?_constructedText (constructedColor?_mixed (blue.first?_append ends) isArgument)]

/-- A color that is read without an opacity, followed by the method that asks for one.  It is read
with the same name.  The opacity is read behind an enumeration case, and it is lost behind a
constructed color. -/
theorem paint?_opacity (expression : ColorExpression) (opacity : Numeral) {name : String}
    (read : paint? expression.text = some (.color name none)) :
    paint? (expression.text ++ opacityCall opacity) =
      some (.color name (if expression.isNamed then some opacity.value else none)) := by
  cases expression with
  | named type case => exact (paint?_named type case read).2 opacity
  | asset asset =>
    have alone := (Spelling.paint?_asset asset).symm.trans read
    obtain ⟨rfl, -⟩ := Paint.color.inj (Option.some.inj alone)
    exact paint?_asset_opacityCall asset opacity
  | mixed red green blue =>
    have alone := (paint?_mixed red green blue).symm.trans read
    obtain ⟨rfl, -⟩ := Paint.color.inj (Option.some.inj alone)
    exact paint?_mixed_opacityCall red green blue opacity

/-- One half as a numeral. -/
def half : Numeral where
  negative := false
  whole := ['0']
  fraction := ['5']
  whole_ne_nil := by decide
  isAsciiDigit_whole := List.forall_mem_singleton.mpr rfl
  isAsciiDigit_fraction := List.forall_mem_singleton.mpr rfl

/-- The color `Color.blue`. -/
def typedBlue : ColorExpression :=
  .named (some ⟨⟨"Color".toList, rfl⟩, ⟨'C', rfl, rfl⟩⟩)
    ⟨"blue".toList, rfl⟩

theorem paint?_opacity_typedBlue :
    paint? "Color.blue".toList = some (.color "blue" none) ∧
      paint? "Color.blue.opacity(0.5)".toList = some (.color "blue" (some half.value)) ∧
      paint? "Color(\"Brand\").opacity(0.5)".toList = some (.color "Brand" none) := by
  have read : paint? typedBlue.text = some (.color "blue" none) := rfl
  exact ⟨read, paint?_opacity typedBlue half read,
    paint?_opacity (.asset "Brand") half (Spelling.paint?_asset "Brand")⟩

/-- The opacity of a constructed color is lost. -/
theorem asset_opacity_lost :
    ¬ ∀ (expression : ColorExpression) (opacity : Numeral) (name : String),
      paint? expression.text = some (.color name none) →
        paint? (expression.text ++ opacityCall opacity) =
          some (.color name (some opacity.value)) := by
  intro kept
  have same := (paint?_asset_opacityCall "Brand" half).symm.trans
    (kept (.asset "Brand") half "Brand" (Spelling.paint?_asset "Brand"))
  cases same

end ColorExpression

end ViewPreview.Spelling
