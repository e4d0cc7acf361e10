import ViewPreview.Call.Font
import ViewPreview.Proofs.Spelling.Argument

/-!
# Spelled Fonts

A font is a text style, possibly with a weight added behind it, or a system font with any of a size,
a weight and a design, or a custom font with the name of its family.  A weight is looked for in the
whole text of a font, so the name of a family must not have parentheses; every other font is read
back from its spelling without conditions.
-/

namespace ViewPreview.Spelling

open ViewPreview.Text ViewPreview.Call ViewPreview.Number ViewPreview.Canonical

/-- The name of a weight that is added behind a font: letters only. -/
structure WeightName where
  name : Identifier
  isAsciiLetter_chars : ∀ c ∈ name.chars, isAsciiLetter c = true

/-- A font that has a spelling. -/
inductive SpelledFont where
  | style (name : Identifier) (weight : Option WeightName)
  | system (size : Option Numeral) (weight design : Option Identifier)
      (present : (size.isSome || weight.isSome || design.isSome) = true)
  | custom (family : String) (flat : ∀ c ∈ family.toList, c ≠ '(' ∧ c ≠ ')')
      (size : Option Numeral)

namespace SpelledFont

/-- The font that is spelled. -/
def font : SpelledFont → Font
  | .style name weight =>
    { style := some name.string
      weight := weight.map fun weight ↦ weight.name.string }
  | .system size weight design _ =>
    { size := size.map Numeral.value
      weight := weight.map Identifier.string
      design := design.map Identifier.string }
  | .custom family _ size =>
    { family := some family
      size := size.map Numeral.value }

/-- The arguments of a system font. -/
def systemSlots (size : Option Numeral) (weight design : Option Identifier) : List Slot :=
  labeled (label "size" (by decide)) (size.map .number) ++
    (labeled (label "weight" (by decide)) (weight.map .dot) ++
      labeled (label "design" (by decide)) (design.map .dot))

/-- The arguments of a custom font. -/
def customSlots (family : String) (size : Option Numeral) : List Slot :=
  .plain (.string family) :: labeled (label "size" (by decide)) (size.map .number)

/-- The spelling of a font. -/
def operand : SpelledFont → Operand
  | .style name none => .dot name
  | .style name (some weight) =>
    .call (.method name ⟨"weight".toList, by decide⟩) [.plain (.dot weight.name)]
  | .system size weight design _ =>
    .call (.dot ⟨"system".toList, by decide⟩) (systemSlots size weight design)
  | .custom family _ size =>
    .call (.dot ⟨"custom".toList, by decide⟩) (customSlots family size)

/-- A font that has a spelling says something. -/
theorem isEmpty_font (spelled : SpelledFont) : spelled.font.isEmpty = false := by
  cases spelled with
  | style name weight => rfl
  | system size weight design present =>
    cases size with
    | some size => rfl
    | none =>
      cases weight with
      | some weight => rfl
      | none =>
        cases design with
        | some design => rfl
        | none => exact Bool.noConfusion present
  | custom family flat size =>
    show ((_ && _ && _ && _ && false) : Bool) = false
    rw [Bool.and_false]

end SpelledFont

/-! ## Added weights -/

theorem startsWith_flat {word : String} {text : List Char} (needed : '(' ∈ word.toList)
    (flat : '(' ∉ text) : startsWith word text = false := by
  rw [startsWith_eq_isSome, dropStart?_eq_none needed flat, Option.isSome_none]

/-- A weight is added with a method call. -/
theorem addedWeight?_eq_none {text : List Char} (flat : '(' ∉ text) : addedWeight? text = none := by
  induction text with
  | nil => rfl
  | cons c text ih =>
    have method : dropStart? ".weight(".toList (c :: text) = none :=
      dropStart?_eq_none (by decide) flat
    have bold : startsWith ".bold()" (c :: text) = false := startsWith_flat (by decide) flat
    have here : leadingWeight? (c :: text) = none := by
      rw [leadingWeight?, method, bold]
      rfl
    rw [addedWeight?, here, Option.none_or]
    exact ih fun member ↦ flat (List.mem_cons_of_mem c member)

/-- No weight is added before a dot. -/
theorem addedWeight?_append {front : List Char} (noDot : '.' ∉ front) (rest : List Char) :
    addedWeight? (front ++ rest) = addedWeight? rest := by
  induction front with
  | nil => rfl
  | cons c front ih =>
    rw [List.mem_cons, not_or] at noDot
    have method : dropStart? ".weight(".toList (c :: (front ++ rest)) = none :=
      dropStart?_cons_eq_none noDot.1
    have bold : dropStart? ".bold()".toList (c :: (front ++ rest)) = none :=
      dropStart?_cons_eq_none noDot.1
    have here : leadingWeight? (c :: (front ++ rest)) = none := by
      rw [leadingWeight?, method, startsWith_eq_isSome, bold]
      rfl
    rw [List.cons_append, addedWeight?, here, Option.none_or, ih noDot.2]

theorem weightArgument?_dot (weight : WeightName) :
    weightArgument? (caseText weight.name ++ [')']) = some weight.name.string := by
  obtain ⟨name, letters⟩ := weight
  have stops : Stops isAsciiLetter [')'] := stops_cons.mpr (by decide)
  have run := takeWhile_append_of_stops letters stops
  have after := dropWhile_append_of_stops letters stops
  have first : trimStart (caseText name ++ [')']) = '.' :: (name.chars ++ [')']) :=
    trimStart_eq_self fun c member ↦ Option.some.inj member ▸ rfl
  have closing : trimStart [')'] = [')'] := rfl
  obtain ⟨c, others, same, -⟩ := name.exists_chars
  rw [Identifier.string]
  rw [same] at run after first ⊢
  rw [weightArgument?, first]
  simp only [run, after, closing]

/-- The weight that is added behind a style. -/
theorem addedWeight?_method (name : Identifier) (weight : WeightName) :
    addedWeight? (caseText name ++
      '.' :: ("weight".toList ++ '(' :: (caseText weight.name ++ [')']))) =
      some weight.name.string := by
  have inName : leadingWeight? (caseText name ++
      '.' :: ("weight".toList ++ '(' :: (caseText weight.name ++ [')']))) = none := by
    have method : dropStart? ".weight(".toList (caseText name ++
        '.' :: ("weight".toList ++ '(' :: (caseText weight.name ++ [')']))) = none :=
      dropStart?_method "weight(".toList (by decide) (by decide) name _
    have bold : startsWith ".bold()" (caseText name ++
        '.' :: ("weight".toList ++ '(' :: (caseText weight.name ++ [')']))) = false :=
      startsWith_method rfl (by decide) (by decide) name _
    rw [leadingWeight?, method, bold]
    rfl
  have found : leadingWeight? ('.' :: ("weight".toList ++ '(' :: (caseText weight.name ++ [')']))) =
      some weight.name.string := by
    show ((some (caseText weight.name ++ [')'])).bind weightArgument?).or _ = _
    rw [Option.bind_some, weightArgument?_dot, Option.some_or]
  rw [caseText, List.cons_append, addedWeight?, ← List.cons_append, ← caseText, inName,
    Option.none_or, addedWeight?_append (name.not_mem_chars (by decide)), addedWeight?, found,
    Option.some_or]

/-! ## Fonts -/

/-- A font whose spelling begins with a dot is what stands there with the weight added to it. -/
theorem font_eq (operand : Operand) {rest : List Char} (dotted : operand.text = '.' :: rest)
    {base : Font} {weight : Option String} (isBase : baseFont operand.text = base)
    (added : addedWeight? operand.text = weight) :
    font operand.text = { base with weight := weight.or base.weight } := by
  have bare : dropStart? "Font".toList operand.text = none := by
    rw [dotted]
    exact dropStart?_cons_eq_none (by decide)
  rw [font, operand.trimmed.trim_eq, bare, Option.getD_none, isBase, added]

/-- A font that is neither a system font nor a custom one is a style. -/
theorem baseFont_style {text : List Char} {style : String}
    (noSystem : startsWith ".system(" text = false) (noCustom : startsWith ".custom(" text = false)
    (named : token? text = some style) : baseFont text = { style := some style } := by
  rw [baseFont, noSystem, noCustom, named]
  rfl

theorem font_style (name : Identifier) :
    font (SpelledFont.style name none).operand.text = (SpelledFont.style name none).font := by
  have flat : '(' ∉ caseText name := fun member ↦
    ne_of_isTokenPart (isTokenPart_caseText name _ member) (by decide) rfl
  have isBase : baseFont (caseText name) = { style := some name.string } :=
    baseFont_style (startsWith_flat (by decide) flat) (startsWith_flat (by decide) flat)
      (token?_caseText name)
  exact font_eq (.dot name) rfl isBase (addedWeight?_eq_none flat)

/-- The weight of a style is the one that is added behind it. -/
theorem font_weightedStyle (name : Identifier) (weight : WeightName) :
    font (SpelledFont.style name (some weight)).operand.text =
      (SpelledFont.style name (some weight)).font := by
  have trimmed := (SpelledFont.style name (some weight)).operand.trimmed
  have shape : (SpelledFont.style name (some weight)).operand.text = caseText name ++
      '.' :: ("weight".toList ++ '(' :: (caseText weight.name ++ [')'])) :=
    text_method name _ _
  have isBase : baseFont (SpelledFont.style name (some weight)).operand.text =
      { style := some name.string } := by
    rw [shape] at trimmed ⊢
    apply baseFont_style
    · exact startsWith_method rfl (by decide) (by decide) name _
    · exact startsWith_method rfl (by decide) (by decide) name _
    · exact token?_caseText_append name trimmed (stops_cons.mpr (by decide))
  have added : addedWeight? (SpelledFont.style name (some weight)).operand.text =
      some weight.name.string := by
    rw [shape]
    exact addedWeight?_method name weight
  exact font_eq _ rfl isBase added

/-- A weight that is an argument is not added. -/
theorem addedWeight?_call {name : Identifier} {slots : List Slot}
    (flat : ∀ slot ∈ slots, slot.operand.Flat)
    (other : leadingWeight? (Operand.call (.dot name) slots).text = none) :
    addedWeight? (Operand.call (.dot name) slots).text = none := by
  have noDot : '.' ∉ name.chars ++ ['('] := by
    rw [List.mem_append, not_or]
    exact ⟨name.not_mem_chars (by decide), by decide⟩
  have noMethod : '(' ∉ slotsText slots ++ [')'] := by
    rw [List.mem_append, not_or]
    exact ⟨fun member ↦ (flat_slotsText flat _ member).1 rfl, by decide⟩
  have shape : (Operand.call (.dot name) slots).text =
      '.' :: ((name.chars ++ ['(']) ++ (slotsText slots ++ [')'])) :=
    congrArg ('.' :: ·) (List.append_cons name.chars '(' _)
  rw [shape] at other ⊢
  rw [addedWeight?, other, Option.none_or, addedWeight?_append noDot, addedWeight?_eq_none noMethod]

theorem font_system (size : Option Numeral) (weight design : Option Identifier)
    (present : (size.isSome || weight.isSome || design.isSome) = true) :
    font (SpelledFont.system size weight design present).operand.text =
      (SpelledFont.system size weight design present).font := by
  have flat : ∀ slot ∈ SpelledFont.systemSlots size weight design, slot.operand.Flat :=
    List.forall_mem_append.mpr ⟨flat_labeled_map Operand.flat_number _ size,
      List.forall_mem_append.mpr ⟨flat_labeled_map Operand.flat_dot _ weight,
        flat_labeled_map Operand.flat_dot _ design⟩⟩
  have inner : callInner? (SpelledFont.system size weight design present).operand.text =
      some (slotsText (SpelledFont.systemSlots size weight design)) :=
    callInner?_call _ flat
  have isSystem : startsWith ".system("
      (SpelledFont.system size weight design present).operand.text = true := rfl
  have noStyle : plainOperand? (SpelledFont.systemSlots size weight design) = none := by
    simp [SpelledFont.systemSlots]
  have isBase : baseFont (SpelledFont.system size weight design present).operand.text =
      (SpelledFont.system size weight design present).font := by
    rw [baseFont, isSystem, if_pos rfl, inner, Option.getD_some, ofText_slotsText,
      firstUnlabeled?_argumentsOfSlots, noStyle]
    simp [SpelledFont.systemSlots, SpelledFont.font, bind_read token?_dot, bind_read first?_number]
  exact font_eq _ rfl isBase (addedWeight?_call flat rfl)

/-- The family of a custom font is any string without parentheses. -/
theorem font_custom (family : String) (flatFamily : ∀ c ∈ family.toList, c ≠ '(' ∧ c ≠ ')')
    (size : Option Numeral) :
    font (SpelledFont.custom family flatFamily size).operand.text =
      (SpelledFont.custom family flatFamily size).font := by
  have flat : ∀ slot ∈ SpelledFont.customSlots family size, slot.operand.Flat :=
    List.forall_mem_cons.mpr ⟨Operand.flat_string flatFamily,
      flat_labeled_map Operand.flat_number _ size⟩
  have inner : callInner? (SpelledFont.custom family flatFamily size).operand.text =
      some (slotsText (SpelledFont.customSlots family size)) :=
    callInner?_call _ flat
  have noSystem : startsWith ".system("
      (SpelledFont.custom family flatFamily size).operand.text = false := rfl
  have isCustom : startsWith ".custom("
      (SpelledFont.custom family flatFamily size).operand.text = true := rfl
  have named : (argumentsOfSlots (SpelledFont.customSlots family size) []).firstString? =
      some family :=
    firstString?_argumentsOfSlots family _ []
  have isBase : baseFont (SpelledFont.custom family flatFamily size).operand.text =
      (SpelledFont.custom family flatFamily size).font := by
    rw [baseFont, noSystem, if_neg Bool.false_ne_true, isCustom, if_pos rfl, inner,
      Option.getD_some, ofText_slotsText, named]
    simp [SpelledFont.customSlots, SpelledFont.font, bind_read first?_number]
  exact font_eq _ rfl isBase (addedWeight?_call flat rfl)

/-- A font is read back from its spelling. -/
theorem font_operand (spelled : SpelledFont) : font spelled.operand.text = spelled.font := by
  cases spelled with
  | style name weight =>
    cases weight with
    | none => exact font_style name
    | some weight => exact font_weightedStyle name weight
  | system size weight design present => exact font_system size weight design present
  | custom family flat size => exact font_custom family flat size

end ViewPreview.Spelling
